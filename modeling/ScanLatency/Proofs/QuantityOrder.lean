import ScanLatency.Proofs.Quantity

/-! The order of quantities as they are shown. Within one unit the rounded numbers follow the order
of the counts; from one unit to a later one a number is at most the base before and at least one
after. Seconds are a rounded sum of two rounded parts: below `2 ^ 53` whole seconds are exact and
the sum does not pass the next of them, and from there on the fraction is less than half a spacing
and is lost. -/
namespace ScanLatency.Number
namespace Magnitude

variable {m f : Magnitude} {a e : ℕ}

/-- A magnitude of full precision is a multiple of the spacing of its binade. -/
theorem exists_units_eq_normal (h : 2 ^ 52 ≤ m.units) :
    ∃ k j, 2 ^ 52 ≤ k ∧ k < 2 ^ 53 ∧ m.units = k * 2 ^ j := by
  have hcode : binadeSize ≤ m.val := by
    by_contra hlt
    rw [units, unitsAt_of_lt (Nat.not_le.1 hlt)] at h
    exact hlt h
  obtain ⟨j, rest, hrest, heq⟩ := exists_binade hcode
  refine ⟨binadeSize + rest, j, Nat.le_add_right _ _, ?_, ?_⟩
  · unfold binadeSize at *
    omega
  · rw [units, heq, unitsAt_binade j hrest]

/-- Less than half a spacing above a multiple of it, the multiple is nearest. -/
theorem unitsAt_nearestCode_add {k j r : ℕ} (hlow : 2 ^ 52 ≤ k) (hhigh : k < 2 ^ 53)
    (hr : 2 * r < 2 ^ j) : unitsAt (nearestCode (k * 2 ^ j + r) 1) = k * 2 ^ j := by
  have hdoublings : doublings (k * 2 ^ j + r) = j := by
    apply doublings_eq
    · rw [Nat.pow_add]
      exact (Nat.mul_le_mul_right _ hlow).trans (Nat.le_add_right _ _)
    · have hnext : (k + 1) * 2 ^ j ≤ 2 ^ 53 * 2 ^ j := Nat.mul_le_mul_right _ hhigh
      rw [Nat.add_mul, Nat.one_mul] at hnext
      rw [Nat.pow_add]
      omega
  have hlt : nearestEven (k * 2 ^ j + r) (2 ^ j) < k + 1 := by
    apply nearestEven_lt (Nat.two_pow_pos j)
    rw [Nat.add_mul, Nat.one_mul]
    omega
  have hle : k ≤ nearestEven (k * 2 ^ j + r) (2 ^ j) :=
    le_nearestEven (Nat.two_pow_pos j) (Nat.le_add_right _ _)
  rw [unitsAt_nearestCode _ Nat.one_pos, Nat.div_one, hdoublings, Nat.shiftLeft_eq, Nat.one_mul,
    Nat.le_antisymm (Nat.le_of_lt_succ hlt) hle]

/-- A summand below half the spacing is lost. -/
theorem sum_eq_left (hm : 2 ^ (53 + e) ≤ m.units) (hf : f.units < 2 ^ e) : m.sum f = m := by
  have hnormal : 2 ^ 52 ≤ m.units := (Nat.pow_le_pow_right Nat.two_pos (by omega)).trans hm
  obtain ⟨k, j, hlow, hhigh, hunits⟩ := exists_units_eq_normal hnormal
  have hspacing : e < j := by
    have hlt : 2 ^ (53 + e) < 2 ^ (53 + j) := calc
      2 ^ (53 + e) ≤ k * 2 ^ j := hunits ▸ hm
      _ < 2 ^ 53 * 2 ^ j := Nat.mul_lt_mul_of_pos_right hhigh (Nat.two_pow_pos j)
      _ = 2 ^ (53 + j) := (Nat.pow_add 2 53 j).symm
    have := (Nat.pow_lt_pow_iff_right (by decide)).1 hlt
    omega
  have hhalf : 2 * f.units < 2 ^ j := by
    have hle : 2 ^ (e + 1) ≤ 2 ^ j := Nat.pow_le_pow_right Nat.two_pos hspacing
    rw [Nat.pow_succ] at hle
    omega
  have hcode : unitsAt (nearestCode (m.units + f.units) 1) = unitsAt m.val := by
    have hsum := unitsAt_nearestCode_add hlow hhigh hhalf
    rwa [← hunits] at hsum
  have heq := Nat.le_antisymm (unitsAt_le_iff.1 hcode.le) (unitsAt_le_iff.1 hcode.ge)
  apply Subtype.ext
  rw [sum, val_nearest, heq]
  exact Nat.min_eq_left m.property

/-- A rounded natural number and a fraction do not add up to more than the next natural number. -/
theorem sum_fraction_le (hf : f.units < 2 ^ 1074) :
    ((ofNat a).sum f).val ≤ (ofNat (a + 1)).val := by
  rcases Nat.lt_or_ge a (2 ^ 53) with hsmall | hlarge
  · -- Both natural numbers are exact, so that the next one bounds the exact sum.
    have hscaled (e : ℕ) (hf : f.units < 2 ^ e) (ha : (ofNat a).units = a * 2 ^ e)
        (hsucc : (ofNat (a + 1)).units = (a + 1) * 2 ^ e) :
        (ofNat a).units + f.units ≤ (ofNat (a + 1)).units * 1 := by
      rw [ha, hsucc, Nat.succ_mul]
      omega
    exact nearest_le Nat.one_pos (hscaled 1074 hf (units_ofNat hsmall.le) (units_ofNat hsmall))
  · -- The spacing is two ones or more, so that a fraction is less than half of it.
    rw [sum_eq_left (two_pow_le_units_ofNat (by decide) hlarge) hf]
    exact ofNat_mono (Nat.le_succ a)

end Magnitude
end ScanLatency.Number

namespace ScanLatency.Console
open Number

namespace Duration

variable {d e : Duration}

theorem fraction_lt_one (d : Duration) : (Magnitude.inUnit d.nanos perSecond).units < 2 ^ 1074 := by
  have hlast : (Magnitude.inUnit (perSecond - 1) perSecond).units < 2 ^ 1074 := by decide +kernel
  have hmono : (Magnitude.inUnit d.nanos perSecond).val ≤
      (Magnitude.inUnit (perSecond - 1) perSecond).val :=
    Magnitude.inUnit_mono (by decide) (Nat.le_sub_one_of_lt d.nanos_lt)
  exact Nat.lt_of_le_of_lt (Magnitude.units_le_iff.2 hmono) hlast

theorem roundedSeconds_mono (h : d.toNanos ≤ e.toNanos) :
    d.roundedSeconds.val ≤ e.roundedSeconds.val := by
  have hd := d.nanos_lt
  have he := e.nanos_lt
  unfold toNanos perSecond at h
  rcases Nat.lt_or_ge d.seconds.toNat e.seconds.toNat with hlt | hge
  · calc
      d.roundedSeconds.val ≤ (Magnitude.ofNat (d.seconds.toNat + 1)).val :=
        Magnitude.sum_fraction_le d.fraction_lt_one
      _ ≤ (Magnitude.ofNat e.seconds.toNat).val := Magnitude.ofNat_mono hlt
      _ ≤ e.roundedSeconds.val := Magnitude.units_le_iff.1 Magnitude.units_le_units_sum_left
  · have hseconds : d.seconds.toNat = e.seconds.toNat := by omega
    have hnanos : d.nanos ≤ e.nanos := by omega
    unfold roundedSeconds
    rw [hseconds]
    exact Magnitude.sum_mono (Nat.le_refl _) (Magnitude.inUnit_mono (by decide) hnanos)

end Duration

/-! ### Numbers of one unit -/

theorem byteNumber_mono {a b : ℕ} (k : ℕ) (h : a ≤ b) : byteNumber a k ≤ byteNumber b k := by
  unfold byteNumber
  split_ifs with hk
  · exact Nat.cast_le.2 h
  · exact Scale.rounded_mono (Magnitude.inUnit_mono (byteScale.size_pos k) h)

theorem timeNumber_mono {d e : Duration} (k : ℕ) (h : d.toNanos ≤ e.toNanos) :
    timeNumber d k ≤ timeNumber e k := by
  unfold timeNumber
  split_ifs with hk hk'
  · exact Nat.cast_le.2 h
  · exact Scale.rounded_mono (Duration.roundedSeconds_mono h)
  · exact Scale.rounded_mono (Magnitude.inUnit_mono (timeScale.size_pos k) h)

/-! ### Quantities of one scale -/

namespace Scale

variable {s : Scale} {count count' k k' : ℕ} {text text' : String} {number number' : ℚ}

/-- What an amount comes to in the first unit. -/
def total? (s : Scale) (a : Amount) : Option ℚ :=
  if a.symbol ∈ s.symbols then some (a.number * s.size (s.symbols.idxOf a.symbol)) else none

def quantity? (s : Scale) (text : String) : Option ℚ := (readAmount text).bind s.total?

example : byteScale.quantity? "1.5 KiB" = some 1536 ∧ byteScale.quantity? "3 ns" = none := by
  decide +kernel

theorem Shows.quantity?_eq (h : s.Shows count text k number) :
    s.quantity? text = some (number * s.size k) := by
  obtain ⟨symbol, hsymbol, hread⟩ := h.read
  obtain ⟨hk, rfl⟩ := List.getElem?_eq_some_iff.1 hsymbol
  rw [quantity?, hread, Option.bind_some, total?, if_pos (List.getElem_mem hk),
    s.nodup.idxOf_getElem k hk]

theorem Shows.le_base (h : s.Shows count text k number) (hk : k + 1 < s.symbols.length) :
    number ≤ s.base := by
  by_cases hverges : s.Verges count k
  · exact (h.eq_base hk hverges).le
  · exact (h.lt_base hk hverges).le

theorem Shows.lt_length (h : s.Shows count text k number) : k < s.symbols.length := by
  obtain ⟨symbol, hsymbol, -⟩ := h.read
  exact (List.getElem?_eq_some_iff.1 hsymbol).1

theorem size_mono (s : Scale) (h : k ≤ k') : s.size k ≤ s.size k' :=
  Nat.pow_le_pow_right s.base_pos h

/-- A later unit is chosen only for a larger count. -/
theorem Shows.unit_le (h : s.Shows count text k number) (h' : s.Shows count' text' k' number')
    (hle : count ≤ count') : k ≤ k' := by
  by_contra hlt
  have hbelow := h'.lt_next (Nat.lt_of_le_of_lt (Nat.not_le.1 hlt) h.lt_length)
  have habove := h.size_le (by omega)
  have hsizes : s.size (k' + 1) ≤ s.size k := s.size_mono (Nat.not_le.1 hlt)
  omega

/-- Quantities are in order if those of one unit are. -/
theorem Shows.quantity_le (h : s.Shows count text k number) (h' : s.Shows count' text' k' number')
    (hle : count ≤ count') (hsame : k = k' → number ≤ number') :
    number * s.size k ≤ number' * s.size k' := by
  rcases Nat.eq_or_lt_of_le (h.unit_le h' hle) with heq | hlt
  · rw [← heq]
    exact mul_le_mul_of_nonneg_right (hsame heq) (Nat.cast_nonneg _)
  · -- The base of one unit is one of the next, and a later unit is not smaller.
    have hnext : number ≤ s.base := h.le_base (Nat.lt_of_le_of_lt hlt h'.lt_length)
    have hone : 1 ≤ number' := h'.one_le (by omega)
    have hsizes : (s.size (k + 1) : ℚ) ≤ s.size k' := Nat.cast_le.2 (s.size_mono hlt)
    calc
      number * s.size k ≤ s.base * s.size k := mul_le_mul_of_nonneg_right hnext (Nat.cast_nonneg _)
      _ = s.size (k + 1) := by
        rw [size, size, pow_succ, Nat.cast_mul]
        ring
      _ ≤ 1 * s.size k' := by rwa [one_mul]
      _ ≤ number' * s.size k' := mul_le_mul_of_nonneg_right hone (Nat.cast_nonneg _)

end Scale

/-- Larger counts of bytes and longer spans of time are shown as quantities that are not smaller. -/
theorem shown_quantity_mono (a b : UInt64) (d e : Duration) :
    (a ≤ b → ∃ p q,
      byteScale.quantity? (ByteQuantity.ofBytes a).text = some p ∧
      byteScale.quantity? (ByteQuantity.ofBytes b).text = some q ∧ p ≤ q) ∧
    (d.toNanos ≤ e.toNanos → ∃ p q,
      timeScale.quantity? (TimeQuantity.ofDuration d).text = some p ∧
      timeScale.quantity? (TimeQuantity.ofDuration e).text = some q ∧ p ≤ q) := by
  constructor
  · intro hab
    obtain ⟨k, ha⟩ := ByteQuantity.shows a
    obtain ⟨k', hb⟩ := ByteQuantity.shows b
    have hle : a.toNat ≤ b.toNat := UInt64.le_iff_toNat_le.1 hab
    refine ⟨_, _, ha.quantity?_eq, hb.quantity?_eq, ha.quantity_le hb hle ?_⟩
    rintro rfl
    exact byteNumber_mono k hle
  · intro hde
    obtain ⟨k, hd⟩ := TimeQuantity.shows d
    obtain ⟨k', he⟩ := TimeQuantity.shows e
    refine ⟨_, _, hd.quantity?_eq, he.quantity?_eq, hd.quantity_le he hde ?_⟩
    rintro rfl
    exact timeNumber_mono k hde

/-- At a change of units, and between the two longest spans. -/
theorem shown_quantity_mono_at_ends :
    let d : Duration := ⟨18446744073709551615, 999999998, by decide⟩
    let e : Duration := ⟨18446744073709551615, 999999999, by decide⟩
    (1048575 : UInt64) ≤ 1048576 ∧ d.toNanos ≤ e.toNanos ∧
    (∃ p q,
      byteScale.quantity? (ByteQuantity.ofBytes 1048575).text = some p ∧
      byteScale.quantity? (ByteQuantity.ofBytes 1048576).text = some q ∧ p ≤ q) ∧
    ∃ p q,
      timeScale.quantity? (TimeQuantity.ofDuration d).text = some p ∧
      timeScale.quantity? (TimeQuantity.ofDuration e).text = some q ∧ p ≤ q := by
  intro d e
  have hbytes : (1048575 : UInt64) ≤ 1048576 := by decide
  have htime : d.toNanos ≤ e.toNanos := by decide
  have hmono := shown_quantity_mono 1048575 1048576 d e
  exact ⟨hbytes, htime, hmono.1 hbytes, hmono.2 htime⟩

end ScanLatency.Console
