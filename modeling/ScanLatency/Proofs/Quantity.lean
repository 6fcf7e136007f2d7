import Mathlib.Tactic.Positivity
import ScanLatency.Console.Quantity
import ScanLatency.Proofs.Numeral
import ScanLatency.Proofs.Order

/-! Quantities as they are shown. A count is shown in the largest unit of which there is at least
one, and only then the number is rounded. So the number is at least one, and it is below the base
of its scale except where the count is within half a step of the next unit: there the number is the
base itself, in front of the smaller unit. -/
namespace ScanLatency.Number

namespace Magnitude

variable {m n : Magnitude} {places count size : ℕ}

/-- The steps of the last decimal place that come nearest to a magnitude. -/
def steps (places : ℕ) (m : Magnitude) : ℕ :=
  nearestEven (m.units * Nat.pow 10 places) unitsPerOne

theorem steps_mono (places : ℕ) (h : m.val ≤ n.val) : m.steps places ≤ n.steps places :=
  nearestEven_mono _ (Nat.mul_le_mul_right _ (units_le_iff.2 h))

theorem steps_one (places : ℕ) : (ofNat 1).steps places = 10 ^ places := by
  have hscaled (e : ℕ) (h : (ofNat 1).units = 1 * 2 ^ e) :
      nearestEven ((ofNat 1).units * Nat.pow 10 places) (Nat.pow 2 e) = 10 ^ places := by
    rw [h, Nat.one_mul, Nat.mul_comm]
    exact nearestEven_mul_left _ (Nat.two_pow_pos e)
  exact hscaled 1074 (units_ofNat (by decide))

/-- A count in a larger unit. -/
def inUnit (count size : ℕ) : Magnitude := (ofNat count).quotient (ofNat size)

theorem inUnit_mono {count' : ℕ} (hsize : 0 < size) (h : count ≤ count') :
    (inUnit count size).val ≤ (inUnit count' size).val :=
  quotient_mono (val_ofNat_ne_zero hsize) (ofNat_mono h)

/-- What is at least one unit is shown as at least one. -/
theorem one_le_inUnit (hsize : 0 < size) (h : size ≤ count) :
    (ofNat 1).val ≤ (inUnit count size).val := by
  rw [← quotient_self (val_ofNat_ne_zero hsize)]
  exact inUnit_mono hsize h

theorem units_inUnit_le (hcount : count ≤ 2 ^ 64) (hsize : 0 < size) :
    (inUnit count size).units ≤ 2 ^ 1138 := by
  have hone : 2 ^ (0 + 1074) ≤ (ofNat size).units := two_pow_le_units_ofNat (by decide) hsize
  exact units_quotient_le_two_pow (units_ofNat_le_two_pow hcount) hone (by decide)

theorem isInfinite_inUnit (hcount : count ≤ 2 ^ 64) (hsize : 0 < size) :
    (inUnit count size).isInfinite = false :=
  isInfinite_of_units_le (by decide) (units_inUnit_le hcount hsize)

end Magnitude

namespace Binary64

variable {m : Magnitude} {places count size : ℕ}

theorem ofNat_div_ofNat (hcount : count ≤ 2 ^ 64) (hsize : size ≤ 2 ^ 64) (hpos : 0 < size) :
    ofNat count / ofNat size = signed false (.inUnit count size) := by
  rw [ofNat_eq, ofNat_eq]
  exact signed_div (Magnitude.isInfinite_ofNat (by decide) hcount)
    (Magnitude.isInfinite_ofNat (by decide) hsize) (Magnitude.val_ofNat_ne_zero hpos)

/-- A number with a unit is read as its nearest steps. -/
theorem readAmount_fixedText (hm : m.isInfinite = false) (hplaces : 0 < places) (symbol : String) :
    readAmount ((signed false m).fixedText places ++ " " ++ symbol) =
      some ⟨(m.steps places : ℚ) / 10 ^ places, symbol⟩ := by
  have htext : (signed false m).fixedText places =
      FixedPoint.text ⟨false, m.steps places, places⟩ := by
    rw [fixedText, toFixed?, hm]
    rfl
  rw [htext]
  exact readAmount_numeral symbol (FixedPoint.blank_notMem_text hplaces)
    (FixedPoint.readNumeral_text hplaces)

end Binary64
end ScanLatency.Number

namespace ScanLatency.Console
open Number

/-! ### Scales -/

/-- Units, each a base times the one before. All but the first are shown with decimal places. -/
structure Scale where
  symbols : List String
  base : ℕ
  places : ℕ
  nodup : symbols.Nodup
  base_pos : 0 < base
  places_pos : 0 < places

def byteScale : Scale where
  symbols := ["B", "KiB", "MiB", "GiB"]
  base := 1024
  places := 1
  nodup := by decide
  base_pos := by decide
  places_pos := by decide

def timeScale : Scale where
  symbols := ["ns", "us", "ms", "s"]
  base := 1000
  places := 2
  nodup := by decide
  base_pos := by decide
  places_pos := by decide

namespace Scale

variable {s : Scale} {count k last : ℕ} {text symbol : String} {number : ℚ}

def size (s : Scale) (k : ℕ) : ℕ := s.base ^ k

/-- At most half a step of the last place is missing to the next unit. -/
def Verges (s : Scale) (count k : ℕ) : Prop :=
  2 * 10 ^ s.places * s.size (k + 1) ≤ 2 * 10 ^ s.places * count + s.size k

instance (s : Scale) (count k : ℕ) : Decidable (s.Verges count k) :=
  inferInstanceAs (Decidable (_ ≤ _))

example : ¬ byteScale.Verges 1048524 1 ∧ byteScale.Verges 1048525 1 := by decide
example : ¬ timeScale.Verges 999994 1 ∧ timeScale.Verges 999995 1 := by decide

/-- A text is a number in front of the symbol of the `k`-th unit. -/
def ReadsAs (s : Scale) (text : String) (k : ℕ) (number : ℚ) : Prop :=
  ∃ symbol, s.symbols[k]? = some symbol ∧ readAmount text = some ⟨number, symbol⟩

/-- How a count of the first unit is shown as a number of the `k`-th: the unit is the largest of
which there is one, and the number is at least one and below the base unless the count verges on
the next unit. -/
structure Shows (s : Scale) (count : ℕ) (text : String) (k : ℕ) (number : ℚ) : Prop where
  read : s.ReadsAs text k number
  size_le : 0 < k → s.size k ≤ count
  lt_next : k + 1 < s.symbols.length → count < s.size (k + 1)
  one_le : 0 < k → 1 ≤ number
  lt_base : k + 1 < s.symbols.length → ¬ s.Verges count k → number < s.base
  eq_base : k + 1 < s.symbols.length → s.Verges count k → number = s.base

/-- The number of units that is shown for a magnitude. -/
def rounded (s : Scale) (m : Magnitude) : ℚ := (m.steps s.places : ℚ) / 10 ^ s.places

theorem rounded_mono {m n : Magnitude} (h : m.val ≤ n.val) : s.rounded m ≤ s.rounded n := by
  have hsteps : (m.steps s.places : ℚ) ≤ n.steps s.places :=
    Nat.cast_le.2 (Magnitude.steps_mono s.places h)
  exact div_le_div_of_nonneg_right hsteps (by positivity)

theorem rounded_one (s : Scale) : s.rounded (.ofNat 1) = 1 := by
  rw [rounded, Magnitude.steps_one, Nat.cast_pow]
  exact div_self (by positivity)

theorem one_le_rounded {m : Magnitude} (h : (Magnitude.ofNat 1).val ≤ m.val) : 1 ≤ s.rounded m := by
  rw [← s.rounded_one]
  exact rounded_mono h

/-- The number is read in front of the symbol of its unit. -/
theorem read_rounded {m : Magnitude} (hm : m.isInfinite = false)
    (hsymbol : s.symbols[k]? = some symbol) :
    s.ReadsAs ((Binary64.signed false m).fixedText s.places ++ " " ++ symbol) k (s.rounded m) :=
  ⟨symbol, hsymbol, Binary64.readAmount_fixedText hm s.places_pos symbol⟩

/-- A count of the first unit is read as it is. -/
theorem shows_exact (hsymbol : s.symbols[0]? = some symbol) (hlt : count < s.base) :
    s.Shows count (toString count ++ " " ++ symbol) 0 count := by
  have hverges : ¬ s.Verges count 0 := by
    have hstep : 2 * 10 ^ s.places * (count + 1) ≤ 2 * 10 ^ s.places * s.base :=
      Nat.mul_le_mul_left _ hlt
    have hpos : 0 < 10 ^ s.places := Nat.pow_pos (by decide)
    rw [Verges, size, size, Nat.zero_add, Nat.pow_one, Nat.pow_zero]
    rw [Nat.mul_add] at hstep
    omega
  refine ⟨⟨symbol, hsymbol, ?read⟩, nofun, fun _ => ?next, nofun, fun _ _ => Nat.cast_lt.2 hlt,
    fun _ h => absurd h hverges⟩
  case read =>
    exact readAmount_numeral symbol (blank_notMem_toString count) (readNumeral_toString count)
  case next => rwa [size, Nat.zero_add, Nat.pow_one]

/-- The last count that is shown in the `k`-th unit with a number below the base. -/
structure LastBelow (s : Scale) (k last : ℕ) : Prop where
  below : (Magnitude.inUnit last (s.size k)).steps s.places < s.base * 10 ^ s.places
  reached : s.base * 10 ^ s.places ≤ (Magnitude.inUnit (last + 1) (s.size k)).steps s.places
  full : (Magnitude.inUnit (s.size (k + 1) - 1) (s.size k)).steps s.places ≤
    s.base * 10 ^ s.places
  not_verges : ¬ s.Verges last k
  verges : s.Verges (last + 1) k

theorem Verges.mono {count' : ℕ} (h : s.Verges count k) (hle : count ≤ count') :
    s.Verges count' k :=
  Nat.le_trans h (Nat.add_le_add_right (Nat.mul_le_mul_left _ hle) _)

theorem size_pos (s : Scale) (k : ℕ) : 0 < s.size k := Nat.pow_pos s.base_pos

theorem LastBelow.verges_iff (h : s.LastBelow k last) : s.Verges count k ↔ last < count := by
  constructor
  · intro hverges
    by_contra hle
    exact h.not_verges (hverges.mono (Nat.not_lt.1 hle))
  · exact h.verges.mono

/-- Between two units the number rises from one to the base, which it reaches after `last`. -/
theorem LastBelow.shows (h : s.LastBelow k last) (hsymbol : s.symbols[k]? = some symbol)
    (hsize : s.size k ≤ count) (hnext : count < s.size (k + 1)) (hword : count ≤ 2 ^ 64) :
    s.Shows count ((Binary64.ofNat count / .ofNat (s.size k)).fixedText s.places ++ " " ++ symbol) k
      (s.rounded (.inUnit count (s.size k))) := by
  have hpos := s.size_pos k
  have hplaces : (0 : ℚ) < 10 ^ s.places := by positivity
  have hbase : (s.base : ℚ) * 10 ^ s.places = (s.base * 10 ^ s.places : ℕ) := by push_cast; rfl
  rw [Binary64.ofNat_div_ofNat hword (hsize.trans hword) hpos]
  refine ⟨read_rounded (Magnitude.isInfinite_inUnit hword hpos) hsymbol, fun _ => hsize,
    fun _ => hnext, fun _ => ?one, fun _ hverges => ?below, fun _ hverges => ?base⟩
  case one => exact one_le_rounded (Magnitude.one_le_inUnit hpos hsize)
  case below =>
    rw [h.verges_iff, Nat.not_lt] at hverges
    have hsteps := Magnitude.steps_mono s.places (Magnitude.inUnit_mono hpos hverges)
    rw [rounded, div_lt_iff₀ hplaces, hbase]
    exact Nat.cast_lt.2 (Nat.lt_of_le_of_lt hsteps h.below)
  case base =>
    rw [h.verges_iff] at hverges
    have hlower := Magnitude.steps_mono s.places (Magnitude.inUnit_mono hpos hverges)
    have hupper := Magnitude.steps_mono s.places
      (Magnitude.inUnit_mono hpos (Nat.le_sub_one_of_lt hnext))
    rw [rounded, div_eq_iff hplaces.ne', hbase]
    exact congrArg Nat.cast (Nat.le_antisymm (hupper.trans h.full) (h.reached.trans hlower))

/-- In the last unit the number has no bound. -/
theorem shows_last {m : Magnitude} (hm : m.isInfinite = false)
    (hone : (Magnitude.ofNat 1).val ≤ m.val) (hsymbol : s.symbols[k]? = some symbol)
    (hlast : s.symbols.length = k + 1) (hsize : s.size k ≤ count) :
    s.Shows count ((Binary64.signed false m).fixedText s.places ++ " " ++ symbol) k
      (s.rounded m) := by
  have hnone : ¬ k + 1 < s.symbols.length := by omega
  exact ⟨read_rounded hm hsymbol, fun _ => hsize, fun h => absurd h hnone,
    fun _ => one_le_rounded hone, fun h => absurd h hnone, fun h => absurd h hnone⟩

theorem kibi_lastBelow : byteScale.LastBelow 1 1048524 :=
  ⟨by decide +kernel, by decide +kernel, by decide +kernel, by decide, by decide⟩

theorem mebi_lastBelow : byteScale.LastBelow 2 1073689395 :=
  ⟨by decide +kernel, by decide +kernel, by decide +kernel, by decide, by decide⟩

theorem micro_lastBelow : timeScale.LastBelow 1 999994 :=
  ⟨by decide +kernel, by decide +kernel, by decide +kernel, by decide, by decide⟩

theorem milli_lastBelow : timeScale.LastBelow 2 999994999 :=
  ⟨by decide +kernel, by decide +kernel, by decide +kernel, by decide, by decide⟩

end Scale

/-! ### Bytes -/

/-- The number that a count of bytes is shown with in the `k`-th unit. -/
def byteNumber (count k : ℕ) : ℚ :=
  if k = 0 then count else byteScale.rounded (.inUnit count (byteScale.size k))

theorem ByteQuantity.text_exact (n : ℕ) : (exact n).text = toString n ++ " " ++ "B" := by
  rw [String.append_assoc]
  rfl

theorem ByteQuantity.shows (bytes : UInt64) : ∃ k,
    byteScale.Shows bytes.toNat (ofBytes bytes).text k (byteNumber bytes.toNat k) := by
  have hword : bytes.toNat ≤ 2 ^ 64 := bytes.toNat_lt.le
  unfold ofBytes
  simp only
  split_ifs with hgibi hmebi hkibi
  · refine ⟨3, ?_⟩
    rw [convert, Binary64.ofNat_div_ofNat hword (by decide) (by decide)]
    exact Scale.shows_last (Magnitude.isInfinite_inUnit hword (by decide))
      (Magnitude.one_le_inUnit (by decide) hgibi) rfl rfl hgibi
  · exact ⟨2, Scale.mebi_lastBelow.shows rfl hmebi (Nat.not_le.1 hgibi) hword⟩
  · exact ⟨1, Scale.kibi_lastBelow.shows rfl hkibi (Nat.not_le.1 hmebi) hword⟩
  · have hlt : bytes.toNat < byteScale.base := Nat.not_le.1 hkibi
    rw [text_exact]
    exact ⟨0, Scale.shows_exact rfl hlt⟩

/-! ### Spans of time -/

namespace Duration

def roundedSeconds (d : Duration) : Magnitude :=
  (Magnitude.ofNat d.seconds.toNat).sum (.inUnit d.nanos perSecond)

theorem toSeconds_eq (d : Duration) : d.toSeconds = .signed false d.roundedSeconds := by
  have hnanos := d.nanos_lt
  rw [toSeconds, Binary64.ofNat_div_ofNat (by omega) (by decide) (by decide), Binary64.ofNat_eq]
  exact Binary64.signed_add

theorem isInfinite_roundedSeconds (d : Duration) : d.roundedSeconds.isInfinite = false := by
  have hnanos := d.nanos_lt
  have hwhole : (Magnitude.ofNat d.seconds.toNat).units ≤ 2 ^ (64 + 1074) :=
    Magnitude.units_ofNat_le_two_pow d.seconds.toNat_lt.le
  have hfraction : (Magnitude.inUnit d.nanos perSecond).units ≤ 2 ^ 1138 :=
    Magnitude.units_inUnit_le (by omega) (by decide)
  exact Magnitude.isInfinite_of_units_le (by decide)
    (Magnitude.units_sum_le_two_pow hwhole hfraction)

end Duration

def timeNumber (d : Duration) (k : ℕ) : ℚ :=
  if k = 0 then d.toNanos
  else if k = 3 then timeScale.rounded d.roundedSeconds
  else timeScale.rounded (.inUnit d.toNanos (timeScale.size k))

theorem Duration.one_le_roundedSeconds {d : Duration} (h : Duration.perSecond ≤ d.toNanos) :
    (Magnitude.ofNat 1).val ≤ d.roundedSeconds.val := by
  have hnanos := d.nanos_lt
  have hseconds : 1 ≤ d.seconds.toNat := by
    unfold toNanos perSecond at h
    omega
  exact (Magnitude.ofNat_mono hseconds).trans
    (Magnitude.units_le_iff.1 Magnitude.units_le_units_sum_left)

theorem TimeQuantity.text_exact (n : ℕ) : (exact n).text = toString n ++ " " ++ "ns" := by
  rw [String.append_assoc]
  rfl

theorem TimeQuantity.shows (d : Duration) : ∃ k,
    timeScale.Shows d.toNanos (ofDuration d).text k (timeNumber d k) := by
  unfold ofDuration
  simp only
  split_ifs with hsecond hmilli hmicro
  · refine ⟨3, ?_⟩
    rw [Duration.toSeconds_eq]
    exact Scale.shows_last d.isInfinite_roundedSeconds (Duration.one_le_roundedSeconds hsecond)
      rfl rfl hsecond
  · have hword : d.toNanos ≤ 2 ^ 64 := (Nat.not_le.1 hsecond).le.trans (by decide)
    exact ⟨2, Scale.milli_lastBelow.shows rfl hmilli (Nat.not_le.1 hsecond) hword⟩
  · have hword : d.toNanos ≤ 2 ^ 64 := (Nat.not_le.1 hmilli).le.trans (by decide)
    exact ⟨1, Scale.micro_lastBelow.shows rfl hmicro (Nat.not_le.1 hmilli) hword⟩
  · have hlt : d.toNanos < timeScale.base := Nat.not_le.1 hmicro
    rw [text_exact]
    exact ⟨0, Scale.shows_exact rfl hlt⟩

/-! ### The number in front of a unit -/

/-- Every count of bytes and every span of time is shown in the largest unit of which there is at
least one, by a number that is below the base except on the verge of the next unit. -/
theorem shown_in_largest_unit (bytes : UInt64) (d : Duration) :
    (∃ k number, byteScale.Shows bytes.toNat (ByteQuantity.ofBytes bytes).text k number) ∧
      ∃ k number, timeScale.Shows d.toNanos (TimeQuantity.ofDuration d).text k number := by
  obtain ⟨k, hbytes⟩ := ByteQuantity.shows bytes
  obtain ⟨k', htime⟩ := TimeQuantity.shows d
  exact ⟨⟨k, _, hbytes⟩, ⟨k', _, htime⟩⟩

/-- A text whose number is at least one, unless its unit is the first, and below the base, unless
its unit is the last. -/
def Scale.Fits (s : Scale) (text : String) : Prop :=
  ∃ k number, s.ReadsAs text k number ∧ (0 < k → 1 ≤ number) ∧
    (k + 1 < s.symbols.length → number < s.base)

theorem Scale.not_fits {s : Scale} {text symbol : String}
    (hread : readAmount text = some ⟨s.base, symbol⟩) (hlast : s.symbols.getLast? ≠ some symbol) :
    ¬ s.Fits text := by
  rintro ⟨k, number, ⟨symbol', hsymbol, hread'⟩, -, hbase⟩
  rw [hread] at hread'
  cases hread'
  obtain ⟨hk, -⟩ := List.getElem?_eq_some_iff.1 hsymbol
  have hnext : k + 1 < s.symbols.length := by
    apply Nat.lt_of_le_of_ne hk
    intro hlength
    rw [List.getLast?_eq_getElem?, ← hlength, Nat.succ_sub_one] at hlast
    exact hlast hsymbol
  exact lt_irrefl _ (hbase hnext)

/-- One byte short of a mebibyte is shown as `1024.0 KiB`, and one nanosecond short of a
millisecond as `1000.00 us`. -/
theorem not_fits_short_of_next_unit :
    ¬ byteScale.Fits (ByteQuantity.ofBytes 1048575).text ∧
      ¬ timeScale.Fits (TimeQuantity.ofDuration ⟨0, 999999, by decide⟩).text := by
  have hbytes : (ByteQuantity.ofBytes 1048575).text = "1024.0 KiB" := by decide +kernel
  have htime : (TimeQuantity.ofDuration ⟨0, 999999, by decide⟩).text = "1000.00 us" := by
    decide +kernel
  have hkibi : readAmount "1024.0 KiB" = some ⟨byteScale.base, "KiB"⟩ := by decide +kernel
  have hmicro : readAmount "1000.00 us" = some ⟨timeScale.base, "us"⟩ := by decide +kernel
  rw [hbytes, htime]
  exact ⟨Scale.not_fits hkibi (by decide), Scale.not_fits hmicro (by decide)⟩

end ScanLatency.Console
