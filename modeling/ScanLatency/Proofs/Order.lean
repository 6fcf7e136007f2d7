import ScanLatency.Proofs.Percentile
import ScanLatency.Proofs.Spacing

/-! The order of numbers. An operation that acts on magnitudes alone, such as dividing by a positive
number or multiplying by one, keeps the order on both sides of zero once it keeps it above, for the
two sides mirror each other. The ceiling keeps it too, up to the bounds of a word. -/
namespace ScanLatency.Number

namespace Magnitude

variable {m n d : Magnitude} {a b num den : ℕ}

theorem eq_zero_iff : m = zero ↔ m.val = 0 := Subtype.ext_iff

theorem units_zero : zero.units = 0 := units_eq_zero_iff.2 rfl

/-- A larger quotient is not rounded to a smaller magnitude. -/
theorem nearest_mono {c d : ℕ} (hb : 0 < b) (hd : 0 < d) (h : a * d ≤ c * b) :
    (nearest a b).val ≤ (nearest c d).val := by
  rw [val_nearest, val_nearest]
  exact min_le_min_right _ (nearestCode_mono hb hd h)

theorem le_nearest (hden : 0 < den) (h : m.units * den ≤ num) : m.val ≤ (nearest num den).val :=
  units_le_iff.1 (units_le_units_nearest hden h)

theorem nearest_le (hden : 0 < den) (h : num ≤ m.units * den) : (nearest num den).val ≤ m.val := by
  rw [val_nearest]
  exact (Nat.min_le_left _ _).trans (nearestCode_le hden h)

/-- What is on the grid is not rounded. -/
theorem nearest_units (m : Magnitude) : nearest m.units 1 = m := by
  apply Subtype.ext
  have hcode := nearestCode_unitsAt m.val Nat.one_pos
  rw [Nat.mul_one] at hcode
  rw [val_nearest, units, hcode]
  exact Nat.min_eq_left m.property

theorem shiftLeft_le_shiftLeft (h : a ≤ b) (e : ℕ) : a <<< e ≤ b <<< e := by
  rw [Nat.shiftLeft_eq, Nat.shiftLeft_eq]
  exact Nat.mul_le_mul_right _ h

theorem ofNat_mono (h : a ≤ b) : (ofNat a).val ≤ (ofNat b).val := by
  have hshifted : a <<< 1074 ≤ b <<< 1074 := shiftLeft_le_shiftLeft h 1074
  exact nearest_mono Nat.one_pos Nat.one_pos (Nat.mul_le_mul_right 1 hshifted)

theorem quotient_mono (hd : d.val ≠ 0) (h : m.val ≤ n.val) :
    (m.quotient d).val ≤ (n.quotient d).val := by
  have hshifted : m.units <<< 1074 ≤ n.units <<< 1074 :=
    shiftLeft_le_shiftLeft (units_le_iff.2 h) 1074
  exact nearest_mono (units_pos hd) (units_pos hd) (Nat.mul_le_mul_right d.units hshifted)

theorem quotient_self (hm : m.val ≠ 0) : m.quotient m = ofNat 1 := by
  have hscaled (e : ℕ) : nearestCode (m.units <<< e) m.units = nearestCode (1 <<< e) 1 := by
    apply nearestCode_congr (units_pos hm) Nat.one_pos
    rw [Nat.shiftLeft_eq, Nat.shiftLeft_eq]
    ring
  apply Subtype.ext
  rw [quotient, ofNat, val_nearest, val_nearest, hscaled 1074]

theorem product_mono (d : Magnitude) (h : m.val ≤ n.val) :
    (m.product d).val ≤ (n.product d).val := by
  have hscaled (e : ℕ) : (nearest (m.units * d.units) (Nat.pow 2 e)).val ≤
      (nearest (n.units * d.units) (Nat.pow 2 e)).val :=
    nearest_mono (Nat.two_pow_pos e) (Nat.two_pow_pos e)
      (Nat.mul_le_mul_right _ (Nat.mul_le_mul_right _ (units_le_iff.2 h)))
  exact hscaled 1074

theorem zero_product (d : Magnitude) : product zero d = zero := by
  have hscaled (e : ℕ) : nearest 0 (Nat.pow 2 e) = zero :=
    eq_zero_iff.2 (nearest_zero (Nat.two_pow_pos e))
  rw [product, units_zero, Nat.zero_mul]
  exact hscaled 1074

theorem sum_mono {m' n' : Magnitude} (hm : m.val ≤ m'.val) (hn : n.val ≤ n'.val) :
    (m.sum n).val ≤ (m'.sum n').val :=
  nearest_mono Nat.one_pos Nat.one_pos
    (Nat.mul_le_mul_right 1 (Nat.add_le_add (units_le_iff.2 hm) (units_le_iff.2 hn)))

/-- A magnitude is a multiple of a power of two by at most `2 ^ 53`. -/
theorem exists_units_eq (m : Magnitude) : ∃ k ≤ 2 ^ 53, ∃ e, m.units = k * 2 ^ e := by
  have hgrid := unitsAt_nearestCode m.units Nat.one_pos
  have hcode := nearestCode_unitsAt m.val Nat.one_pos
  rw [Nat.mul_one] at hcode
  rw [units, hcode] at hgrid
  exact ⟨_, nearestEven_binade_le _ Nat.one_pos, _, hgrid⟩

/-- Doubling is exact as long as the double is in range. -/
theorem units_double (h : m.units ≤ 2 ^ 2096) : (m.sum m).units = 2 * m.units := by
  obtain ⟨k, hk, e, hunits⟩ := m.exists_units_eq
  have hdouble : m.units + m.units = k * 2 ^ (e + 1) := by
    rw [hunits, Nat.pow_succ]
    ring
  have hroom (d k : ℕ) (hk : k = 52 + d) (h : m.units ≤ 2 ^ k) :
      m.units + m.units < (2 ^ 54 - 1) * 2 ^ d := by
    have hpos := Nat.two_pow_pos d
    rw [hk, Nat.pow_add] at h
    omega
  have hrange : m.units + m.units < overflowUnits * 1 := by
    rw [Nat.mul_one]
    exact hroom 2044 2096 rfl h
  rw [sum, units_nearest Nat.one_pos hrange, hdouble, unitsAt_nearestCode_of_le hk,
    ← hdouble, Nat.two_mul]

/-- Half of the double is the magnitude itself. -/
theorem half_double (h : m.units ≤ 2 ^ 2096) : (m.sum m).quotient (ofNat 2) = m := by
  have hscaled (e : ℕ) :
      nearestCode ((2 * m.units) <<< e) (2 * 2 ^ e) = nearestCode (m.units * 1) 1 := by
    apply nearestCode_congr (Nat.mul_pos Nat.two_pos (Nat.two_pow_pos e)) Nat.one_pos
    rw [Nat.shiftLeft_eq]
    ring
  apply Subtype.ext
  rw [quotient, units_double h, units_ofNat (by decide), val_nearest, hscaled 1074, units,
    nearestCode_unitsAt m.val Nat.one_pos]
  exact Nat.min_eq_left m.property

/-- The mean of two magnitudes lies between them. -/
theorem half_sum_between (hmn : m.val ≤ n.val) (hn : n.units ≤ 2 ^ 2096) :
    m.val ≤ ((m.sum n).quotient (ofNat 2)).val ∧ ((m.sum n).quotient (ofNat 2)).val ≤ n.val := by
  have htwo : (ofNat 2).val ≠ 0 := val_ofNat_ne_zero Nat.two_pos
  have hm := half_double ((units_le_iff.2 hmn).trans hn)
  have hlower := quotient_mono htwo (sum_mono (Nat.le_refl m.val) hmn)
  have hupper := quotient_mono htwo (sum_mono hmn (Nat.le_refl n.val))
  rw [hm] at hlower
  rw [half_double hn] at hupper
  exact ⟨hlower, hupper⟩

/-- A fraction, where infinity stays infinity. -/
def fraction (d m : Magnitude) : Magnitude := if m.isInfinite then infinity else m.quotient d

/-- A multiple, where infinity stays infinity. -/
def multiple (d m : Magnitude) : Magnitude := if m.isInfinite then infinity else m.product d

theorem isInfinite_of_le (h : m.val ≤ n.val) (hn : n.isInfinite = false) : m.isInfinite = false :=
  isInfinite_eq_false_iff.2 (Nat.lt_of_le_of_lt h (isInfinite_eq_false_iff.1 hn))

/-- Infinity is at the end of the order, and so is what it is replaced by. -/
theorem infinity_mono {m' n' : Magnitude} (h : m.val ≤ n.val) (h' : m'.val ≤ n'.val) :
    (if m.isInfinite then infinity else m').val ≤ (if n.isInfinite then infinity else n').val := by
  cases hn : n.isInfinite with
  | true => exact (if m.isInfinite then infinity else m').property
  | false =>
    rw [isInfinite_of_le h hn]
    exact h'

theorem fraction_mono (hd : d.val ≠ 0) (h : m.val ≤ n.val) :
    (d.fraction m).val ≤ (d.fraction n).val :=
  infinity_mono h (quotient_mono hd h)

theorem multiple_mono (d : Magnitude) (h : m.val ≤ n.val) :
    (d.multiple m).val ≤ (d.multiple n).val :=
  infinity_mono h (product_mono d h)

theorem isInfinite_zero : zero.isInfinite = false := by decide

theorem fraction_zero (hd : d.val ≠ 0) : d.fraction zero = zero := by
  rw [fraction, isInfinite_zero, if_neg Bool.false_ne_true]
  exact eq_zero_iff.2 (quotient_zero rfl hd)

theorem multiple_zero (d : Magnitude) : d.multiple zero = zero := by
  rw [multiple, isInfinite_zero, if_neg Bool.false_ne_true, zero_product]

end Magnitude

namespace Binary64

variable {x y : Binary64} {m n d : Magnitude}

theorem key_signed (negative : Bool) (m : Magnitude) :
    (signed negative m).key = if negative then -(m.val : ℤ) else m.val := rfl

theorem le_iff : x ≤ y ↔ x.isNaN = false ∧ y.isNaN = false ∧ x.key ≤ y.key := by
  show le x y = true ↔ _
  simp [le, and_assoc]

theorem signed_le_iff : signed false m ≤ signed false n ↔ m.val ≤ n.val := by
  rw [le_iff]
  simp only [isNaN_signed, key_signed, Bool.false_eq_true, if_false, true_and]
  exact Int.ofNat_le

theorem ofNat_le_ofNat {a b : ℕ} (h : a ≤ b) : ofNat a ≤ ofNat b :=
  signed_le_iff.2 (Magnitude.ofNat_mono h)

theorem neg_le_neg_iff : signed true m ≤ signed true n ↔ n.val ≤ m.val := by
  rw [le_iff]
  simp only [isNaN_signed, key_signed, if_true, true_and]
  omega

/-- What the order of two numbers says, by their signs: only the two zeros are in order although
the first number alone has no sign. -/
theorem signed_le_cases {s t : Bool} (h : signed s m ≤ signed t n) :
    (s = false ∧ t = false ∧ m.val ≤ n.val) ∨ (s = true ∧ t = true ∧ n.val ≤ m.val) ∨
      (s = true ∧ t = false) ∨ (s = false ∧ t = true ∧ m = .zero ∧ n = .zero) := by
  obtain ⟨-, -, hkey⟩ := le_iff.1 h
  rw [key_signed, key_signed] at hkey
  cases s <;> cases t <;> simp only [Bool.false_eq_true, if_false, if_true] at hkey
  case false.false => exact .inl ⟨rfl, rfl, Int.ofNat_le.1 hkey⟩
  case true.true => exact .inr (.inl ⟨rfl, rfl, Int.ofNat_le.1 (Int.neg_le_neg_iff.1 hkey)⟩)
  case true.false => exact .inr (.inr (.inl ⟨rfl, rfl⟩))
  case false.true =>
    have hm : m = .zero := Magnitude.eq_zero_iff.2 (by omega)
    have hn : n = .zero := Magnitude.eq_zero_iff.2 (by omega)
    exact .inr (.inr (.inr ⟨rfl, rfl, hm, hn⟩))

def mapMagnitude (f : Magnitude → Magnitude) : Binary64 → Binary64
  | .nan => .nan
  | .signed negative m => .signed negative (f m)

/-- An operation on magnitudes that keeps zero and the order keeps the order of signed numbers. -/
theorem mapMagnitude_mono {f : Magnitude → Magnitude} (hzero : f .zero = .zero)
    (hf : ∀ {m n : Magnitude}, m.val ≤ n.val → (f m).val ≤ (f n).val) (h : x ≤ y) :
    x.mapMagnitude f ≤ y.mapMagnitude f := by
  cases x with
  | nan => exact absurd (le_iff.1 h).1 nofun
  | signed s m =>
    cases y with
    | nan => exact absurd (le_iff.1 h).2.1 nofun
    | signed t n =>
      rw [le_iff]
      refine ⟨rfl, rfl, ?_⟩
      simp only [mapMagnitude, key_signed]
      rcases signed_le_cases h with ⟨rfl, rfl, hle⟩ | ⟨rfl, rfl, hle⟩ | ⟨rfl, rfl⟩ |
        ⟨rfl, rfl, rfl, rfl⟩
      · exact Int.ofNat_le.2 (hf hle)
      · exact Int.neg_le_neg (Int.ofNat_le.2 (hf hle))
      · simp only [if_true, Bool.false_eq_true, if_false]
        omega
      · rw [hzero]
        decide

/-! ### Multiples and fractions -/

section Positive

variable (hd : d.isInfinite = false) (hzero : d.val ≠ 0)
include hd hzero

theorem div_signed (x : Binary64) : x / signed false d = x.mapMagnitude d.fraction := by
  cases x with
  | nan => rfl
  | signed s m =>
    show div _ _ = signed s (d.fraction m)
    rw [div, hd, Magnitude.fraction]
    cases m.isInfinite with
    | true => simp
    | false => simp [hzero, Magnitude.quotient]

theorem mul_signed (x : Binary64) : x * signed false d = x.mapMagnitude d.multiple := by
  cases x with
  | nan => rfl
  | signed s m =>
    show mul _ _ = signed s (d.multiple m)
    rw [mul, hd, Magnitude.multiple]
    cases hm : m.isInfinite with
    | true =>
      have hpos : m.val ≠ 0 := by
        rw [Magnitude.isInfinite_iff.1 hm]
        decide
      simp [hzero, hpos]
    | false => simp [Magnitude.product]

theorem div_le_div (h : x ≤ y) : x / signed false d ≤ y / signed false d := by
  rw [div_signed hd hzero, div_signed hd hzero]
  exact mapMagnitude_mono (Magnitude.fraction_zero hzero) (Magnitude.fraction_mono hzero) h

theorem mul_le_mul (h : x ≤ y) : x * signed false d ≤ y * signed false d := by
  rw [mul_signed hd hzero, mul_signed hd hzero]
  exact mapMagnitude_mono d.multiple_zero (Magnitude.multiple_mono d) h

end Positive

/-! ### Ceilings -/

theorem ceilWord_neg (m : Magnitude) : (signed true m).ceilWord =
    if m.isInfinite then leastWord else max leastWord (-((m.units >>> 1074 : ℕ) : ℤ)) := by
  simp only [ceilWord, if_true]

theorem ceilWord_neg_nonpos (m : Magnitude) : (signed true m).ceilWord ≤ 0 := by
  rw [ceilWord_neg]
  split
  next => decide
  next => exact Int.max_le.2 ⟨by decide, Int.neg_nonpos_of_nonneg (Int.natCast_nonneg _)⟩

theorem ceilWord_zero (negative : Bool) : (signed negative .zero).ceilWord = 0 := by
  have hbelow (e : ℕ) : (0 + (Nat.pow 2 e - 1)) >>> e = 0 := by
    rw [Nat.shiftRight_eq_div_pow, Nat.zero_add]
    exact Nat.div_eq_of_lt (Nat.sub_lt (Nat.two_pow_pos e) Nat.one_pos)
  cases negative with
  | false =>
    rw [ceilWord_signed, Magnitude.isInfinite_zero, if_neg Bool.false_ne_true, Magnitude.units_zero,
      hbelow 1074]
    rfl
  | true =>
    rw [ceilWord_neg, Magnitude.isInfinite_zero, if_neg Bool.false_ne_true, Magnitude.units_zero,
      Nat.zero_shiftRight]
    rfl

theorem ceilWord_signed_le (m : Magnitude) : (signed false m).ceilWord ≤ greatestWord := by
  rw [ceilWord_signed]
  split
  next => exact Int.le_refl _
  next => exact Int.min_le_left _ _

theorem leastWord_le_ceilWord_neg (m : Magnitude) : leastWord ≤ (signed true m).ceilWord := by
  rw [ceilWord_neg]
  split
  next => exact Int.le_refl _
  next => exact Int.le_max_left _ _

theorem leastWord_le_ceilWord (x : Binary64) : leastWord ≤ x.ceilWord := by
  cases x with
  | nan => decide
  | signed s m =>
    cases s with
    | false => exact Int.le_trans (by decide) (ceilWord_nonneg (isUnsigned_signed m))
    | true => exact leastWord_le_ceilWord_neg m

theorem ceilWord_signed_mono (h : m.val ≤ n.val) :
    (signed false m).ceilWord ≤ (signed false n).ceilWord := by
  have hshifted (k e : ℕ) : (m.units + k) >>> e ≤ (n.units + k) >>> e := by
    rw [Nat.shiftRight_eq_div_pow, Nat.shiftRight_eq_div_pow]
    exact Nat.div_le_div_right (Nat.add_le_add_right (Magnitude.units_le_iff.2 h) k)
  cases hn : n.isInfinite with
  | true =>
    rw [ceilWord_signed n, hn, if_pos rfl]
    exact ceilWord_signed_le m
  | false =>
    have hceiling := hshifted (unitsPerOne - 1) 1074
    rw [ceilWord_signed, ceilWord_signed, Magnitude.isInfinite_of_le h hn, hn,
      if_neg Bool.false_ne_true, if_neg Bool.false_ne_true]
    generalize (m.units + (unitsPerOne - 1)) >>> 1074 = a at hceiling ⊢
    generalize (n.units + (unitsPerOne - 1)) >>> 1074 = b at hceiling ⊢
    omega

theorem ceilWord_neg_mono (h : n.val ≤ m.val) :
    (signed true m).ceilWord ≤ (signed true n).ceilWord := by
  have hshifted (e : ℕ) : n.units >>> e ≤ m.units >>> e := by
    rw [Nat.shiftRight_eq_div_pow, Nat.shiftRight_eq_div_pow]
    exact Nat.div_le_div_right (Magnitude.units_le_iff.2 h)
  cases hm : m.isInfinite with
  | true =>
    rw [ceilWord_neg m, hm, if_pos rfl]
    exact leastWord_le_ceilWord_neg n
  | false =>
    have hfloor := hshifted 1074
    rw [ceilWord_neg, ceilWord_neg, Magnitude.isInfinite_of_le h hm, hm,
      if_neg Bool.false_ne_true, if_neg Bool.false_ne_true]
    generalize m.units >>> 1074 = a at hfloor ⊢
    generalize n.units >>> 1074 = b at hfloor ⊢
    omega

/-- A larger number has no smaller ceiling. -/
theorem ceilWord_mono (h : x ≤ y) : x.ceilWord ≤ y.ceilWord := by
  cases x with
  | nan => exact absurd (le_iff.1 h).1 nofun
  | signed s m =>
    cases y with
    | nan => exact absurd (le_iff.1 h).2.1 nofun
    | signed t n =>
      rcases signed_le_cases h with ⟨rfl, rfl, hle⟩ | ⟨rfl, rfl, hle⟩ | ⟨rfl, rfl⟩ |
        ⟨rfl, rfl, rfl, rfl⟩
      · exact ceilWord_signed_mono hle
      · exact ceilWord_neg_mono hle
      · exact (ceilWord_neg_nonpos m).trans (ceilWord_nonneg (isUnsigned_signed n))
      · rw [ceilWord_zero, ceilWord_zero]

theorem mul_infinity (negative : Bool) (m : Magnitude) :
    signed negative m * signed false .infinity =
      if m.val = 0 then nan else signed negative .infinity := by
  have hinfinite : Magnitude.infinity.isInfinite = true := Magnitude.isInfinite_iff.2 rfl
  have hpos : Magnitude.infinity.val ≠ 0 := by decide
  show mul _ _ = _
  rw [mul, if_pos (.inr hinfinite), Bool.bne_false]
  simp only [hpos, or_false]

/-- A multiple of infinity is decided by the sign of the factor; that of zero is NaN. -/
theorem ceilWord_mul_infinity (hx : x.isNaN = false) : (x * signed false .infinity).ceilWord =
    if x.key < 0 then leastWord else if x.key = 0 then 0 else greatestWord := by
  cases x with
  | nan => cases hx
  | signed s m =>
    rw [mul_infinity, key_signed]
    by_cases hm : m.val = 0
    · rw [if_pos hm, hm]
      cases s <;> rfl
    · rw [if_neg hm]
      cases s with
      | false =>
        rw [if_neg Bool.false_ne_true, if_neg (by omega), if_neg (by omega), ceilWord_signed]
        rfl
      | true =>
        rw [if_pos rfl, if_pos (by omega), ceilWord_neg]
        rfl

theorem one_mul_signed (m : Magnitude) : 1 * signed false m = signed false m := by
  have hone : (1 : Binary64) = signed false (.ofNat 1) := rfl
  rw [hone]
  cases hinfinite : m.isInfinite with
  | true =>
    rw [Magnitude.isInfinite_iff.1 hinfinite, mul_infinity,
      if_neg (Magnitude.val_ofNat_ne_zero Nat.one_pos)]
  | false =>
    have hfinite := Magnitude.isInfinite_ofNat (k := 0) (by decide) (Nat.le_refl 1)
    rw [signed_mul hfinite hinfinite, Magnitude.product,
      Magnitude.units_ofNat (by decide), Nat.one_mul, Nat.mul_comm, Magnitude.nearest_mul_unit,
      Magnitude.nearest_units]

/-- The ceilings of multiples are in the order of the factors, whatever number they are multiples
of. -/
theorem ceilWord_mul_mono (hd : d.val ≠ 0) (h : x ≤ y) :
    (x * signed false d).ceilWord ≤ (y * signed false d).ceilWord := by
  cases hinfinite : d.isInfinite with
  | false => exact ceilWord_mono (mul_le_mul hinfinite hd h)
  | true =>
    obtain ⟨hx, hy, hkey⟩ := le_iff.1 h
    rw [Magnitude.isInfinite_iff.1 hinfinite, ceilWord_mul_infinity hx, ceilWord_mul_infinity hy]
    unfold leastWord greatestWord
    split_ifs <;> omega

/-- What lies above an integer has a larger ceiling. -/
theorem lt_ceilWord {j : ℕ} (hj : j < 2 ^ 63 - 1) (h : j * 2 ^ 1074 < m.units) :
    (j : ℤ) < (signed false m).ceilWord := by
  have hceiling (e : ℕ) (h : j * 2 ^ e < m.units) : j < (m.units + (Nat.pow 2 e - 1)) >>> e := by
    have hpos := Nat.two_pow_pos e
    rw [Nat.shiftRight_eq_div_pow]
    show j < (m.units + (2 ^ e - 1)) / 2 ^ e
    apply (Nat.le_div_iff_mul_le hpos).2
    rw [Nat.succ_mul]
    omega
  have hlt := hceiling 1074 h
  rw [ceilWord_signed]
  split
  next =>
    unfold greatestWord
    omega
  next =>
    generalize (m.units + (unitsPerOne - 1)) >>> 1074 = ceiling at hlt ⊢
    unfold greatestWord
    omega

/-- The least word is the ceiling of everything from there down. -/
theorem ceilWord_eq_leastWord_iff : x.ceilWord = leastWord ↔ x ≤ -9223372036854775808 := by
  have hbound : (-9223372036854775808 : Binary64) = signed true (.ofNat (2 ^ 63)) := rfl
  have hunits : (Magnitude.ofNat (2 ^ 63)).units = 2 ^ (63 + 1074) :=
    Nat.le_antisymm (Magnitude.units_ofNat_le_two_pow (Nat.le_refl _))
      (Magnitude.two_pow_le_units_ofNat (by decide) (Nat.le_refl _))
  rw [hbound]
  cases x with
  | nan => exact iff_of_false (by decide) fun h => absurd (le_iff.1 h).1 nofun
  | signed s m =>
    cases s with
    | false =>
      have hnonneg := ceilWord_nonneg (isUnsigned_signed m)
      refine iff_of_false (by unfold leastWord; omega) fun h => ?_
      rcases signed_le_cases h with ⟨-, ⟨⟩, -⟩ | ⟨⟨⟩, -⟩ | ⟨⟨⟩, -⟩ | ⟨-, -, -, hzero⟩
      exact Magnitude.val_ne_zero_of_two_pow_le hunits.ge (Magnitude.eq_zero_iff.1 hzero)
    | true =>
      have hfloor (e : ℕ) : max leastWord (-((m.units >>> e : ℕ) : ℤ)) = leastWord ↔
          2 ^ (63 + e) ≤ m.units := by
        rw [Nat.pow_add, ← Nat.le_div_iff_mul_le (Nat.two_pow_pos e), ← Nat.shiftRight_eq_div_pow]
        unfold leastWord
        omega
      rw [neg_le_neg_iff, ← Magnitude.units_le_iff, hunits, ceilWord_neg]
      cases hm : m.isInfinite with
      | true =>
        have hpow (k e : ℕ) (h : k ≤ e) : 2 ^ k ≤ 2 ^ e := Nat.pow_le_pow_right Nat.two_pos h
        rw [Magnitude.isInfinite_iff.1 hm, Magnitude.units_infinity]
        exact iff_of_true rfl (hpow _ _ (by decide))
      | false => exact hfloor 1074

end Binary64
end ScanLatency.Number
