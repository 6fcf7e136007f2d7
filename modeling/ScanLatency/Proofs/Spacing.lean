import ScanLatency.Proofs.Unsigned

/-! Spacing. The magnitudes of a binade are the multiples of one power of two, and rounding takes
the nearest of them. So a value of at most 53 bits is not rounded at all, any other is off by at
most one part in `2 ^ 53`, and what is rounded to a natural number or below is what lies at most
half a spacing above it. -/
namespace ScanLatency.Number

/-- Halfway between an even integer and the next one, the even one is taken. -/
theorem nearestEven_half {m h : ℕ} (heven : m % 2 = 0) (hh : 0 < h) :
    nearestEven (m * (2 * h) + h) (2 * h) = m := by
  have hdiv : (m * (2 * h) + h) / (2 * h) = m := by
    rw [Nat.mul_comm m, Nat.mul_add_div (by omega), Nat.div_eq_of_lt (by omega), Nat.add_zero]
  have hmod : (m * (2 * h) + h) % (2 * h) = h := by
    rw [Nat.mul_comm m, Nat.mul_add_mod, Nat.mod_eq_of_lt (by omega)]
  simp [nearestEven, hdiv, hmod, heven]

namespace Magnitude

variable {num den : ℕ}

/-! ### Values as multiples of a spacing -/

/-- A position counts the multiples of the spacing of its binade; the last one begins the next
binade. -/
theorem unitsAt_position {d m : ℕ} (hlow : 0 < d → 2 ^ 52 ≤ m) (hhigh : m ≤ 2 ^ 53) :
    unitsAt (d * binadeSize + m) = m * 2 ^ d := by
  rcases Nat.lt_or_ge m (2 ^ 52) with hsmall | hlarge
  · have hd : d = 0 := by omega
    rw [hd, Nat.zero_mul, Nat.zero_add, Nat.pow_zero, Nat.mul_one, unitsAt_of_lt hsmall]
  · rcases Nat.eq_or_lt_of_le hhigh with hlast | hinner
    · have hcode : d * binadeSize + m = (d + 1 + 1) * binadeSize + 0 := by
        unfold binadeSize
        omega
      rw [hcode, unitsAt_binade (d + 1) (by decide), hlast, Nat.pow_succ]
      ring
    · have hcode : d * binadeSize + m = (d + 1) * binadeSize + (m - 2 ^ 52) := by
        unfold binadeSize
        omega
      have hrest : m - 2 ^ 52 < binadeSize := by
        unfold binadeSize
        omega
      have hsum : binadeSize + (m - 2 ^ 52) = m := by
        unfold binadeSize
        omega
      rw [hcode, unitsAt_binade d hrest, hsum]

/-- Rounding takes the nearest multiple of the spacing. -/
theorem unitsAt_nearestCode (num : ℕ) (hden : 0 < den) : unitsAt (nearestCode num den) =
    nearestEven num (den <<< doublings (num / den)) * 2 ^ doublings (num / den) :=
  unitsAt_position (le_nearestEven_binade num hden) (nearestEven_binade_le num hden)

/-- A value of at most 53 bits is on the grid. -/
theorem unitsAt_nearestCode_of_lt {m e : ℕ} (h : m < 2 ^ 53) :
    unitsAt (nearestCode (m * 2 ^ e) 1) = m * 2 ^ e := by
  have hdoublings : doublings (m * 2 ^ e) ≤ e := by
    refine doublings_le_of_lt ?_ (Nat.le_refl (53 + e))
    rw [Nat.pow_add]
    exact Nat.mul_lt_mul_of_pos_right h (Nat.two_pow_pos e)
  obtain ⟨j, hj⟩ := Nat.exists_eq_add_of_le hdoublings
  rw [unitsAt_nearestCode _ Nat.one_pos, Nat.div_one, Nat.shiftLeft_eq, Nat.one_mul]
  generalize doublings (m * 2 ^ e) = d at hj ⊢
  have hmultiple : m * 2 ^ e = m * 2 ^ j * 2 ^ d := by
    rw [hj, Nat.pow_add]
    ring
  rw [hmultiple, nearestEven_mul_left _ (Nat.two_pow_pos d)]

/-- So is `2 ^ 53` times a spacing, which has one bit. -/
theorem unitsAt_nearestCode_of_le {m e : ℕ} (h : m ≤ 2 ^ 53) :
    unitsAt (nearestCode (m * 2 ^ e) 1) = m * 2 ^ e := by
  rcases Nat.eq_or_lt_of_le h with rfl | hlt
  · have hhalved : 2 ^ 53 * 2 ^ e = 2 ^ 52 * 2 ^ (e + 1) := by
      rw [Nat.pow_succ 2 e]
      omega
    rw [hhalved, unitsAt_nearestCode_of_lt (by decide)]
  · exact unitsAt_nearestCode_of_lt hlt

/-- From `2 ^ 52` units on a value is at least `2 ^ 52` spacings. -/
theorem spacing_le (hden : 0 < den) (h : 2 ^ 52 * den ≤ num) :
    2 ^ 52 * (den * 2 ^ doublings (num / den)) ≤ num := by
  rcases Nat.eq_zero_or_pos (doublings (num / den)) with hzero | hpos
  · rwa [hzero, Nat.pow_zero, Nat.mul_one]
  · have hle := (Nat.le_div_iff_mul_le hden).1 (doublings_le hpos)
    calc
      2 ^ 52 * (den * 2 ^ doublings (num / den)) = 2 ^ (52 + doublings (num / den)) * den := by ring
      _ ≤ num := hle

/-- Rounding a value of at least `2 ^ 52` units is off by at most one part in `2 ^ 53`. -/
theorem nearestCode_error (hden : 0 < den) (h : 2 ^ 52 * den ≤ num) :
    2 ^ 53 * (unitsAt (nearestCode num den) * den) ≤ 2 ^ 53 * num + num ∧
      2 ^ 53 * num ≤ 2 ^ 53 * (unitsAt (nearestCode num den) * den) + num := by
  obtain ⟨d, hd⟩ : ∃ d, d = doublings (num / den) := ⟨_, rfl⟩
  have hspacing : 2 ^ 52 * (den * 2 ^ d) ≤ num := hd ▸ spacing_le hden h
  have hhalf := @nearestEven_within_half num (den * 2 ^ d) (Nat.mul_pos hden (Nat.two_pow_pos d))
  have hvalue : unitsAt (nearestCode num den) * den =
      nearestEven num (den * 2 ^ d) * (den * 2 ^ d) := by
    rw [unitsAt_nearestCode num hden, Nat.shiftLeft_eq, ← hd]
    ring
  rw [hvalue]
  generalize nearestEven num (den * 2 ^ d) * (den * 2 ^ d) = rounded at hhalf ⊢
  generalize den * 2 ^ d = spacing at hhalf hspacing
  omega

/-- A multiple by a power of two has as many more doublings. -/
theorem doublings_mul_two_pow_div (hden : 0 < den) (h : 2 ^ 52 * den ≤ num) (e : ℕ) :
    doublings (num * 2 ^ e / den) = doublings (num / den) + e := by
  have hlow := spacing_le hden h
  have hhigh := (Nat.div_lt_iff_lt_mul hden).1 (lt_doublings (num / den))
  generalize doublings (num / den) = d at hlow hhigh ⊢
  apply doublings_eq
  · apply (Nat.le_div_iff_mul_le hden).2
    calc
      2 ^ (52 + (d + e)) * den = 2 ^ 52 * (den * 2 ^ d) * 2 ^ e := by ring
      _ ≤ num * 2 ^ e := Nat.mul_le_mul_right _ hlow
  · apply (Nat.div_lt_iff_lt_mul hden).2
    calc
      num * 2 ^ e < 2 ^ (53 + d) * den * 2 ^ e :=
        Nat.mul_lt_mul_of_pos_right hhigh (Nat.two_pow_pos e)
      _ = 2 ^ (53 + (d + e)) * den := by ring

/-- From `2 ^ 52` units on rounding is the same in every binade. -/
theorem unitsAt_nearestCode_mul_two_pow (hden : 0 < den) (h : 2 ^ 52 * den ≤ num) (e : ℕ) :
    unitsAt (nearestCode (num * 2 ^ e) den) = unitsAt (nearestCode num den) * 2 ^ e := by
  rw [unitsAt_nearestCode _ hden, unitsAt_nearestCode _ hden, doublings_mul_two_pow_div hden h]
  generalize doublings (num / den) = d
  have hspacing : den * 2 ^ (d + e) = 2 ^ e * (den * 2 ^ d) := by ring
  rw [Nat.shiftLeft_eq, Nat.shiftLeft_eq, hspacing, Nat.mul_comm num,
    nearestEven_mul_mul_left (Nat.two_pow_pos e), Nat.pow_add, Nat.mul_assoc]

/-- A product with a whole number of ones is rounded from its exact value. -/
theorem nearest_mul_unit (num : ℕ) : nearest (num * 2 ^ 1074) unitsPerOne = nearest num 1 := by
  have hcancel (e : ℕ) : nearestCode (num * 2 ^ e) (Nat.pow 2 e) = nearestCode num 1 :=
    nearestCode_congr (Nat.two_pow_pos e) Nat.one_pos (Nat.mul_one _)
  apply Subtype.ext
  rw [val_nearest, val_nearest, hcancel 1074]

theorem units_nearest_eq_min (num den : ℕ) :
    (nearest num den).units = min (unitsAt (nearestCode num den)) (2 ^ 2098) := by
  have hmono : Monotone unitsAt := fun _ _ => unitsAt_le_iff.2
  rw [units, val_nearest, hmono.map_min, unitsAt_infinityCode]

theorem units_nearest (hden : 0 < den) (h : num < overflowUnits * den) :
    (nearest num den).units = unitsAt (nearestCode num den) := by
  rw [units, val_nearest, Nat.min_eq_left (Nat.le_of_lt (nearestCode_lt_infinity hden h))]

/-! ### Natural numbers and the midpoints above them -/

theorem mul_lt_overflowUnits {a k : ℕ} (h : a ≤ 2 ^ k) (hk : k ≤ 1022) :
    a * 2 ^ 1074 < overflowUnits := by
  have hpow (e : ℕ) (he : k ≤ e) : a ≤ 2 ^ e := h.trans (Nat.pow_le_pow_right Nat.two_pos he)
  have hlt : a < overflowValue :=
    Nat.lt_of_le_of_lt (hpow 1023 (by omega)) two_pow_lt_overflowValue
  rw [overflowUnits_eq]
  exact Nat.mul_lt_mul_of_pos_right hlt (pow_pos Nat.two_pos _)

/-- Natural numbers up to `2 ^ 53` are exact. -/
theorem units_ofNat {a : ℕ} (h : a ≤ 2 ^ 53) : (ofNat a).units = a * 2 ^ 1074 := by
  have hshift (e : ℕ) : a <<< e = a * 2 ^ e := Nat.shiftLeft_eq a e
  have hlt : a * 2 ^ 1074 < overflowUnits * 1 := by
    rw [Nat.mul_one]
    exact mul_lt_overflowUnits h (by decide)
  rw [ofNat, hshift 1074, units_nearest Nat.one_pos hlt, unitsAt_nearestCode_of_le h]

/-- The quotient of natural numbers is rounded from its exact value. -/
theorem units_quotient_ofNat {a b : ℕ} (ha : a < 2 ^ 53) (hb : b < 2 ^ 53) (hpos : 0 < b) :
    ((ofNat a).quotient (ofNat b)).units = unitsAt (nearestCode (a * 2 ^ 1074) b) := by
  have hshift (m e : ℕ) : m <<< e = m * 2 ^ e := Nat.shiftLeft_eq m e
  have hunit : 0 < 2 ^ 1074 := pow_pos Nat.two_pos _
  have hlt : a * 2 ^ 1074 * 2 ^ 1074 < overflowUnits * (b * 2 ^ 1074) := calc
    a * 2 ^ 1074 * 2 ^ 1074 < overflowUnits * 2 ^ 1074 :=
      Nat.mul_lt_mul_of_pos_right (mul_lt_overflowUnits ha.le (by decide)) hunit
    _ ≤ overflowUnits * (b * 2 ^ 1074) :=
      Nat.mul_le_mul_left _ (Nat.le_mul_of_pos_left _ hpos)
  rw [quotient, units_ofNat ha.le, units_ofNat hb.le, hshift _ 1074,
    units_nearest (Nat.mul_pos hpos hunit) hlt, nearestCode_congr (Nat.mul_pos hpos hunit) hpos]
  rw [Nat.mul_assoc (a * 2 ^ 1074), Nat.mul_comm b]

/-- The quotient of natural numbers is off by at most one part in `2 ^ 53`. -/
theorem quotient_ofNat_error {a b : ℕ} (ha : a < 2 ^ 53) (hb : b < 2 ^ 53) (hpos : 0 < b) :
    2 ^ 53 * (((ofNat a).quotient (ofNat b)).units * b) ≤
        2 ^ 53 * (a * 2 ^ 1074) + a * 2 ^ 1074 ∧
      2 ^ 53 * (a * 2 ^ 1074) ≤
        2 ^ 53 * (((ofNat a).quotient (ofNat b)).units * b) + a * 2 ^ 1074 := by
  rw [units_quotient_ofNat ha hb hpos]
  rcases Nat.eq_zero_or_pos a with rfl | hdividend
  · have hzero : nearestCode (0 * 2 ^ 1074) b ≤ 0 := nearestCode_le hpos (by omega)
    rw [Nat.le_zero.1 hzero, unitsAt_of_lt (by decide)]
    omega
  · have hpow (e k : ℕ) (h : e ≤ k) : 2 ^ e ≤ 2 ^ k := Nat.pow_le_pow_right Nat.two_pos h
    apply nearestCode_error hpos
    calc
      2 ^ 52 * b ≤ 2 ^ 52 * 2 ^ 53 := Nat.mul_le_mul_left _ hb.le
      _ = 2 ^ 105 := by decide
      _ ≤ 2 ^ 1074 := hpow 105 1074 (by decide)
      _ ≤ a * 2 ^ 1074 := Nat.le_mul_of_pos_left _ hdividend

/-- From a multiple of a spacing to the next one of its binade, values are rounded to multiples. -/
theorem unitsAt_nearestCode_between {m e q : ℕ} (hlow : 2 ^ 52 ≤ m) (hhigh : m + 1 < 2 ^ 53)
    (hle : m * 2 ^ e ≤ q) (hnext : q ≤ (m + 1) * 2 ^ e) :
    unitsAt (nearestCode q 1) = nearestEven q (2 ^ e) * 2 ^ e := by
  have hdoublings : doublings q = e := by
    apply doublings_eq
    · calc
        2 ^ (52 + e) = 2 ^ 52 * 2 ^ e := Nat.pow_add 2 52 e
        _ ≤ m * 2 ^ e := Nat.mul_le_mul_right _ hlow
        _ ≤ q := hle
    · calc
        q ≤ (m + 1) * 2 ^ e := hnext
        _ < 2 ^ 53 * 2 ^ e := Nat.mul_lt_mul_of_pos_right hhigh (Nat.two_pow_pos e)
        _ = 2 ^ (53 + e) := (Nat.pow_add 2 53 e).symm
  rw [unitsAt_nearestCode q Nat.one_pos, Nat.div_one, hdoublings, Nat.shiftLeft_eq, Nat.one_mul]

/-- An even multiple of a spacing takes what is at most half a spacing above it. -/
theorem unitsAt_nearestCode_le_iff {m d q : ℕ} (heven : m % 2 = 0) (hlow : 2 ^ 52 ≤ m)
    (hhigh : m < 2 ^ 53) :
    unitsAt (nearestCode q 1) ≤ m * 2 ^ (d + 1) ↔ q ≤ m * 2 ^ (d + 1) + 2 ^ d := by
  have hinner : m + 1 < 2 ^ 53 := by omega
  have hhalf : 2 ^ (d + 1) = 2 * 2 ^ d := Nat.pow_succ'
  have hpos := Nat.two_pow_pos d
  have hnext : (m + 1) * 2 ^ (d + 1) = m * 2 ^ (d + 1) + 2 * 2 ^ d := by
    rw [Nat.succ_mul, hhalf]
  constructor
  · -- One unit above the midpoint the next multiple is the nearer one.
    intro h
    by_contra hbeyond
    have hmono : unitsAt (nearestCode (m * 2 ^ (d + 1) + 2 ^ d + 1) 1) ≤ m * 2 ^ (d + 1) :=
      (unitsAt_le_iff.2 (nearestCode_mono Nat.one_pos Nat.one_pos (by omega))).trans h
    rw [unitsAt_nearestCode_between (e := d + 1) hlow hinner (by omega) (by omega)] at hmono
    have hle := Nat.le_of_mul_le_mul_right hmono (Nat.two_pow_pos (d + 1))
    have hlt := @lt_nearestEven (m * 2 ^ (d + 1) + 2 ^ d + 1) _ m (Nat.two_pow_pos (d + 1))
      (by omega)
    omega
  · -- At the midpoint itself the tie goes to the even multiple.
    intro h
    calc
      unitsAt (nearestCode q 1) ≤ unitsAt (nearestCode (m * 2 ^ (d + 1) + 2 ^ d) 1) :=
        unitsAt_le_iff.2 (nearestCode_mono Nat.one_pos Nat.one_pos (by omega))
      _ = nearestEven (m * (2 * 2 ^ d) + 2 ^ d) (2 * 2 ^ d) * 2 ^ (d + 1) := by
        rw [unitsAt_nearestCode_between (e := d + 1) hlow hinner (by omega) (by omega), hhalf]
      _ = m * 2 ^ (d + 1) := by rw [nearestEven_half heven hpos]

/-- The middle between a natural number and the next larger magnitude, in units. -/
def midpoint (k : ℕ) : ℕ := k * 2 ^ 1074 + 2 ^ (k.log2 + 1021)

/-- Natural numbers of at most 52 bits are even multiples of the spacing above them. -/
theorem exists_even_multiple {k : ℕ} (hpos : 0 < k) (hk : k < 2 ^ 52) :
    ∃ m, m % 2 = 0 ∧ 2 ^ 52 ≤ m ∧ m < 2 ^ 53 ∧ k * 2 ^ 1074 = m * 2 ^ (k.log2 + 1021 + 1) := by
  have hlog : k.log2 < 52 := (Nat.log2_lt (Nat.ne_of_gt hpos)).2 hk
  obtain ⟨j, hj⟩ := Nat.exists_eq_add_of_lt hlog
  have hscale (e : ℕ) (he : e = j + 1 + (k.log2 + 1021 + 1)) :
      k * 2 ^ e = k * 2 ^ (j + 1) * 2 ^ (k.log2 + 1021 + 1) := by
    rw [he, Nat.pow_add 2 (j + 1), Nat.mul_assoc]
  refine ⟨k * 2 ^ (j + 1), ?even, ?low, ?high, hscale 1074 (by omega)⟩
  case even => rw [Nat.pow_succ, ← Nat.mul_assoc, Nat.mul_mod_left]
  case low =>
    calc
      2 ^ 52 = 2 ^ k.log2 * 2 ^ (j + 1) := by rw [← Nat.pow_add, hj, Nat.add_assoc]
      _ ≤ k * 2 ^ (j + 1) := Nat.mul_le_mul_right _ (Nat.log2_self_le (Nat.ne_of_gt hpos))
  case high =>
    calc
      k * 2 ^ (j + 1) < 2 ^ (k.log2 + 1) * 2 ^ (j + 1) :=
        Nat.mul_lt_mul_of_pos_right Nat.lt_log2_self (Nat.two_pow_pos _)
      _ = 2 ^ 53 := by rw [← Nat.pow_add, show k.log2 + 1 + (j + 1) = 53 by omega]

/-- A natural number takes what lies between it and the midpoint above it. -/
theorem units_nearest_le_iff {k q : ℕ} (hpos : 0 < k) (hk : k < 2 ^ 52) :
    (nearest q 1).units ≤ k * 2 ^ 1074 ↔ q ≤ midpoint k := by
  obtain ⟨m, heven, hlow, hhigh, hunits⟩ := exists_even_multiple hpos hk
  have hfinite : k * 2 ^ 1074 < 2 ^ 2098 :=
    (mul_lt_overflowUnits hk.le (by decide)).trans overflowUnits_lt
  rw [units_nearest_eq_min, min_le_iff, or_iff_left (Nat.not_le.2 hfinite), midpoint, hunits,
    unitsAt_nearestCode_le_iff heven hlow hhigh]

/-- What lies above the midpoint is rounded above the number. -/
theorem lt_units_nearest {k q : ℕ} (hk : k < 2 ^ 52) (h : midpoint k < q) :
    k * 2 ^ 1074 < (nearest q 1).units := by
  rcases Nat.eq_zero_or_pos k with rfl | hpos
  · have hone : 2 ^ 0 ≤ (nearest q 1).units :=
      two_pow_le_units_nearest Nat.one_pos (by decide) (by omega)
    omega
  · exact Nat.not_le.1 fun hle => absurd ((units_nearest_le_iff hpos hk).1 hle) (Nat.not_le.2 h)

end Magnitude
end ScanLatency.Number
