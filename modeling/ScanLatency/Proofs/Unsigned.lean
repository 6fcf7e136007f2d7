import ScanLatency.Proofs.Magnitude

/-! Arithmetic of numbers without a sign, as rounded quotients and sums of magnitudes. A quotient
and a sum lie between the powers of two that bound their exact values, so a computation whose exact
values stay in a known range neither overflows nor loses a positive value to zero. -/
namespace ScanLatency.Number
namespace Magnitude

/-- The rounded quotient of two magnitudes; the divisor is not zero. -/
def quotient (m n : Magnitude) : Magnitude := nearest (m.units <<< 1074) n.units

def product (m n : Magnitude) : Magnitude := nearest (m.units * n.units) unitsPerOne

def sum (m n : Magnitude) : Magnitude := nearest (m.units + n.units) 1

def ofNat (n : ℕ) : Magnitude := nearest (n <<< 1074) 1

variable {m n : Magnitude} {a b c d k : ℕ}

theorem units_pos (h : m.val ≠ 0) : 0 < m.units :=
  Nat.pos_of_ne_zero fun hzero => h (units_eq_zero_iff.1 hzero)

theorem val_ne_zero_of_two_pow_le (h : 2 ^ k ≤ m.units) : m.val ≠ 0 := by
  intro hzero
  rw [units_eq_zero_iff.2 hzero] at h
  exact absurd h (Nat.not_le.2 (Nat.two_pow_pos k))

theorem nearest_zero {den : ℕ} (hden : 0 < den) : (nearest 0 den).val = 0 := by
  have hle : nearestCode 0 den ≤ 0 := nearestCode_le hden (Nat.zero_le _)
  have hmin := Nat.min_le_left (nearestCode 0 den) infinityCode
  rw [val_nearest]
  omega

/-! ### Natural numbers -/

theorem two_pow_le_units_ofNat (hk : k ≤ 1024) (h : 2 ^ k ≤ a) :
    2 ^ (k + 1074) ≤ (ofNat a).units := by
  apply two_pow_le_units_nearest Nat.one_pos (by omega)
  rw [Nat.shiftLeft_eq, Nat.mul_one, Nat.pow_add]
  exact Nat.mul_le_mul_right _ h

theorem val_ofNat_ne_zero (h : 0 < a) : (ofNat a).val ≠ 0 :=
  val_ne_zero_of_two_pow_le (two_pow_le_units_ofNat (k := 0) (by decide) h)

theorem units_ofNat_le_two_pow (h : a ≤ 2 ^ k) : (ofNat a).units ≤ 2 ^ (k + 1074) := by
  apply units_nearest_le_two_pow Nat.one_pos
  rw [Nat.shiftLeft_eq, Nat.mul_one, Nat.pow_add]
  exact Nat.mul_le_mul_right _ h

theorem isInfinite_ofNat (hk : k < 1024) (h : a ≤ 2 ^ k) : (ofNat a).isInfinite = false :=
  isInfinite_of_units_le (by omega) (units_ofNat_le_two_pow h)

/-! ### Quotients -/

theorem two_pow_le_units_quotient (hn : n.val ≠ 0) (hlow : 2 ^ a ≤ m.units)
    (hhigh : n.units ≤ 2 ^ d) (hk : k ≤ 2098) (h : k + d ≤ a + 1074) :
    2 ^ k ≤ (quotient m n).units := by
  apply two_pow_le_units_nearest (units_pos hn) hk
  rw [Nat.shiftLeft_eq]
  calc
    2 ^ k * n.units ≤ 2 ^ k * 2 ^ d := Nat.mul_le_mul_left _ hhigh
    _ = 2 ^ (k + d) := (Nat.pow_add 2 k d).symm
    _ ≤ 2 ^ (a + 1074) := Nat.pow_le_pow_right Nat.two_pos h
    _ = 2 ^ a * 2 ^ 1074 := Nat.pow_add 2 a 1074
    _ ≤ m.units * 2 ^ 1074 := Nat.mul_le_mul_right _ hlow

theorem units_quotient_le_two_pow (hhigh : m.units ≤ 2 ^ b) (hlow : 2 ^ c ≤ n.units)
    (h : b + 1074 ≤ k + c) : (quotient m n).units ≤ 2 ^ k := by
  apply units_nearest_le_two_pow (Nat.lt_of_lt_of_le (Nat.two_pow_pos c) hlow)
  rw [Nat.shiftLeft_eq]
  calc
    m.units * 2 ^ 1074 ≤ 2 ^ b * 2 ^ 1074 := Nat.mul_le_mul_right _ hhigh
    _ = 2 ^ (b + 1074) := (Nat.pow_add 2 b 1074).symm
    _ ≤ 2 ^ (k + c) := Nat.pow_le_pow_right Nat.two_pos h
    _ = 2 ^ k * 2 ^ c := Nat.pow_add 2 k c
    _ ≤ 2 ^ k * n.units := Nat.mul_le_mul_left _ hlow

theorem quotient_zero (hm : m.val = 0) (hn : n.val ≠ 0) : (quotient m n).val = 0 := by
  rw [quotient, units_eq_zero_iff.2 hm, Nat.zero_shiftLeft]
  exact nearest_zero (units_pos hn)

/-- A quotient of at least one unit is not lost to zero. -/
theorem quotient_eq_zero_iff (hn : n.val ≠ 0) (hlow : m.val ≠ 0 → 2 ^ a ≤ m.units)
    (hhigh : n.units ≤ 2 ^ d) (h : d ≤ a + 1074) : (quotient m n).val = 0 ↔ m.val = 0 := by
  refine ⟨fun hzero => ?_, fun hm => quotient_zero hm hn⟩
  by_contra hm
  have hle := two_pow_le_units_quotient hn (hlow hm) hhigh (k := 0) (by omega) (by omega)
  exact val_ne_zero_of_two_pow_le hle hzero

/-- The least exact value that is rounded to infinity. -/
abbrev overflowValue : ℕ := 2 ^ 1024 - 2 ^ 970

theorem overflowUnits_eq : overflowUnits = overflowValue * 2 ^ 1074 := by
  have hscale (a b k e : ℕ) (hk : k = 54 + a) (he : e = a + b) :
      (2 ^ 54 - 1) * 2 ^ e = (2 ^ k - 2 ^ a) * 2 ^ b := by
    rw [hk, he, Nat.pow_add 2 54, Nat.pow_add 2 a b, ← Nat.mul_assoc, Nat.sub_mul, Nat.one_mul]
  unfold overflowUnits overflowValue
  exact hscale 970 1074 1024 2044 rfl rfl

theorem two_pow_lt_overflowValue : 2 ^ 1023 < overflowValue := by
  have hhalf (b e k : ℕ) (h : b < e) (hk : k = e + 1) : 2 ^ e < 2 ^ k - 2 ^ b := by
    have hlt : 2 ^ b < 2 ^ e := Nat.pow_lt_pow_right (by decide) h
    rw [hk, Nat.pow_succ]
    omega
  exact hhalf 970 1023 1024 (by decide) rfl

/-- A quotient overflows if its dividend is too large for its divisor. -/
theorem isInfinite_quotient_iff (hn : n.val ≠ 0) :
    (quotient m n).isInfinite = true ↔ overflowValue * n.units ≤ m.units := by
  have hcancel (a b e : ℕ) : a * 2 ^ e ≤ b <<< e ↔ a ≤ b := by
    rw [Nat.shiftLeft_eq]
    exact Nat.mul_le_mul_right_iff (Nat.two_pow_pos e)
  rw [← hcancel (overflowValue * n.units) m.units 1074, Nat.mul_right_comm, ← overflowUnits_eq]
  exact isInfinite_nearest_iff (units_pos hn)

theorem units_lt_overflow {m m' : Magnitude} {j k : ℕ} (hj : j ≤ 1023 + k)
    (hm : m.units ≤ 2 ^ j) (hm' : 2 ^ k ≤ m'.units) : m.units < overflowValue * m'.units := by
  have hscale (e b : ℕ) (h : 2 ^ e < b) : 2 ^ (e + k) < b * 2 ^ k := by
    rw [Nat.pow_add]
    exact Nat.mul_lt_mul_of_pos_right h (Nat.two_pow_pos k)
  calc
    m.units ≤ 2 ^ j := hm
    _ ≤ 2 ^ (1023 + k) := Nat.pow_le_pow_right Nat.two_pos hj
    _ < overflowValue * 2 ^ k := hscale _ _ two_pow_lt_overflowValue
    _ ≤ overflowValue * m'.units := Nat.mul_le_mul_left _ hm'

/-! ### Sums -/

theorem units_le_units_sum_left : m.units ≤ (sum m n).units := by
  apply units_le_units_nearest Nat.one_pos
  omega

theorem units_le_units_sum_right : n.units ≤ (sum m n).units := by
  apply units_le_units_nearest Nat.one_pos
  omega

theorem units_sum_le_two_pow (hm : m.units ≤ 2 ^ k) (hn : n.units ≤ 2 ^ k) :
    (sum m n).units ≤ 2 ^ (k + 1) := by
  apply units_nearest_le_two_pow Nat.one_pos
  rw [Nat.pow_succ]
  omega

theorem sum_eq_zero_iff : (sum m n).val = 0 ↔ m.val = 0 ∧ n.val = 0 := by
  rw [← units_eq_zero_iff, ← units_eq_zero_iff (m := m), ← units_eq_zero_iff (m := n)]
  have hleft := units_le_units_sum_left (m := m) (n := n)
  have hright := units_le_units_sum_right (m := m) (n := n)
  refine ⟨fun h => by omega, fun ⟨hm, hn⟩ => ?_⟩
  rw [sum, hm, hn]
  exact units_eq_zero_iff.2 (nearest_zero Nat.one_pos)

/-- Half the last spacing: smaller summands do not make a finite magnitude overflow. -/
theorem isInfinite_sum_iff (hm : m.units < 2 ^ 2044) :
    (sum m n).isInfinite = true ↔ n.isInfinite = true := by
  rw [sum, isInfinite_nearest_iff Nat.one_pos, Nat.mul_one]
  constructor
  · intro h
    rw [← Bool.not_eq_false]
    intro hfinite
    have hle := units_le_of_finite hfinite
    have hspacing (e k : ℕ) (hk : k = e + 1) :
        (2 ^ 53 - 1) * 2 ^ k + 2 ^ e = (2 ^ 54 - 1) * 2 ^ e := by
      rw [hk, Nat.pow_succ]
      omega
    have hlast : (2 ^ 53 - 1) * 2 ^ 2045 + 2 ^ 2044 = overflowUnits := hspacing 2044 2045 rfl
    omega
  · intro h
    have hinfinity := overflowUnits_lt
    rw [isInfinite_iff.1 h, units_infinity]
    omega

end Magnitude

namespace Binary64

variable {m n : Magnitude}

@[simp] theorem isNaN_signed (negative : Bool) (m : Magnitude) :
    (signed negative m).isNaN = false := rfl

@[simp] theorem isFinite_signed (negative : Bool) (m : Magnitude) :
    (signed negative m).isFinite = !m.isInfinite := rfl

@[simp] theorem toUnits_signed (m : Magnitude) : (signed false m).toUnits = m.units := rfl

theorem ofNat_eq (k : ℕ) : ofNat k = signed false (.ofNat k) := rfl

theorem zero_eq : (0 : Binary64) = signed false .zero := rfl

theorem signed_eq_zero_iff : signed false m = 0 ↔ m.val = 0 := by
  rw [zero_eq]
  constructor
  · intro h
    cases h
    rfl
  · intro h
    exact congrArg (signed false) (Subtype.ext h)

/-- A number without a sign is positive unless it is zero. -/
theorem pos_iff : 0 < signed false m ↔ m.val ≠ 0 := by
  rw [zero_eq]
  show lt _ _ = true ↔ _
  simp [lt, key, Magnitude.zero, Nat.pos_iff_ne_zero]

/-- Finite numbers are divided as their magnitudes are. -/
theorem signed_div (hm : m.isInfinite = false) (hn : n.isInfinite = false) (hzero : n.val ≠ 0) :
    signed false m / signed false n = signed false (m.quotient n) := by
  show div _ _ = _
  rw [div, hm, hn, if_neg hzero]
  rfl

/-- Finite numbers are multiplied as their magnitudes are. -/
theorem signed_mul (hm : m.isInfinite = false) (hn : n.isInfinite = false) :
    signed false m * signed false n = signed false (m.product n) := by
  show mul _ _ = _
  rw [mul, hm, hn]
  rfl

theorem infinity_div (hn : n.isInfinite = false) :
    signed false .infinity / signed false n = signed false .infinity := by
  show div _ _ = _
  rw [div, hn]
  rfl

theorem div_infinity (hm : m.isInfinite = false) :
    signed false m / signed false .infinity = signed false .zero := by
  show div _ _ = _
  rw [div, hm]
  rfl

theorem infinity_div_infinity :
    signed false .infinity / signed false .infinity = nan := rfl

theorem addFinite_signed :
    addFinite (signed false m) (signed false n) false = signed false (m.sum n) := by
  have hunits : (signed false m).toUnits + (signed false n).toUnits =
      ((m.units + n.units : ℕ) : ℤ) := (Int.natCast_add _ _).symm
  have hsign : decide (((m.units + n.units : ℕ) : ℤ) < 0) = false := decide_eq_false (by omega)
  simp only [addFinite, hunits, hsign, Int.natAbs_natCast]
  split
  next hzero =>
    have hval : (m.sum n).val = 0 := Magnitude.sum_eq_zero_iff.2
      ⟨Magnitude.units_eq_zero_iff.1 (by omega), Magnitude.units_eq_zero_iff.1 (by omega)⟩
    exact congrArg (signed false) (Subtype.ext hval.symm)
  next => rfl

/-- Numbers are added as their magnitudes are, infinities included. -/
theorem signed_add : signed false m + signed false n = signed false (m.sum n) := by
  have hinfinite (h : m.isInfinite = true ∨ n.isInfinite = true) : m.sum n = .infinity := by
    apply Magnitude.isInfinite_iff.1
    rw [Magnitude.sum, Magnitude.isInfinite_nearest_iff Nat.one_pos]
    have hinfinity := Magnitude.overflowUnits_lt
    rcases h with h | h <;> rw [Magnitude.isInfinite_iff.1 h, Magnitude.units_infinity] <;> omega
  show add _ _ = _
  -- The sum of two magnitudes is infinite if one of them is, so that only the signs remain.
  simp only [add]
  split
  next hm =>
    rw [hinfinite (.inl hm), Magnitude.isInfinite_iff.1 hm]
    simp
  next hm =>
    split
    next hn => rw [hinfinite (.inr hn), Magnitude.isInfinite_iff.1 hn]
    next => exact addFinite_signed

/-! ### Finite and infinite numbers -/

theorem isFinite_signed_iff : (signed false m).isFinite ↔ m.isInfinite = false := by simp

theorem toUnits_lt_iff :
    (signed false m).toUnits < Magnitude.overflowValue * (signed false n).toUnits ↔
      m.units < Magnitude.overflowValue * n.units := by
  rw [toUnits_signed, toUnits_signed, ← Int.natCast_mul, Int.ofNat_lt]

theorem two_pow_le_toUnits_iff {k : ℕ} : 2 ^ k ≤ (signed false m).toUnits ↔ 2 ^ k ≤ m.units := by
  rw [toUnits_signed]
  exact_mod_cast Iff.rfl

theorem toUnits_le_two_pow_iff {k : ℕ} : (signed false m).toUnits ≤ 2 ^ k ↔ m.units ≤ 2 ^ k := by
  rw [toUnits_signed]
  exact_mod_cast Iff.rfl

section Quotient

variable (hn : n.val ≠ 0)
include hn

/-- The quotient of two numbers is not a number only if both are infinite. -/
theorem isNaN_div_iff : (signed false m / signed false n).isNaN ↔
    m.isInfinite = true ∧ n.isInfinite = true := by
  cases hm : m.isInfinite <;> cases hinfinite : n.isInfinite
  case false.false =>
    rw [signed_div hm hinfinite hn]
    exact iff_of_false nofun nofun
  case false.true =>
    rw [Magnitude.isInfinite_iff.1 hinfinite, div_infinity hm]
    exact iff_of_false nofun nofun
  case true.false =>
    rw [Magnitude.isInfinite_iff.1 hm, infinity_div hinfinite]
    exact iff_of_false nofun nofun
  case true.true =>
    rw [Magnitude.isInfinite_iff.1 hm, Magnitude.isInfinite_iff.1 hinfinite, infinity_div_infinity]
    exact iff_of_true rfl ⟨rfl, rfl⟩

/-- A quotient is finite if its dividend is and it does not overflow. -/
theorem isFinite_div_iff : (signed false m / signed false n).isFinite ↔
    m.isInfinite = false ∧ m.units < Magnitude.overflowValue * n.units := by
  cases hm : m.isInfinite <;> cases hinfinite : n.isInfinite
  case false.false =>
    rw [signed_div hm hinfinite hn, isFinite_signed_iff, ← Bool.not_eq_true,
      Magnitude.isInfinite_quotient_iff hn, Nat.not_le]
    exact ⟨fun h => ⟨rfl, h⟩, fun h => h.2⟩
  case false.true =>
    have hlt : m.units < Magnitude.overflowValue * n.units := by
      rw [Magnitude.isInfinite_iff.1 hinfinite, Magnitude.units_infinity]
      exact Nat.lt_of_le_of_lt (Magnitude.units_le_of_finite hm) (by decide +kernel)
    rw [Magnitude.isInfinite_iff.1 hinfinite] at hlt ⊢
    rw [div_infinity hm]
    exact iff_of_true rfl ⟨rfl, hlt⟩
  case true.false =>
    rw [Magnitude.isInfinite_iff.1 hm, infinity_div hinfinite]
    exact iff_of_false nofun nofun
  case true.true =>
    rw [Magnitude.isInfinite_iff.1 hm, Magnitude.isInfinite_iff.1 hinfinite, infinity_div_infinity]
    exact iff_of_false nofun nofun

end Quotient
end Binary64
end ScanLatency.Number
