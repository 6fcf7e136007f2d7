/-! Nearest integers of exact quotients. Every rounding of the library, whether to a binary or to
a decimal grid, is one call of `nearestEven`, so that a tie is decided in one place. -/
namespace ScanLatency.Number

/-- The integer nearest to `num / den`; of two equally near ones, the even one. -/
def nearestEven (num den : Nat) : Nat :=
  let q := num / den
  let twice := 2 * (num % den)
  if twice < den ∨ (twice = den ∧ q % 2 = 0) then q else q + 1

theorem nearestEven_floor_or_succ (num den : Nat) :
    nearestEven num den = num / den ∨ nearestEven num den = num / den + 1 := by
  unfold nearestEven
  simp only
  split
  · exact .inl rfl
  · exact .inr rfl

@[simp] theorem nearestEven_mul_left (k : Nat) {den : Nat} (h : 0 < den) :
    nearestEven (k * den) den = k := by
  simp [nearestEven, Nat.mul_div_cancel k h, h]

/-- The distance to the rounded value is at most half a unit. -/
theorem nearestEven_within_half {num den : Nat} (h : 0 < den) :
    2 * (nearestEven num den * den) ≤ 2 * num + den ∧
      2 * num ≤ 2 * (nearestEven num den * den) + den := by
  have hdiv := Nat.div_add_mod num den
  have hmod := Nat.mod_lt num h
  have hcomm : den * (num / den) = num / den * den := Nat.mul_comm _ _
  unfold nearestEven
  simp only
  split
  next c => rcases c with c | c <;> constructor <;> omega
  next c =>
    have : (num / den + 1) * den = num / den * den + den := by rw [Nat.add_mul, Nat.one_mul]
    constructor <;> omega

/-- A larger numerator never rounds to a smaller integer. -/
theorem nearestEven_mono {a b : Nat} (den : Nat) (hab : a ≤ b) :
    nearestEven a den ≤ nearestEven b den := by
  have hq : a / den ≤ b / den := Nat.div_le_div_right hab
  rcases Nat.lt_or_ge (a / den) (b / den) with hlt | hge
  · rcases nearestEven_floor_or_succ a den with ha | ha <;>
      rcases nearestEven_floor_or_succ b den with hb | hb <;> omega
  · have heq : a / den = b / den := Nat.le_antisymm hq hge
    have hra := Nat.div_add_mod a den
    have hrb := Nat.div_add_mod b den
    rw [heq] at hra
    unfold nearestEven
    simp only [heq]
    split <;> split <;> omega

example : nearestEven 5 2 = 2 ∧ nearestEven 7 2 = 4 ∧ nearestEven 8 3 = 3 := by decide

end ScanLatency.Number
