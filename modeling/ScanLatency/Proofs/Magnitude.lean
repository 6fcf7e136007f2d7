import Mathlib.Data.Nat.Notation
import Mathlib.Tactic.Ring
import ScanLatency.Number.Binary64

/-! Rounding and the order of exact values. The position that a quotient is rounded to depends on
its value alone, never falls when the value rises, and is the position itself for a value on the
grid. So a value on the grid that bounds an exact quotient bounds the rounded one too, and the
quotients rounded to infinity are those from half a spacing below it on. -/
namespace ScanLatency.Number

/-- Rounding depends on the quotient alone. -/
theorem nearestEven_mul_mul_left {k : ℕ} (hk : 0 < k) (num den : ℕ) :
    nearestEven (k * num) (k * den) = nearestEven num den := by
  have htwice : 2 * (k * (num % den)) = k * (2 * (num % den)) := by ring
  unfold nearestEven
  simp only [Nat.mul_div_mul_left num den hk, Nat.mul_mod_mul_left, htwice,
    Nat.mul_lt_mul_left hk, Nat.mul_right_inj (Nat.ne_of_gt hk)]

theorem nearestEven_le {num den k : ℕ} (hden : 0 < den) (h : num ≤ k * den) :
    nearestEven num den ≤ k := calc
  nearestEven num den ≤ nearestEven (k * den) den := nearestEven_mono den h
  _ = k := nearestEven_mul_left k hden

theorem le_nearestEven {num den k : ℕ} (hden : 0 < den) (h : k * den ≤ num) :
    k ≤ nearestEven num den := calc
  k = nearestEven (k * den) den := (nearestEven_mul_left k hden).symm
  _ ≤ nearestEven num den := nearestEven_mono den h

/-- What is more than half a unit below an integer is rounded to a smaller one. -/
theorem nearestEven_lt {num den k : ℕ} (hden : 0 < den) (h : 2 * num + den < 2 * (k * den)) :
    nearestEven num den < k := by
  have hhalf := (@nearestEven_within_half num den hden).1
  exact Nat.lt_of_mul_lt_mul_right (a := den) (by omega)

/-- What is more than half a unit above an integer is rounded to a larger one. -/
theorem lt_nearestEven {num den k : ℕ} (hden : 0 < den) (h : 2 * (k * den) + den < 2 * num) :
    k < nearestEven num den := by
  have hhalf := (@nearestEven_within_half num den hden).2
  exact Nat.lt_of_mul_lt_mul_right (a := den) (by omega)

/-- A larger quotient never rounds to a smaller integer. -/
theorem nearestEven_le_nearestEven {a b c d : ℕ} (hb : 0 < b) (hd : 0 < d) (h : a * d ≤ c * b) :
    nearestEven a b ≤ nearestEven c d := calc
  nearestEven a b = nearestEven (d * a) (d * b) := (nearestEven_mul_mul_left hd a b).symm
  _ ≤ nearestEven (b * c) (d * b) :=
    nearestEven_mono _ (by rwa [Nat.mul_comm d a, Nat.mul_comm b c])
  _ = nearestEven c d := by rw [Nat.mul_comm d b, nearestEven_mul_mul_left hb]

namespace Magnitude

/-! ### Binades -/

theorem doublings_of_lt {q : ℕ} (h : q < 2 ^ 53) : doublings q = 0 := if_pos h

theorem doublings_of_le {q : ℕ} (h : 2 ^ 53 ≤ q) : doublings q + 52 = q.log2 := by
  have hlog : 53 ≤ q.log2 := (Nat.le_log2 (by omega)).2 h
  have hdoublings : doublings q = q.log2 - 52 := if_neg (Nat.not_lt.2 h)
  omega

theorem lt_doublings (q : ℕ) : q < 2 ^ (53 + doublings q) := by
  rcases Nat.lt_or_ge q (2 ^ 53) with hlt | hle
  · rwa [doublings_of_lt hlt]
  · have hlog := doublings_of_le hle
    rw [show 53 + doublings q = q.log2 + 1 by omega]
    exact Nat.lt_log2_self

theorem doublings_le {q : ℕ} (h : 0 < doublings q) : 2 ^ (52 + doublings q) ≤ q := by
  rcases Nat.lt_or_ge q (2 ^ 53) with hlt | hle
  · rw [doublings_of_lt hlt] at h
    exact absurd h (Nat.lt_irrefl 0)
  · rw [Nat.add_comm, doublings_of_le hle]
    exact Nat.log2_self_le (by omega)

theorem doublings_mono {p q : ℕ} (h : p ≤ q) : doublings p ≤ doublings q := by
  rcases Nat.eq_zero_or_pos (doublings p) with hzero | hpos
  · rw [hzero]
    exact Nat.zero_le _
  · have hlt := Nat.lt_of_le_of_lt ((doublings_le hpos).trans h) (lt_doublings q)
    have := (Nat.pow_lt_pow_iff_right (by decide)).1 hlt
    omega

theorem doublings_le_of_lt {q k e : ℕ} (h : q < 2 ^ k) (hk : k ≤ 53 + e) : doublings q ≤ e := by
  rcases Nat.eq_zero_or_pos (doublings q) with hzero | hpos
  · omega
  · have := (Nat.pow_lt_pow_iff_right (by decide)).1 (Nat.lt_of_le_of_lt (doublings_le hpos) h)
    omega

/-- The binade that holds a value. -/
theorem doublings_eq {q e : ℕ} (hlow : 2 ^ (52 + e) ≤ q) (hhigh : q < 2 ^ (53 + e)) :
    doublings q = e := by
  have hup := (Nat.pow_lt_pow_iff_right (by decide)).1 (Nat.lt_of_le_of_lt hlow (lt_doublings q))
  have hdown := doublings_le_of_lt hhigh (Nat.le_refl _)
  omega

/-! ### Positions -/

theorem nearestEven_binade_le (num : ℕ) {den : ℕ} (hden : 0 < den) :
    nearestEven num (den <<< doublings (num / den)) ≤ 2 ^ 53 := by
  have hpos : 0 < den <<< doublings (num / den) := Nat.shiftLeft_pos_iff.2 hden
  apply nearestEven_le hpos
  rw [Nat.shiftLeft_eq]
  have hlt := (Nat.div_lt_iff_lt_mul hden).1 (lt_doublings (num / den))
  calc
    num ≤ 2 ^ (53 + doublings (num / den)) * den := hlt.le
    _ = 2 ^ 53 * (den * 2 ^ doublings (num / den)) := by ring

theorem le_nearestEven_binade (num : ℕ) {den : ℕ} (hden : 0 < den) (h : 0 < doublings (num / den)) :
    2 ^ 52 ≤ nearestEven num (den <<< doublings (num / den)) := by
  have hpos : 0 < den <<< doublings (num / den) := Nat.shiftLeft_pos_iff.2 hden
  apply le_nearestEven hpos
  rw [Nat.shiftLeft_eq]
  have hle := (Nat.le_div_iff_mul_le hden).1 (doublings_le h)
  calc
    2 ^ 52 * (den * 2 ^ doublings (num / den)) = 2 ^ (52 + doublings (num / den)) * den := by ring
    _ ≤ num := hle

/-- A larger quotient never rounds to a smaller magnitude. -/
theorem nearestCode_mono {a b c d : ℕ} (hb : 0 < b) (hd : 0 < d) (h : a * d ≤ c * b) :
    nearestCode a b ≤ nearestCode c d := by
  have hquotient : a / b ≤ c / d := by
    apply (Nat.le_div_iff_mul_le hd).2
    apply Nat.le_of_mul_le_mul_right _ hb
    calc
      a / b * d * b = a / b * b * d := by ring
      _ ≤ a * d := Nat.mul_le_mul_right d (Nat.div_mul_le_self a b)
      _ ≤ c * b := h
  unfold nearestCode
  simp only
  rcases Nat.eq_or_lt_of_le (doublings_mono hquotient) with heq | hlt
  · -- In one binade both are rounded to integers in the same unit.
    rw [heq]
    apply Nat.add_le_add_left
    apply nearestEven_le_nearestEven (Nat.shiftLeft_pos_iff.2 hb) (Nat.shiftLeft_pos_iff.2 hd)
    rw [Nat.shiftLeft_eq, Nat.shiftLeft_eq, ← Nat.mul_assoc, ← Nat.mul_assoc]
    exact Nat.mul_le_mul_right _ h
  · -- The end of a lower binade is at most the beginning of a higher one.
    have hupper := nearestEven_binade_le a hb
    have hlower := le_nearestEven_binade c hd (Nat.zero_lt_of_lt hlt)
    have hcodes := Nat.mul_le_mul_right binadeSize (Nat.succ_le_of_lt hlt)
    unfold binadeSize at *
    omega

theorem nearestCode_congr {a b c d : ℕ} (hb : 0 < b) (hd : 0 < d) (h : a * d = c * b) :
    nearestCode a b = nearestCode c d :=
  Nat.le_antisymm (nearestCode_mono hb hd h.le) (nearestCode_mono hd hb h.ge)

theorem unitsAt_of_lt {code : ℕ} (h : code < binadeSize) : unitsAt code = code := if_pos h

/-- The binade of a position, and its place there. -/
theorem exists_binade {code : ℕ} (h : binadeSize ≤ code) :
    ∃ e rest, rest < binadeSize ∧ code = (e + 1) * binadeSize + rest := by
  refine ⟨code / binadeSize - 1, code % binadeSize, Nat.mod_lt _ (by decide), ?_⟩
  unfold binadeSize at *
  omega

/-- The values of a later binade have one unit in common. -/
theorem unitsAt_binade (e : ℕ) {rest : ℕ} (h : rest < binadeSize) :
    unitsAt ((e + 1) * binadeSize + rest) = (binadeSize + rest) * 2 ^ e := by
  have hdiv : ((e + 1) * binadeSize + rest) / binadeSize = e + 1 := by
    rw [Nat.mul_comm, Nat.mul_add_div (by decide), Nat.div_eq_of_lt h]
  have hmod : ((e + 1) * binadeSize + rest) % binadeSize = rest := by
    rw [Nat.mul_comm, Nat.mul_add_mod, Nat.mod_eq_of_lt h]
  have hle : ¬(e + 1) * binadeSize + rest < binadeSize := by
    unfold binadeSize
    omega
  rw [unitsAt, if_neg hle, hdiv, hmod, Nat.shiftLeft_eq]
  rfl

/-- The value of a position is rounded to the position. -/
theorem nearestCode_unitsAt (code : ℕ) {k : ℕ} (hk : 0 < k) :
    nearestCode (unitsAt code * k) k = code := by
  unfold nearestCode
  simp only [Nat.mul_div_cancel _ hk]
  rcases Nat.lt_or_ge code binadeSize with hlt | hle
  · have hsmall : unitsAt code < 2 ^ 53 := by
      rw [unitsAt_of_lt hlt]
      unfold binadeSize at hlt
      omega
    rw [doublings_of_lt hsmall, unitsAt_of_lt hlt, Nat.shiftLeft_zero, nearestEven_mul_left code hk]
    omega
  · obtain ⟨e, rest, hrest, rfl⟩ := exists_binade hle
    have hunits := unitsAt_binade e hrest
    have hdoublings : doublings (unitsAt ((e + 1) * binadeSize + rest)) = e := by
      rw [hunits]
      apply doublings_eq
      · rw [Nat.pow_add]
        exact Nat.mul_le_mul_right _ (Nat.le_add_right _ _)
      · rw [Nat.pow_add]
        apply Nat.mul_lt_mul_of_pos_right _ (Nat.two_pow_pos e)
        unfold binadeSize at *
        omega
    have hunit : unitsAt ((e + 1) * binadeSize + rest) * k = (binadeSize + rest) * (k <<< e) := by
      rw [hunits, Nat.shiftLeft_eq]
      ring
    rw [hdoublings, hunit, nearestEven_mul_left _ (Nat.shiftLeft_pos_iff.2 hk)]
    ring

theorem nearestCode_le {num den code : ℕ} (hden : 0 < den) (h : num ≤ unitsAt code * den) :
    nearestCode num den ≤ code := calc
  nearestCode num den ≤ nearestCode (unitsAt code * den) den :=
    nearestCode_mono hden hden (Nat.mul_le_mul_right den h)
  _ = code := nearestCode_unitsAt code hden

theorem le_nearestCode {num den code : ℕ} (hden : 0 < den) (h : unitsAt code * den ≤ num) :
    code ≤ nearestCode num den := calc
  code = nearestCode (unitsAt code * den) den := (nearestCode_unitsAt code hden).symm
  _ ≤ nearestCode num den := nearestCode_mono hden hden (Nat.mul_le_mul_right den h)

/-- Positions are ordered as their values are. -/
theorem unitsAt_le_iff {c d : ℕ} : unitsAt c ≤ unitsAt d ↔ c ≤ d := by
  have hmono {c d : ℕ} (h : unitsAt c ≤ unitsAt d) : c ≤ d := by
    have hle : nearestCode (unitsAt c) 1 ≤ d := nearestCode_le Nat.one_pos (by rwa [Nat.mul_one])
    rwa [← Nat.mul_one (unitsAt c), nearestCode_unitsAt c Nat.one_pos] at hle
  refine ⟨hmono, fun h => ?_⟩
  rcases Nat.le_total (unitsAt c) (unitsAt d) with hle | hge
  · exact hle
  · rw [Nat.le_antisymm h (hmono hge)]

/-! ### Powers of two and infinity -/

theorem units_le_iff {m n : Magnitude} : m.units ≤ n.units ↔ m.val ≤ n.val := unitsAt_le_iff

theorem units_eq_zero_iff {m : Magnitude} : m.units = 0 ↔ m.val = 0 := by
  have h := unitsAt_le_iff (c := m.val) (d := 0)
  rw [unitsAt_of_lt (by decide : 0 < binadeSize), Nat.le_zero, Nat.le_zero] at h
  exact h

/-- Every power of two is on the grid. -/
theorem exists_unitsAt_eq_two_pow (k : ℕ) : ∃ code, unitsAt code = 2 ^ k := by
  rcases Nat.lt_or_ge k 52 with hlt | hle
  · exact ⟨2 ^ k, unitsAt_of_lt (Nat.pow_lt_pow_right (by decide) hlt)⟩
  · obtain ⟨e, rfl⟩ := Nat.exists_eq_add_of_le hle
    refine ⟨(e + 1) * binadeSize + 0, ?_⟩
    rw [unitsAt_binade e (by decide), Nat.pow_add]

/-- Infinity takes the place of the first magnitude of one more binade. -/
theorem unitsAt_infinityCode : unitsAt infinityCode = 2 ^ 2098 := by
  have hfirst (e k : ℕ) (h : k = 52 + e) : unitsAt ((e + 1) * binadeSize + 0) = 2 ^ k := by
    rw [h, unitsAt_binade e (by decide), Nat.pow_add]
  exact hfirst 2046 2098 rfl

theorem units_infinity : infinity.units = 2 ^ 2098 := unitsAt_infinityCode

theorem units_le_infinity (m : Magnitude) : m.units ≤ 2 ^ 2098 := by
  rw [← units_infinity]
  exact units_le_iff.2 m.property

theorem isInfinite_iff {m : Magnitude} : m.isInfinite = true ↔ m = infinity := by
  rw [isInfinite, beq_iff_eq, Subtype.ext_iff]
  rfl

theorem isInfinite_eq_false_iff {m : Magnitude} : m.isInfinite = false ↔ m.val < infinityCode := by
  have hle := m.property
  rw [isInfinite, beq_eq_false_iff_ne]
  omega

theorem isInfinite_of_lt {m : Magnitude} (h : m.units < 2 ^ 2098) : m.isInfinite = false := by
  rw [Bool.eq_false_iff]
  intro hinfinite
  rw [isInfinite_iff.1 hinfinite, units_infinity] at h
  exact Nat.lt_irrefl _ h

theorem isInfinite_of_units_le {m : Magnitude} {k : ℕ} (hk : k < 2098) (h : m.units ≤ 2 ^ k) :
    m.isInfinite = false := by
  have hpow (e : ℕ) (he : k < e) : 2 ^ k < 2 ^ e := Nat.pow_lt_pow_right (by decide) he
  exact isInfinite_of_lt (Nat.lt_of_le_of_lt h (hpow 2098 hk))

/-- The largest finite magnitude is one spacing below infinity. -/
theorem units_le_of_finite {m : Magnitude} (h : m.isInfinite = false) :
    m.units ≤ (2 ^ 53 - 1) * 2 ^ 2045 := by
  have hlast (e : ℕ) : unitsAt ((e + 1) * binadeSize + (binadeSize - 1)) = (2 ^ 53 - 1) * 2 ^ e :=
    unitsAt_binade e (by decide)
  rw [← hlast 2045]
  exact unitsAt_le_iff.2 (Nat.le_sub_one_of_lt (isInfinite_eq_false_iff.1 h))

theorem val_nearest (num den : ℕ) :
    (nearest num den).val = min (nearestCode num den) infinityCode := by
  unfold nearest
  split
  next h => exact (Nat.min_eq_left (Nat.le_of_lt h)).symm
  next h => exact (Nat.min_eq_right (Nat.not_lt.1 h)).symm

variable {num den k : ℕ}

/-- A bound by a magnitude survives rounding. -/
theorem units_le_units_nearest {m : Magnitude} (hden : 0 < den) (h : m.units * den ≤ num) :
    m.units ≤ (nearest num den).units := by
  apply units_le_iff.2
  rw [val_nearest]
  exact Nat.le_min.2 ⟨le_nearestCode hden h, m.property⟩

theorem two_pow_le_units_nearest (hden : 0 < den) (hk : k ≤ 2098) (h : 2 ^ k * den ≤ num) :
    2 ^ k ≤ (nearest num den).units := by
  obtain ⟨code, hcode⟩ := exists_unitsAt_eq_two_pow k
  have hinfinity : code ≤ infinityCode := by
    apply unitsAt_le_iff.1
    rw [hcode, unitsAt_infinityCode]
    exact pow_le_pow_right₀ one_le_two hk
  rw [← hcode] at h ⊢
  exact units_le_units_nearest (m := ⟨code, hinfinity⟩) hden h

theorem units_nearest_le_two_pow (hden : 0 < den) (h : num ≤ 2 ^ k * den) :
    (nearest num den).units ≤ 2 ^ k := by
  obtain ⟨code, hcode⟩ := exists_unitsAt_eq_two_pow k
  rw [← hcode] at h ⊢
  apply unitsAt_le_iff.2
  rw [val_nearest]
  exact (Nat.min_le_left _ _).trans (nearestCode_le hden h)

/-- The least value, in units, that is rounded to infinity: half a spacing below it. -/
abbrev overflowUnits : ℕ := (2 ^ 54 - 1) * 2 ^ 2044

theorem overflowUnits_lt : overflowUnits < 2 ^ 2098 := by
  have hlt (e k : ℕ) (h : k = 54 + e) : (2 ^ 54 - 1) * 2 ^ e < 2 ^ k := by
    rw [h, Nat.pow_add]
    exact Nat.mul_lt_mul_of_pos_right (by decide) (Nat.two_pow_pos e)
  exact hlt 2044 2098 rfl

theorem nearestCode_overflow : nearestCode overflowUnits 1 = infinityCode := by decide +kernel

theorem nearestCode_lt_infinity (hden : 0 < den) (h : num < overflowUnits * den) :
    nearestCode num den < infinityCode := by
  have hquotient : num / den < 2 ^ 2098 :=
    ((Nat.div_lt_iff_lt_mul hden).2 h).trans overflowUnits_lt
  have hdoublings : doublings (num / den) ≤ 2045 := doublings_le_of_lt hquotient (by decide)
  have hupper := nearestEven_binade_le num hden
  unfold nearestCode
  simp only
  rcases Nat.eq_or_lt_of_le hdoublings with heq | hlt
  · -- In the last binade the rounded integer stays below the first one of the next.
    have hshift (e : ℕ) : den <<< (e + 1) = 2 * (2 ^ e * den) := by
      rw [Nat.shiftLeft_eq]
      ring
    have hunit : den <<< 2045 = 2 * (2 ^ 2044 * den) := hshift 2044
    have hover : overflowUnits * den = (2 ^ 54 - 1) * (2 ^ 2044 * den) := Nat.mul_assoc _ _ _
    have hlt : nearestEven num (den <<< 2045) < 2 ^ 53 := by
      apply nearestEven_lt (Nat.shiftLeft_pos_iff.2 hden)
      rw [hover] at h
      rw [hunit]
      generalize 2 ^ 2044 * den = unit at *
      omega
    rw [heq]
    unfold infinityCode binadeSize
    omega
  · unfold infinityCode binadeSize
    omega

/-- A quotient overflows from half a spacing below infinity on. -/
theorem isInfinite_nearest_iff (hden : 0 < den) :
    (nearest num den).isInfinite = true ↔ overflowUnits * den ≤ num := by
  have hcode : (nearest num den).isInfinite = true ↔ infinityCode ≤ nearestCode num den := by
    rw [isInfinite, beq_iff_eq, val_nearest]
    exact min_eq_right_iff
  rw [hcode]
  constructor
  · intro h
    by_contra hlt
    exact absurd h (Nat.not_le.2 (nearestCode_lt_infinity hden (Nat.not_le.1 hlt)))
  · intro h
    rw [← nearestCode_overflow]
    exact nearestCode_mono Nat.one_pos hden (by rwa [Nat.mul_one])

end Magnitude
end ScanLatency.Number
