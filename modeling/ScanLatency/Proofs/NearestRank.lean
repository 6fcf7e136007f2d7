import Mathlib.Algebra.Order.Floor.Div
import ScanLatency.Proofs.Percentile
import ScanLatency.Proofs.Spacing

/-! The nearest rank of a percentage among samples. The rank is computed in rounded arithmetic: a
hundredth of the percentage, times the number of samples, and the ceiling of that. For up to
`2 ^ 40` samples both roundings together are harmless wherever the exact product is no integer. At
an integer the result is that integer, unless the hundredth was rounded up so far that its product
passes the midpoint above; then the rank is one too large. -/
namespace ScanLatency
namespace Number.Binary64

theorem ceil_shiftRight {a k e : ℕ} (hle : a ≤ k * 2 ^ e) (hlt : ∀ j < k, j * 2 ^ e < a) :
    (a + (Nat.pow 2 e - 1)) >>> e = k := by
  have hpos := Nat.two_pow_pos e
  rw [Nat.shiftRight_eq_div_pow]
  show (a + (2 ^ e - 1)) / 2 ^ e = k
  apply Nat.le_antisymm
  · apply Nat.le_of_lt_succ
    apply (Nat.div_lt_iff_lt_mul hpos).2
    rw [Nat.succ_mul]
    omega
  · apply (Nat.le_div_iff_mul_le hpos).2
    cases k with
    | zero => omega
    | succ j =>
      have := hlt j (Nat.lt_succ_self j)
      rw [Nat.succ_mul]
      omega

/-- The ceiling of a number above all integers below `k`, but not above `k`. -/
theorem ceilWord_eq {m : Magnitude} {k : ℕ} (hk : k < 2 ^ 63) (hle : m.units ≤ k * 2 ^ 1074)
    (hlt : ∀ j < k, j * 2 ^ 1074 < m.units) : (signed false m).ceilWord = k := by
  have hfinite : m.isInfinite = false := Magnitude.isInfinite_of_lt (Nat.lt_of_le_of_lt hle
    ((Magnitude.mul_lt_overflowUnits hk.le (by decide)).trans Magnitude.overflowUnits_lt))
  rw [ceilWord_signed, hfinite, if_neg Bool.false_ne_true, ceil_shiftRight hle hlt]
  exact Int.min_eq_right (by unfold greatestWord; omega)

end Number.Binary64

namespace Statistics
open Number

/-- The rank of a percentage among `n` samples, in exact arithmetic. -/
def nearestRank (p n : ℕ) : ℕ := p * n ⌈/⌉ 100

def hundredth (p : ℕ) : Magnitude := (Magnitude.ofNat p).quotient (.ofNat 100)

def rankUnits (p n : ℕ) : ℕ := (hundredth p).units * n

/-- The rounded hundredth takes the rank past the midpoint above the exact one. -/
def Overshoots (p n : ℕ) : Prop := Magnitude.midpoint (nearestRank p n) < rankUnits p n

instance (p n : ℕ) : Decidable (Overshoots p n) := inferInstanceAs (Decidable (_ < _))

variable {p n j : ℕ}

/-- The product is off by at most one part in `2 ^ 53`. -/
theorem rankUnits_error (hp : p ≤ 100) (n : ℕ) :
    2 ^ 53 * (100 * rankUnits p n) ≤ 2 ^ 53 * (p * n * 2 ^ 1074) + p * n * 2 ^ 1074 ∧
      2 ^ 53 * (p * n * 2 ^ 1074) ≤ 2 ^ 53 * (100 * rankUnits p n) + p * n * 2 ^ 1074 := by
  obtain ⟨hupper, hlower⟩ :=
    Magnitude.quotient_ofNat_error (a := p) (b := 100) (by omega) (by decide) (by decide)
  unfold rankUnits hundredth
  generalize 2 ^ 1074 = unit at *
  generalize ((Magnitude.ofNat p).quotient (.ofNat 100)).units = rounded at *
  constructor
  · calc
      2 ^ 53 * (100 * (rounded * n)) = 2 ^ 53 * (rounded * 100) * n := by ring
      _ ≤ (2 ^ 53 * (p * unit) + p * unit) * n := Nat.mul_le_mul_right n hupper
      _ = 2 ^ 53 * (p * n * unit) + p * n * unit := by ring
  · calc
      2 ^ 53 * (p * n * unit) = 2 ^ 53 * (p * unit) * n := by ring
      _ ≤ (2 ^ 53 * (rounded * 100) + p * unit) * n := Nat.mul_le_mul_right n hlower
      _ = 2 ^ 53 * (100 * (rounded * n)) + p * n * unit := by ring

/-! ### The computed rank -/

/-- What a percentage of `n` samples exceeds, its product exceeds, and the midpoint above it too. -/
theorem midpoint_lt_rankUnits (hp : p ≤ 100) (hn : n ≤ 2 ^ 40) (h : 100 * j < p * n) :
    Magnitude.midpoint j < rankUnits p n := by
  have hlower := (rankUnits_error hp n).2
  have hproduct : p * n ≤ 100 * 2 ^ 40 := Nat.mul_le_mul hp hn
  have hlog : j.log2 ≤ 40 := by
    rcases Nat.eq_zero_or_pos j with rfl | hpos
    · decide
    · exact ((Nat.log2_lt (Nat.ne_of_gt hpos)).2 (by omega : j < 2 ^ 40)).le
  have hhalf : 2 ^ (j.log2 + 1021) * 2 ^ 13 ≤ 2 ^ 1074 := by
    have hpow (e k : ℕ) (h : e ≤ k) : 2 ^ e ≤ 2 ^ k := Nat.pow_le_pow_right Nat.two_pos h
    rw [← Nat.pow_add]
    exact hpow _ 1074 (by omega)
  have hpos : 0 < 2 ^ 1074 := pow_pos Nat.two_pos _
  have hexact : (100 * j + 1) * 2 ^ 1074 ≤ p * n * 2 ^ 1074 := Nat.mul_le_mul_right _ h
  have hrelative : p * n * 2 ^ 1074 ≤ 100 * 2 ^ 40 * 2 ^ 1074 := Nat.mul_le_mul_right _ hproduct
  unfold Magnitude.midpoint
  generalize 2 ^ (j.log2 + 1021) = half at *
  generalize 2 ^ 1074 = unit at *
  generalize p * n * unit = product at *
  rw [Nat.add_mul, Nat.mul_assoc] at hexact
  generalize j * unit = below at *
  omega

/-- What a percentage of `n` samples falls short of, its product does not exceed. -/
theorem rankUnits_le (hp : p ≤ 100) (hn : n ≤ 2 ^ 40) (h : p * n < 100 * j) :
    rankUnits p n ≤ j * 2 ^ 1074 := by
  have hupper := (rankUnits_error hp n).1
  have hproduct : p * n ≤ 100 * 2 ^ 40 := Nat.mul_le_mul hp hn
  have hexact : (p * n + 1) * 2 ^ 1074 ≤ 100 * j * 2 ^ 1074 := Nat.mul_le_mul_right _ h
  have hrelative : p * n * 2 ^ 1074 ≤ 100 * 2 ^ 40 * 2 ^ 1074 := Nat.mul_le_mul_right _ hproduct
  generalize 2 ^ 1074 = unit at *
  rw [Nat.succ_mul, Nat.mul_assoc 100] at hexact
  generalize p * n * unit = product at *
  generalize j * unit = above at *
  omega

theorem nearestRank_le_iff {k : ℕ} : nearestRank p n ≤ k ↔ p * n ≤ 100 * k :=
  ceilDiv_le_iff_le_mul (by decide)

/-- Only a rank that is exact to begin with overshoots. -/
theorem Overshoots.mul_eq (hp : p ≤ 100) (hn : n ≤ 2 ^ 40) (h : Overshoots p n) :
    p * n = 100 * nearestRank p n := by
  apply Nat.le_antisymm (nearestRank_le_iff.1 (Nat.le_refl _))
  by_contra hne
  have hlt := Nat.lt_of_lt_of_le h (rankUnits_le hp hn (Nat.not_le.1 hne))
  exact absurd hlt (Nat.not_lt.2 (Nat.le_add_right _ _))

theorem hundred_eq : (100 : Binary64) = .signed false (.ofNat 100) := rfl

theorem isInfinite_hundred : (Magnitude.ofNat 100).isInfinite = false :=
  Magnitude.isInfinite_ofNat (k := 7) (by decide) (by decide)

theorem val_hundred_ne_zero : (Magnitude.ofNat 100).val ≠ 0 :=
  Magnitude.val_ofNat_ne_zero (by decide)

/-- The computed rank is the ceiling of the rounded product. -/
theorem rank_eq_ceilWord (hp : p ≤ 100) (hn : n ≤ 2 ^ 53) : rank (.ofNat p) n =
    (Binary64.signed false (.nearest (rankUnits p n) 1)).ceilWord := by
  have hpercentage := Magnitude.isInfinite_ofNat (a := p) (k := 40) (by decide) (by omega)
  have hone : 2 ^ (0 + 1074) ≤ (Magnitude.ofNat 100).units :=
    Magnitude.two_pow_le_units_ofNat (by decide) (by decide)
  have hquotient : ((Magnitude.ofNat p).quotient (.ofNat 100)).isInfinite = false :=
    Magnitude.isInfinite_of_units_le (k := 1114) (by decide) (Magnitude.units_quotient_le_two_pow
      (Magnitude.units_ofNat_le_two_pow (k := 40) (by omega)) hone (by decide))
  rw [rank, hundred_eq, Binary64.ofNat_eq, Binary64.ofNat_eq,
    Binary64.signed_div hpercentage isInfinite_hundred val_hundred_ne_zero,
    Binary64.signed_mul hquotient (Magnitude.isInfinite_ofNat (by decide) hn), Magnitude.product,
    Magnitude.units_ofNat hn, ← Nat.mul_assoc, Magnitude.nearest_mul_unit]
  rfl

/-- The computed rank is the exact one, or the next one where it overshoots. -/
theorem rank_ofNat (hp : p ≤ 100) (hn : n ≤ 2 ^ 40) :
    rank (.ofNat p) n = (nearestRank p n + if Overshoots p n then 1 else 0 : ℕ) := by
  have hrank : nearestRank p n ≤ 2 ^ 40 := nearestRank_le_iff.2 (Nat.mul_le_mul hp hn)
  have hbelow : ∀ j < nearestRank p n, Magnitude.midpoint j < rankUnits p n := by
    intro j hj
    apply midpoint_lt_rankUnits hp hn
    exact Nat.not_le.1 fun hle => absurd (nearestRank_le_iff.2 hle) (Nat.not_le.2 hj)
  rw [rank_eq_ceilWord hp (hn.trans (by decide))]
  by_cases hover : Overshoots p n
  case pos =>
    rw [if_pos hover]
    apply Binary64.ceilWord_eq (by omega)
    · have hexact := hover.mul_eq hp hn
      apply (Magnitude.units_nearest_le_iff (Nat.succ_pos _) (by omega)).2
      exact (rankUnits_le hp hn (by omega)).trans (Nat.le_add_right _ _)
    · intro j hj
      apply Magnitude.lt_units_nearest (by omega)
      rcases Nat.eq_or_lt_of_le (Nat.le_of_lt_succ hj) with rfl | hlt
      · exact hover
      · exact hbelow j hlt
  case neg =>
    rw [if_neg hover]
    apply Binary64.ceilWord_eq (by omega)
    · rcases Nat.eq_zero_or_pos (nearestRank p n) with hzero | hpos
      · have hnone : p * n = 0 := Nat.le_zero.1 (nearestRank_le_iff.1 hzero.le)
        have hproduct := (rankUnits_error hp n).1
        rw [hnone, Nat.zero_mul] at hproduct
        have hunits : rankUnits p n = 0 := by omega
        rw [hunits, Magnitude.units_eq_zero_iff.2 (Magnitude.nearest_zero Nat.one_pos)]
        exact Nat.zero_le _
      · exact (Magnitude.units_nearest_le_iff hpos (by omega)).2 (Nat.not_lt.1 hover)
    · intro j hj
      exact Magnitude.lt_units_nearest (by omega) (hbelow j hj)

/-! ### Percentages that overshoot -/

/-- Zero percent of any number are zero. -/
theorem Overshoots.pos (h : Overshoots p n) : 0 < p := by
  apply Nat.pos_of_ne_zero
  rintro rfl
  have hupper := (rankUnits_error (Nat.zero_le 100) n).1
  have hnone : rankUnits 0 n ≤ 0 := by omega
  exact absurd (Nat.lt_of_lt_of_le h hnone) (Nat.not_lt_zero _)

/-- Only a hundredth that is too large by more than one part in `2 ^ 54` overshoots. -/
theorem Overshoots.rounded_up (hp : p ≤ 100) (hn : n ≤ 2 ^ 40) (h : Overshoots p n) :
    p * (2 ^ 1074 + 2 ^ 1020) < 100 * (hundredth p).units := by
  have hexact := h.mul_eq hp hn
  have hpos := h.pos
  unfold Overshoots Magnitude.midpoint at h
  generalize nearestRank p n = k at h hexact
  -- Half a spacing is at least one part in `2 ^ 54` of the number below it.
  have hhalf : k * 2 ^ 1020 ≤ 2 ^ (k.log2 + 1021) := by
    have hscale (e d : ℕ) (hd : d = k.log2 + 1 + e) : k * 2 ^ e ≤ 2 ^ d := by
      rw [hd, Nat.pow_add]
      exact Nat.mul_le_mul_right _ Nat.lt_log2_self.le
    exact hscale 1020 _ (by omega)
  unfold rankUnits at h
  generalize 2 ^ (k.log2 + 1021) = half at *
  generalize 2 ^ 1074 = unit at *
  generalize 2 ^ 1020 = part at *
  apply Nat.lt_of_mul_lt_mul_left (a := k)
  calc
    k * (p * (unit + part)) = p * (k * unit + k * part) := by ring
    _ ≤ p * (k * unit + half) := Nat.mul_le_mul_left p (Nat.add_le_add_left hhalf _)
    _ < p * ((hundredth p).units * n) := Nat.mul_lt_mul_of_pos_left h hpos
    _ = p * n * (hundredth p).units := by ring
    _ = k * (100 * (hundredth p).units) := by
      rw [hexact]
      ring

/-- A hundredth is rounded as if there were only 60 places behind the point. -/
theorem units_hundredth (hpos : 0 < p) (hp : p ≤ 100) :
    (hundredth p).units =
      Magnitude.unitsAt (Magnitude.nearestCode (p * 2 ^ 60) 100) * 2 ^ 1014 := by
  have hscale (e : ℕ) : Magnitude.unitsAt (Magnitude.nearestCode (p * 2 ^ (60 + e)) 100) =
      Magnitude.unitsAt (Magnitude.nearestCode (p * 2 ^ 60) 100) * 2 ^ e := by
    rw [Nat.pow_add, ← Nat.mul_assoc]
    exact Magnitude.unitsAt_nearestCode_mul_two_pow (by decide) (by omega) e
  rw [hundredth, Magnitude.units_quotient_ofNat (by omega) (by decide) (by decide)]
  exact hscale 1014

/-- The percentages whose hundredths are rounded up that far. -/
def overshooting : List ℕ := [7, 14, 17, 27, 28, 34, 54, 55, 56, 67, 68, 81]

theorem Overshoots.mem_overshooting (hp : p ≤ 100) (hn : n ≤ 2 ^ 40) (h : Overshoots p n) :
    p ∈ overshooting := by
  have hall : ∀ p < 101, p * (2 ^ 60 + 2 ^ 6) <
      100 * Magnitude.unitsAt (Magnitude.nearestCode (p * 2 ^ 60) 100) → p ∈ overshooting := by
    decide +kernel
  have hrounded := h.rounded_up hp hn
  rw [units_hundredth h.pos hp] at hrounded
  generalize hunits : Magnitude.unitsAt (Magnitude.nearestCode (p * 2 ^ 60) 100) = u at hrounded
  have hscale (e a b : ℕ) (ha : a = 60 + e) (hb : b = 6 + e)
      (hrounded : p * (2 ^ a + 2 ^ b) < 100 * (u * 2 ^ e)) : p * (2 ^ 60 + 2 ^ 6) < 100 * u := by
    apply Nat.lt_of_mul_lt_mul_right (a := 2 ^ e)
    calc
      p * (2 ^ 60 + 2 ^ 6) * 2 ^ e = p * (2 ^ a + 2 ^ b) := by rw [ha, hb]; ring
      _ < 100 * (u * 2 ^ e) := hrounded
      _ = 100 * u * 2 ^ e := by ring
  apply hall p (Nat.lt_succ_of_le hp)
  rw [hunits]
  exact hscale 1014 1074 1020 rfl rfl hrounded

/-- Whether a rank overshoots is a matter of the first 60 places. -/
theorem overshoots_iff (hpos : 0 < p) (hp : p ≤ 100) : Overshoots p n ↔
    Magnitude.midpoint (nearestRank p n) <
      Magnitude.unitsAt (Magnitude.nearestCode (p * 2 ^ 60) 100) * 2 ^ 1014 * n := by
  rw [Overshoots, rankUnits, units_hundredth hpos hp]

/-- Twelve percentages overshoot, each of them for some number of samples. -/
theorem exists_overshoots_iff (hp : p ≤ 100) :
    (∃ n ≤ 2 ^ 40, Overshoots p n) ↔ p ∈ overshooting := by
  constructor
  · rintro ⟨n, hn, h⟩
    exact h.mem_overshooting hp hn
  · have hfound : ∀ p ∈ overshooting, 0 < p ∧ ∃ n ∈ [25, 50, 75, 100, 150, 300, 450, 900, 1500],
        Magnitude.midpoint (nearestRank p n) <
          Magnitude.unitsAt (Magnitude.nearestCode (p * 2 ^ 60) 100) * 2 ^ 1014 * n := by
      decide +kernel
    have hsmall : ∀ n ∈ [25, 50, 75, 100, 150, 300, 450, 900, 1500], n ≤ 2 ^ 40 := by decide
    intro h
    obtain ⟨hpos, n, hmem, hover⟩ := hfound p h
    exact ⟨n, hsmall n hmem, (overshoots_iff hpos hp).2 hover⟩

/-! ### Percentiles -/

variable {sorted : Array UInt64}

/-- The percentile is the entry at the nearest rank, or the next one where the rank overshoots. -/
theorem percentile_ofNat (hp : p ≤ 100) (hpos : 0 < sorted.size) (hsize : sorted.size ≤ 2 ^ 40) :
    percentile sorted (.ofNat p) = .ok (sorted.getD (min (nearestRank p sorted.size +
      (if Overshoots p sorted.size then 1 else 0) - 1) (sorted.size - 1)) 0) :=
  percentile_of_rank hpos (rank_ofNat hp hsize)

/-- Among a hundred samples the seventh percentile is the eighth sample. -/
theorem percentile_ofNat_seven :
    percentile ((List.range' 1 100).map UInt64.ofNat).toArray (.ofNat 7) = .ok 8 :=
  (percentile_ofNat (by decide) (by decide) (by decide)).trans (by decide +kernel)

/-- The exact nearest rank is not always taken. -/
theorem not_forall_percentile_nearestRank :
    ¬∀ (sorted : Array UInt64) (p : ℕ), p ≤ 100 → 0 < sorted.size → sorted.size ≤ 2 ^ 40 →
      sorted.toList.Pairwise (· ≤ ·) → percentile sorted (.ofNat p) =
        .ok (sorted.getD (min (sorted.size - 1) (nearestRank p sorted.size - 1)) 0) := by
  intro h
  have hseventh := h ((List.range' 1 100).map UInt64.ofNat).toArray 7 (by decide) (by decide)
    (by decide) (by decide +kernel)
  exact absurd hseventh (by decide +kernel)

/-- All other percentages have the exact nearest rank. -/
theorem percentile_eq_nearestRank (hp : p ≤ 100) (hpos : 0 < sorted.size)
    (hsize : sorted.size ≤ 2 ^ 40) (hother : p ∉ overshooting) :
    percentile sorted (.ofNat p) =
      .ok (sorted.getD (min (nearestRank p sorted.size - 1) (sorted.size - 1)) 0) := by
  apply percentile_of_rank hpos
  rw [rank_ofNat hp hsize, if_neg fun h => hother (h.mem_overshooting hp hsize), Nat.add_zero]

end Statistics
end ScanLatency
