import ScanLatency.Statistics

/-! Ranks of percentiles. Percentages and counts carry no minus sign, and neither does a rank
computed from them; the entry at such a rank exists. -/
namespace ScanLatency
namespace Number.Binary64

def isUnsigned : Binary64 → Bool
  | .nan => true
  | .signed negative _ => !negative

theorem isUnsigned_nan : nan.isUnsigned := rfl

theorem isUnsigned_signed (m : Magnitude) : (signed false m).isUnsigned := rfl

theorem isUnsigned_ofNat (n : Nat) : (ofNat n).isUnsigned := isUnsigned_signed _

theorem isUnsigned_mul {x y : Binary64} (hx : x.isUnsigned) (hy : y.isUnsigned) :
    (x.mul y).isUnsigned := by
  unfold mul
  split
  next => exact isUnsigned_nan
  next => exact isUnsigned_nan
  next s m t n =>
    have hs : s = false := by simpa [isUnsigned] using hx
    have ht : t = false := by simpa [isUnsigned] using hy
    subst hs ht
    split
    next =>
      split
      next => exact isUnsigned_nan
      next => exact isUnsigned_signed _
    next => exact isUnsigned_signed _

theorem ceilWord_signed (m : Magnitude) : (signed false m).ceilWord =
    if m.isInfinite then greatestWord
    else min greatestWord (((m.units + (unitsPerOne - 1)) >>> 1074 : Nat) : Int) := by
  simp only [ceilWord, Bool.false_eq_true, if_false]

theorem natWord_nonneg (n : Nat) : 0 ≤ min greatestWord (n : Int) :=
  Int.le_min.2 ⟨by decide, Int.natCast_nonneg n⟩

/-- The ceiling of an unsigned number is a natural number. -/
theorem ceilWord_nonneg {x : Binary64} (hx : x.isUnsigned) : 0 ≤ x.ceilWord := by
  cases x with
  | nan => exact Int.le_refl 0
  | signed negative m =>
    have hpositive : negative = false := by simpa [isUnsigned] using hx
    subst hpositive
    rw [ceilWord_signed]
    split
    next => decide
    next => exact natWord_nonneg _

end Number.Binary64

namespace Statistics
open Number

theorem rank_nonneg {p : Binary64} (hp : (p.div 100).isUnsigned) (n : Nat) : 0 ≤ rank p n :=
  Binary64.ceilWord_nonneg (Binary64.isUnsigned_mul hp (Binary64.isUnsigned_ofNat n))

/-- The position that a percentage asks for, held within the array. -/
def position (p : Binary64) (n : Nat) : Nat := min (rank p n - 1).toNat (n - 1)

theorem position_lt (p : Binary64) {n : Nat} (hn : 0 < n) : position p n < n := by
  unfold position
  omega

variable {sorted : Array UInt64} {p : Binary64}

/-- A percentile is the entry at its position, unless there is a choice of entries and the rank is
the least word. -/
theorem percentile_eq (hpos : 0 < sorted.size) (p : Binary64) : percentile sorted p =
    if 1 < sorted.size ∧ rank p sorted.size = Binary64.leastWord then .error .subtractionOverflow
    else .ok (sorted.getD (position p sorted.size) 0) := by
  unfold percentile
  split
  next hsize => omega
  next hsize =>
    have hposition : position p sorted.size = 0 := by
      unfold position
      omega
    rw [hposition, if_neg fun h => absurd hsize (Nat.ne_of_gt h.1)]
  next hone =>
    have hseveral : 1 < sorted.size := Nat.lt_of_le_of_ne hpos (Ne.symm hone)
    simp only [hseveral, true_and]
    rfl

theorem eq_of_percentile (hpos : 0 < sorted.size) {entry : UInt64}
    (h : percentile sorted p = .ok entry) : entry = sorted.getD (position p sorted.size) 0 := by
  rw [percentile_eq hpos] at h
  split at h
  next => cases h
  next =>
    cases h
    rfl

/-- The percentile at a rank, held within the list. -/
theorem percentile_of_rank {k : Nat} (hpos : 0 < sorted.size) (h : rank p sorted.size = k) :
    percentile sorted p = .ok (sorted.getD (min (k - 1) (sorted.size - 1)) 0) := by
  have hleast : rank p sorted.size ≠ Binary64.leastWord := by
    unfold Binary64.leastWord
    omega
  have hindex : ((k : Int) - 1).toNat = k - 1 := by omega
  rw [percentile_eq hpos, if_neg fun hmissing => hleast hmissing.2, position, h, hindex]

/-- The percentile of an unsigned percentage exists, whatever the list. -/
theorem percentile_ok (sorted : Array UInt64) (hp : (p.div 100).isUnsigned) :
    ∃ entry, percentile sorted p = .ok entry := by
  rcases Nat.eq_zero_or_pos sorted.size with hempty | hpos
  · exact ⟨0, by simp only [percentile, hempty]⟩
  · obtain ⟨k, hk⟩ := Int.eq_ofNat_of_zero_le (rank_nonneg hp sorted.size)
    exact ⟨_, percentile_of_rank hpos hk⟩

/-- Durations whose sum fits a word have statistics. -/
theorem ofDurations_ok {durations : List UInt64} (h : Word.exactSum durations < wordCount) :
    ∃ statistics, ofDurations durations = .ok statistics := by
  unfold ofDurations
  split
  · exact ⟨none, rfl⟩
  · obtain ⟨total, htotal⟩ := Word.sum_ok h
    obtain ⟨p95, hp95⟩ := percentile_ok (ascending durations) (p := 95) (by decide +kernel)
    refine ⟨_, bind_eq_ok_iff.2 ⟨total, htotal, bind_eq_ok_iff.2 ⟨p95, hp95, rfl⟩⟩⟩

end Statistics
end ScanLatency
