import ScanLatency.Proofs.PercentileOrder

/-! The summary of a list of durations. Rounding keeps the order of the durations, the middle of two
of them and the mean of all stay between them after rounding, and the 95th percentile stands in the
upper half of the list; so the summary is in the order in which an exact one would be. -/
namespace ScanLatency

/-! ### Sums and their parts -/

namespace Word

variable {words : List UInt64} {bound : ℕ}

theorem mul_length_le_exactSum (h : ∀ w ∈ words, bound ≤ w.toNat) :
    bound * words.length ≤ exactSum words := by
  induction words with
  | nil => exact Nat.le_refl 0
  | cons w words ih =>
    obtain ⟨hw, hwords⟩ := List.forall_mem_cons.1 h
    have hsum := ih hwords
    rw [exactSum_cons, List.length_cons, Nat.mul_succ]
    omega

theorem exactSum_le_mul_length (h : ∀ w ∈ words, w.toNat ≤ bound) :
    exactSum words ≤ bound * words.length := by
  induction words with
  | nil => exact Nat.le_refl 0
  | cons w words ih =>
    obtain ⟨hw, hwords⟩ := List.forall_mem_cons.1 h
    have hsum := ih hwords
    rw [exactSum_cons, List.length_cons, Nat.mul_succ]
    omega

theorem toNat_le_exactSum {w : UInt64} (h : w ∈ words) : w.toNat ≤ exactSum words := by
  induction words with
  | nil => cases h
  | cons v words ih =>
    rw [exactSum_cons]
    rcases List.mem_cons.1 h with rfl | h
    · exact Nat.le_add_right _ _
    · exact (ih h).trans (Nat.le_add_left _ _)

end Word

namespace Statistics
open Number

variable {durations : List UInt64} {sorted : Array UInt64} {n : ℕ}

/-! ### Ascending durations -/

theorem perm_ascending (durations : List UInt64) : (ascending durations).toList.Perm durations :=
  List.mergeSort_perm durations _

theorem pairwise_ascending (durations : List UInt64) :
    (ascending durations).toList.Pairwise (· ≤ ·) := by
  have htrans (a b c : UInt64) (hab : decide (a ≤ b) = true) (hbc : decide (b ≤ c) = true) :
      decide (a ≤ c) = true :=
    decide_eq_true (UInt64.le_trans (of_decide_eq_true hab) (of_decide_eq_true hbc))
  have htotal (a b : UInt64) : (decide (a ≤ b) || decide (b ≤ a)) = true := by
    rcases UInt64.le_total a b with h | h <;> simp [h]
  exact (List.pairwise_mergeSort htrans htotal durations).imp of_decide_eq_true

theorem size_ascending (durations : List UInt64) : (ascending durations).size = durations.length :=
  (perm_ascending durations).length_eq

theorem mem_ascending {x : UInt64} : x ∈ ascending durations ↔ x ∈ durations := by
  rw [Array.mem_def]
  exact (perm_ascending durations).mem_iff

theorem countP_ascending (P : UInt64 → Bool) (durations : List UInt64) :
    (ascending durations).toList.countP P = durations.countP P :=
  (perm_ascending durations).countP_eq P

theorem size_ascending_pos (hne : durations ≠ []) : 0 < (ascending durations).size := by
  rw [size_ascending]
  exact List.length_pos_of_ne_nil hne

/-- The summary of durations that are there and whose sum fits a word. -/
theorem ofDurations_eq (hne : durations ≠ []) (hsum : Word.exactSum durations < wordCount) :
    ∃ total : UInt64, total.toNat = Word.exactSum durations ∧ ofDurations durations = .ok (some {
      count := durations.length
      meanUs := nsToUs (ofWord total / .ofNat durations.length)
      medianUs := nsToUs (median (ascending durations))
      minUs := nsToUs (ofWord ((ascending durations).getD 0 0))
      maxUs := nsToUs (ofWord ((ascending durations).getD (durations.length - 1) 0))
      p95Us := nsToUs (ofWord ((ascending durations).getD (position 95 durations.length) 0))
      totalMs := ofWord total / 1000000
      totalNs := total }) := by
  obtain ⟨total, htotal⟩ := Word.sum_ok hsum
  have hnonneg : (0 : Binary64) ≤ 95 := Binary64.ofNat_le_ofNat (Nat.zero_le 95)
  obtain ⟨p95, hp95⟩ := percentile_of_nonneg (ascending durations) hnonneg
  have hentry := eq_of_percentile (size_ascending_pos hne) hp95
  rw [size_ascending] at hentry
  refine ⟨total, Word.toNat_sum htotal, ?_⟩
  rw [ofDurations, if_neg (by simpa using hne), ← hentry, ← size_ascending]
  exact bind_eq_ok_iff.2 ⟨total, htotal, bind_eq_ok_iff.2 ⟨p95, hp95, rfl⟩⟩

/-! ### Medians -/

theorem units_word_le (w : UInt64) : (Magnitude.ofNat w.toNat).units ≤ 2 ^ 2096 := by
  have hpow (k e : ℕ) (h : k ≤ e) : 2 ^ k ≤ 2 ^ e := Nat.pow_le_pow_right Nat.two_pos h
  exact (Magnitude.units_ofNat_le_two_pow (UInt64.toNat_lt w).le).trans
    (hpow (64 + 1074) 2096 (by decide))

/-- Entries of an ascending array are rounded to numbers in the order of their positions. -/
theorem magnitude_mono (hsorted : sorted.toList.Pairwise (· ≤ ·)) {i j : ℕ} (hij : i ≤ j)
    (hj : j < sorted.size) : (Magnitude.ofNat (sorted.getD i 0).toNat).val ≤
      (Magnitude.ofNat (sorted.getD j 0).toNat).val :=
  Magnitude.ofNat_mono (UInt64.le_iff_toNat_le.1 (getD_mono hsorted hij hj))

/-- The median lies between the two entries in the middle, which are one entry if their number is
odd. -/
theorem median_between (hsorted : sorted.toList.Pairwise (· ≤ ·)) (hpos : 0 < sorted.size) :
    ∃ m, median sorted = .signed false m ∧
      (Magnitude.ofNat (sorted.getD ((sorted.size - 1) / 2) 0).toNat).val ≤ m.val ∧
      m.val ≤ (Magnitude.ofNat (sorted.getD (sorted.size / 2) 0).toNat).val := by
  unfold median
  by_cases hodd : sorted.size % 2 = 1
  · have hmiddle : (sorted.size - 1) / 2 = sorted.size / 2 := by omega
    rw [if_pos hodd, hmiddle]
    exact ⟨_, rfl, Nat.le_refl _, Nat.le_refl _⟩
  · have hbefore : sorted.size / 2 - 1 = (sorted.size - 1) / 2 := by omega
    have htwo : (2 : Binary64) = .signed false (.ofNat 2) := rfl
    have hlast := magnitude_mono hsorted (i := (sorted.size - 1) / 2) (j := sorted.size / 2)
      (by omega) (by omega)
    have hbetween := Magnitude.half_sum_between hlast (units_word_le _)
    have hfinite := Magnitude.isInfinite_of_units_le (k := 2097) (by decide)
      (Magnitude.units_sum_le_two_pow (units_word_le (sorted.getD ((sorted.size - 1) / 2) 0))
        (units_word_le (sorted.getD (sorted.size / 2) 0)))
    have htwoFinite := Magnitude.isInfinite_ofNat (k := 1) (by decide) (Nat.le_refl 2)
    rw [if_neg hodd, hbefore, ofWord, ofWord, Binary64.ofNat_eq, Binary64.ofNat_eq,
      Binary64.signed_add, htwo,
      Binary64.signed_div hfinite htwoFinite (Magnitude.val_ofNat_ne_zero Nat.two_pos)]
    exact ⟨_, rfl, hbetween⟩

/-! ### The 95th percentile stands in the upper half -/

theorem midpoint_half_lt_rankUnits (hn : 2 ≤ n) : Magnitude.midpoint (n / 2) < rankUnits 95 n := by
  have hlower := (rankUnits_error (p := 95) (by decide) n).2
  have hhalf : 0 < n / 2 := by omega
  -- Half a spacing is far less than half of the number.
  have hspacing (e : ℕ) : 2 * 2 ^ ((n / 2).log2 + e) ≤ n / 2 * 2 ^ (e + 53) := calc
    2 * 2 ^ ((n / 2).log2 + e) = 2 ^ (n / 2).log2 * 2 ^ (e + 1) := by ring
    _ ≤ n / 2 * 2 ^ (e + 1) := Nat.mul_le_mul_right _ (Nat.log2_self_le (Nat.ne_of_gt hhalf))
    _ ≤ n / 2 * 2 ^ (e + 53) :=
      Nat.mul_le_mul_left _ (Nat.pow_le_pow_right Nat.two_pos (by omega))
  have hsmall : 2 * 2 ^ ((n / 2).log2 + 1021) ≤ n / 2 * 2 ^ 1074 := hspacing 1021
  have hpos : 0 < 2 ^ 1074 := pow_pos Nat.two_pos _
  have hdouble : 2 * (n / 2) * 2 ^ 1074 ≤ n * 2 ^ 1074 :=
    Nat.mul_le_mul_right _ (Nat.mul_div_le n 2)
  unfold Magnitude.midpoint
  generalize 2 ^ ((n / 2).log2 + 1021) = half at *
  generalize 2 ^ 1074 = unit at *
  rw [Nat.mul_assoc] at hdouble hlower
  have hproduct : 0 < n / 2 * unit := Nat.mul_pos hhalf hpos
  generalize n * unit = product at *
  generalize n / 2 * unit = middle at *
  omega

theorem half_le_position (hpos : 0 < n) (hn : n < 2 ^ 53) : n / 2 ≤ position 95 n := by
  rcases Nat.lt_or_ge n 2 with hone | hseveral
  · omega
  · have hbelow := Magnitude.lt_units_nearest (by omega) (midpoint_half_lt_rankUnits hseveral)
    have hrank := Binary64.lt_ceilWord (by omega) hbelow
    rw [← rank_eq_ceilWord (by decide) hn.le] at hrank
    have hninetyFive : (95 : Binary64) = .ofNat 95 := rfl
    rw [position, hninetyFive]
    omega

/-! ### Means -/

/-- A mean lies between all bounds of its parts, as long as the sum and the count are exact. -/
theorem mean_between {least greatest total : ℕ} (hpos : 0 < n) (hn : n ≤ 2 ^ 53)
    (htotal : total ≤ 2 ^ 53) (hgreatest : greatest ≤ 2 ^ 53) (hlower : least * n ≤ total)
    (hupper : total ≤ greatest * n) :
    (Magnitude.ofNat least).val ≤ ((Magnitude.ofNat total).quotient (.ofNat n)).val ∧
      ((Magnitude.ofNat total).quotient (.ofNat n)).val ≤ (Magnitude.ofNat greatest).val := by
  have hleast : least ≤ 2 ^ 53 := (Nat.le_mul_of_pos_right least hpos).trans (hlower.trans htotal)
  have hcount := Magnitude.units_pos (Magnitude.val_ofNat_ne_zero hpos)
  have hscale (a e : ℕ) : a * 2 ^ e * (n * 2 ^ e) = (a * n * 2 ^ e) <<< e := by
    rw [Nat.shiftLeft_eq]
    ring
  have hscaled (a b e : ℕ) (h : a ≤ b) : (a * 2 ^ e) <<< e ≤ (b * 2 ^ e) <<< e :=
    Magnitude.shiftLeft_le_shiftLeft (Nat.mul_le_mul_right _ h) e
  constructor
  · apply Magnitude.le_nearest hcount
    rw [Magnitude.units_ofNat hleast, Magnitude.units_ofNat hn, Magnitude.units_ofNat htotal,
      hscale least 1074]
    exact hscaled (least * n) total 1074 hlower
  · apply Magnitude.nearest_le hcount
    rw [Magnitude.units_ofNat hgreatest, Magnitude.units_ofNat hn, Magnitude.units_ofNat htotal,
      hscale greatest 1074]
    exact hscaled total (greatest * n) 1074 hupper

/-! ### The order of a summary -/

theorem nsToUs_mono {x y : Binary64} (h : x ≤ y) : nsToUs x ≤ nsToUs y :=
  Binary64.div_le_div (d := .ofNat 1000)
    (Magnitude.isInfinite_ofNat (k := 10) (by decide) (by decide))
    (Magnitude.val_ofNat_ne_zero (by decide)) h

/-- The mean of durations whose sum is exact lies between the least and the greatest of them. -/
theorem exists_mean (hne : durations ≠ []) (hsize : durations.length ≤ 2 ^ 53) {total : UInt64}
    (htotal : total.toNat = Word.exactSum durations) (hexact : Word.exactSum durations ≤ 2 ^ 53) :
    ∃ m, ofWord total / .ofNat durations.length = .signed false m ∧
      (Magnitude.ofNat ((ascending durations).getD 0 0).toNat).val ≤ m.val ∧
      m.val ≤
        (Magnitude.ofNat ((ascending durations).getD (durations.length - 1) 0).toNat).val := by
  have hlength : 0 < durations.length := List.length_pos_of_ne_nil hne
  have hsorted := pairwise_ascending durations
  have hleast : ∀ x ∈ durations, ((ascending durations).getD 0 0).toNat ≤ x.toNat := fun x hx =>
    UInt64.le_iff_toNat_le.1 (getD_zero_le hsorted (mem_ascending.2 hx))
  have hgreatest : ∀ x ∈ durations,
      x.toNat ≤ ((ascending durations).getD (durations.length - 1) 0).toNat := fun x hx => by
    have hlast := le_getD_last hsorted (mem_ascending.2 hx)
    rw [size_ascending] at hlast
    exact UInt64.le_iff_toNat_le.1 hlast
  have hmem : (ascending durations).getD (durations.length - 1) 0 ∈ durations :=
    mem_ascending.1 (getD_mem (by rw [size_ascending]; omega))
  have hbound : total.toNat ≤ 2 ^ 53 := htotal.trans_le hexact
  refine ⟨_, Binary64.signed_div (Magnitude.isInfinite_ofNat (by decide) hbound)
    (Magnitude.isInfinite_ofNat (by decide) hsize) (Magnitude.val_ofNat_ne_zero hlength), ?_⟩
  apply mean_between hlength hsize hbound ((Word.toNat_le_exactSum hmem).trans hexact)
  · rw [htotal]
    exact Word.mul_length_le_exactSum hleast
  · rw [htotal]
    exact Word.exactSum_le_mul_length hgreatest

/-- A summary counts the durations and sums them up; the least of them is at most their median, that
at most their 95th percentile, and that at most the greatest. If the sum is at most `2 ^ 53`, their
mean lies between the least and the greatest, and of equal durations all five are the same. -/
theorem ofDurations_ordered (hne : durations ≠ []) (hsize : durations.length < 2 ^ 53)
    (hsum : Word.exactSum durations < wordCount) :
    ∃ s, ofDurations durations = .ok (some s) ∧
      s.minUs ≤ s.medianUs ∧ s.medianUs ≤ s.p95Us ∧ s.p95Us ≤ s.maxUs ∧
      s.count = durations.length ∧ s.totalNs.toNat = Word.exactSum durations ∧
      (Word.exactSum durations ≤ 2 ^ 53 → s.minUs ≤ s.meanUs ∧ s.meanUs ≤ s.maxUs ∧
        ((∀ x ∈ durations, ∀ y ∈ durations, x = y) → s.minUs = s.meanUs ∧
          s.medianUs = s.meanUs ∧ s.p95Us = s.meanUs ∧ s.maxUs = s.meanUs)) := by
  obtain ⟨total, htotal, hresult⟩ := ofDurations_eq hne hsum
  have hlength : 0 < durations.length := List.length_pos_of_ne_nil hne
  have hsorted := pairwise_ascending durations
  have hcount := size_ascending durations
  obtain ⟨m, hmedian, hlower, hupper⟩ := median_between hsorted (size_ascending_pos hne)
  rw [hcount] at hlower hupper
  have hposition := position_lt 95 hlength
  have hfirst := magnitude_mono hsorted (Nat.zero_le ((durations.length - 1) / 2)) (by omega)
  have hhigh := magnitude_mono hsorted (half_le_position hlength hsize) (by omega)
  have hlast := magnitude_mono hsorted (Nat.le_sub_one_of_lt hposition) (by omega)
  rw [hmedian] at hresult
  refine ⟨_, hresult, nsToUs_mono (Binary64.signed_le_iff.2 (hfirst.trans hlower)),
    nsToUs_mono (Binary64.signed_le_iff.2 (hupper.trans hhigh)),
    nsToUs_mono (Binary64.signed_le_iff.2 hlast), rfl, htotal, ?_⟩
  intro hexact
  obtain ⟨mean, hmean, hleast, hgreatest⟩ := exists_mean hne hsize.le htotal hexact
  dsimp only
  rw [hmean]
  refine ⟨nsToUs_mono (Binary64.signed_le_iff.2 hleast),
    nsToUs_mono (Binary64.signed_le_iff.2 hgreatest), fun hequal => ?_⟩
  -- All entries are the first one, so the bounds of the median and of the mean meet there.
  have hentry {i : ℕ} (hi : i < durations.length) :
      (ascending durations).getD i 0 = (ascending durations).getD 0 0 :=
    hequal _ (mem_ascending.1 (getD_mem (by omega))) _ (mem_ascending.1 (getD_mem (by omega)))
  rw [hentry hposition] at hhigh ⊢
  rw [hentry (Nat.sub_one_lt_of_lt hlength)] at hgreatest ⊢
  have hword : ofWord ((ascending durations).getD 0 0) =
      .signed false (.ofNat ((ascending durations).getD 0 0).toNat) := Binary64.ofNat_eq _
  have hmiddle : m = .ofNat ((ascending durations).getD 0 0).toNat :=
    Subtype.ext (Nat.le_antisymm (hupper.trans hhigh) (hfirst.trans hlower))
  have hequalMean : mean = .ofNat ((ascending durations).getD 0 0).toNat :=
    Subtype.ext (Nat.le_antisymm hgreatest hleast)
  rw [hword, hmiddle, hequalMean]
  exact ⟨rfl, rfl, rfl, rfl⟩

/-- A sum of exactly `2 ^ 53`, and three durations of one length. -/
theorem ofDurations_ordered_exact_sum :
    (∃ s, ofDurations [9007199254740991, 1] = .ok (some s) ∧ s.minUs ≤ s.medianUs ∧
      s.medianUs ≤ s.p95Us ∧ s.p95Us ≤ s.maxUs ∧ s.minUs ≤ s.meanUs ∧ s.meanUs ≤ s.maxUs) ∧
    ∃ s, ofDurations [12345, 12345, 12345] = .ok (some s) ∧ s.minUs = s.meanUs ∧
      s.medianUs = s.meanUs ∧ s.p95Us = s.meanUs ∧ s.maxUs = s.meanUs := by
  refine ⟨?_, ?_⟩
  · have hne : ([9007199254740991, 1] : List UInt64) ≠ [] := by decide
    obtain ⟨s, hs, hmedian, hp95, hmax, -, -, hexact⟩ :=
      ofDurations_ordered hne (by decide) (by decide)
    obtain ⟨hleast, hgreatest, -⟩ := hexact (by decide)
    exact ⟨s, hs, hmedian, hp95, hmax, hleast, hgreatest⟩
  · have hne : ([12345, 12345, 12345] : List UInt64) ≠ [] := by decide
    obtain ⟨s, hs, -, -, -, -, -, hexact⟩ := ofDurations_ordered hne (by decide) (by decide)
    exact ⟨s, hs, (hexact (by decide)).2.2 (by simp)⟩

end Statistics
end ScanLatency
