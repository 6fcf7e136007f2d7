import ScanLatency.Proofs.Summary

/-! The 95th percentile by counting. In an ascending array the count of the entries up to a value
says which positions hold such an entry, so the entry at the nearest rank of 95 percent is the least
one with enough entries up to it. -/
namespace ScanLatency

/-- The positions below the count of a property that an ascending list loses once are the positions
with the property. -/
theorem lt_countP_iff {α : Type} {P : α → Bool} {l : List α}
    (hdown : l.Pairwise fun x y => P y = true → P x = true) {i : ℕ} (hi : i < l.length) :
    i < l.countP P ↔ P l[i] = true := by
  induction l generalizing i with
  | nil => exact absurd hi (Nat.not_lt_zero i)
  | cons x l ih =>
    obtain ⟨hhead, htail⟩ := List.pairwise_cons.1 hdown
    cases hx : P x with
    | false =>
      have hnone : ∀ y ∈ x :: l, ¬P y = true := by
        intro y hy hP
        rcases List.mem_cons.1 hy with rfl | hy
        · exact Bool.false_ne_true (hx.symm.trans hP)
        · exact Bool.false_ne_true (hx.symm.trans (hhead y hy hP))
      rw [List.countP_eq_zero.2 hnone]
      exact iff_of_false (Nat.not_lt_zero i) (hnone _ (List.getElem_mem hi))
    | true =>
      rw [List.countP_cons_of_pos hx]
      cases i with
      | zero => exact iff_of_true (Nat.succ_pos _) hx
      | succ j => exact Nat.succ_lt_succ_iff.trans (ih htail (Nat.lt_of_succ_lt_succ hi))

section Ranks

variable {sorted : Array UInt64} (hsorted : sorted.toList.Pairwise (· ≤ ·)) {k : ℕ}
include hsorted

/-- At least so many entries are up to a value if the entry of that rank is. -/
theorem le_countP_le_iff (hpos : 0 < k) (hk : k ≤ sorted.size) (x : UInt64) :
    k ≤ sorted.toList.countP (· ≤ x) ↔ sorted.getD (k - 1) 0 ≤ x := by
  have hdown : sorted.toList.Pairwise fun a b => decide (b ≤ x) = true → decide (a ≤ x) = true :=
    hsorted.imp fun hab hb => decide_eq_true (UInt64.le_trans hab (of_decide_eq_true hb))
  have hlast : k - 1 < sorted.toList.length := by
    rw [Array.length_toList]
    omega
  have hiff := lt_countP_iff hdown hlast
  rw [decide_eq_true_iff, Array.getElem_toList] at hiff
  rw [Array.getD, dif_pos (by omega)]
  exact (by omega : k ≤ _ ↔ k - 1 < _).trans hiff

/-- Fewer entries are below a value if the entry of that rank is not. -/
theorem countP_lt_lt_iff (hpos : 0 < k) (hk : k ≤ sorted.size) (x : UInt64) :
    sorted.toList.countP (· < x) < k ↔ x ≤ sorted.getD (k - 1) 0 := by
  have hdown : sorted.toList.Pairwise fun a b => decide (b < x) = true → decide (a < x) = true :=
    hsorted.imp fun hab hb => decide_eq_true (UInt64.lt_of_le_of_lt hab (of_decide_eq_true hb))
  have hlast : k - 1 < sorted.toList.length := by
    rw [Array.length_toList]
    omega
  have hiff := lt_countP_iff hdown hlast
  rw [decide_eq_true_iff, Array.getElem_toList] at hiff
  rw [Array.getD, dif_pos (by omega), ← UInt64.not_lt]
  exact (by omega : _ < k ↔ ¬k - 1 < _).trans (not_congr hiff)

end Ranks

namespace Statistics
open Number

variable {durations : List UInt64} {n : ℕ}

/-- The nearest rank of 95 percent is `19 * n / 20`, rounded up. -/
theorem nearestRank_ninetyFive (n : ℕ) : nearestRank 95 n = (19 * n + 19) / 20 := by
  apply eq_of_forall_ge_iff
  intro k
  rw [nearestRank_le_iff]
  omega

/-- The rank of 95 percent is exact. -/
theorem rank_ninetyFive (hn : n ≤ 2 ^ 40) : rank 95 n = ((19 * n + 19) / 20 : ℕ) := by
  have hexact : ¬Overshoots 95 n := fun h =>
    absurd (h.mem_overshooting (by decide) hn) (by decide)
  have hrank := rank_ofNat (p := 95) (by decide) hn
  rw [if_neg hexact, Nat.add_zero, nearestRank_ninetyFive] at hrank
  exact hrank

theorem position_ninetyFive (hn : n ≤ 2 ^ 40) : position 95 n = (19 * n + 19) / 20 - 1 := by
  rw [position, rank_ninetyFive hn]
  omega

/-- The 95th percentile is the least duration with at least 95 percent of the durations up to it,
as a number of microseconds. The computed rank is `19 * n / 20`, rounded up, and within the list. -/
theorem ofDurations_ninetyFifth (hne : durations ≠ []) (hsize : durations.length ≤ 2 ^ 40)
    (hsum : Word.exactSum durations < wordCount) :
    ∃ s v, ofDurations durations = .ok (some s) ∧ v ∈ durations ∧
      s.p95Us = .ofNat v.toNat / 1000 ∧
      19 * durations.length ≤ 20 * durations.countP (· ≤ v) ∧
      20 * durations.countP (· < v) < 19 * durations.length ∧
      (∀ x ∈ durations, 19 * durations.length ≤ 20 * durations.countP (· ≤ x) → v ≤ x) ∧
      (2 ≤ durations.length →
        rank 95 durations.length - 1 = (((19 * durations.length + 19) / 20 - 1 : ℕ) : ℤ) ∧
        (19 * durations.length + 19) / 20 - 1 < durations.length) := by
  obtain ⟨total, -, hresult⟩ := ofDurations_eq hne hsum
  have hlength : 0 < durations.length := List.length_pos_of_ne_nil hne
  have hsorted := pairwise_ascending durations
  -- At least 95 percent are at least that many.
  have henough (k : ℕ) :
      19 * durations.length ≤ 20 * k ↔ (19 * durations.length + 19) / 20 ≤ k := by omega
  have hpos : 0 < (19 * durations.length + 19) / 20 := by omega
  have hwithin : (19 * durations.length + 19) / 20 ≤ (ascending durations).size := by
    rw [size_ascending]
    omega
  rw [position_ninetyFive hsize] at hresult
  refine ⟨_, _, hresult, mem_ascending.1 (getD_mem (by omega)), rfl, ?_, ?_, ?_, ?_⟩
  · rw [henough, ← countP_ascending, le_countP_le_iff hsorted hpos hwithin]
    exact UInt64.le_refl _
  · rw [← Nat.not_le, henough, Nat.not_le, ← countP_ascending,
      countP_lt_lt_iff hsorted hpos hwithin]
    exact UInt64.le_refl _
  · intro x _ hx
    rwa [henough, ← countP_ascending, le_countP_le_iff hsorted hpos hwithin] at hx
  · intro _
    rw [rank_ninetyFive hsize]
    omega

/-- Of twenty durations the nineteenth in ascending order, neither the last nor one of the ties. -/
theorem ofDurations_ninetyFifth_twenty :
    let durations : List UInt64 := [12] ++ List.replicate 18 4 ++ [9]
    durations ≠ [] ∧ durations.length ≤ 2 ^ 40 ∧ Word.exactSum durations < wordCount ∧
      ∃ s, ofDurations durations = .ok (some s) ∧ s.p95Us = .ofNat 9 / 1000 := by
  intro durations
  have hne : durations ≠ [] := by decide
  have hsize : durations.length ≤ 2 ^ 40 := by decide
  have hsum : Word.exactSum durations < wordCount := by decide
  have hcases : ∀ x ∈ durations, x = 12 ∨ x = 4 ∨ x = 9 := by simp [durations]
  have htop : ¬20 * durations.countP (· < 12) < 19 * durations.length := by decide
  have hties : ¬19 * durations.length ≤ 20 * durations.countP (· ≤ 4) := by decide
  obtain ⟨s, v, hs, hmem, hp95, hupto, hbelow, -⟩ := ofDurations_ninetyFifth hne hsize hsum
  rcases hcases v hmem with rfl | rfl | rfl
  · exact absurd hbelow htop
  · exact absurd hupto hties
  · exact ⟨hne, hsize, hsum, s, hs, hp95⟩

end Statistics
end ScanLatency
