import ScanLatency.Proofs.Costs

/-! The verdict as a classification of the measured nanoseconds, and the range of a comparison. The
verdict depends on which side measured anything at all, whatever is rounded on the way. Costs are
never NaN, but a divisor that is small or large enough makes them, or their quotient, overflow. -/
namespace ScanLatency
open Number

namespace Verdict
open Binary64

variable {g s : Magnitude}

/-- The verdict on unsigned costs. Nothing over something is zero, also if the latter is infinite. -/
theorem ofTotals_signed : ofTotals (signed false g) (signed false s) =
    if g.val = 0 then if s.val = 0 then .indeterminate else .slowdown 0
    else .speedup (signed false s / signed false g) := by
  unfold ofTotals
  simp only [pos_iff, ne_eq, ite_not]
  split_ifs with hg hs
  · rfl
  · have hfinite : g.isInfinite = false := by
      rw [Magnitude.isInfinite_eq_false_iff, hg]
      decide
    congr 1
    cases hinfinite : s.isInfinite with
    | true => rw [Magnitude.isInfinite_iff.1 hinfinite, div_infinity hfinite, zero_eq]
    | false =>
      rw [signed_div hfinite hinfinite hs, signed_eq_zero_iff]
      exact Magnitude.quotient_zero hg hs
  · rfl

theorem ofTotals_eq_speedup_iff {ratio : Binary64} :
    ofTotals (signed false g) (signed false s) = .speedup ratio ↔
      g.val ≠ 0 ∧ ratio = signed false s / signed false g := by
  rw [ofTotals_signed]
  split_ifs with hg hs
  · simp [hg]
  · simp [hg]
  · simp [hg, eq_comm]

theorem ofTotals_eq_slowdown_iff {ratio : Binary64} :
    ofTotals (signed false g) (signed false s) = .slowdown ratio ↔
      g.val = 0 ∧ s.val ≠ 0 ∧ ratio = 0 := by
  rw [ofTotals_signed]
  split_ifs with hg hs
  · simp [hs]
  · simp [hg, hs, eq_comm]
  · simp [hg]

theorem ofTotals_eq_indeterminate_iff :
    ofTotals (signed false g) (signed false s) = .indeterminate ↔ g.val = 0 ∧ s.val = 0 := by
  rw [ofTotals_signed]
  split_ifs with hg hs
  · simp [hg, hs]
  · simp [hs]
  · simp [hg]

end Verdict

namespace Comparison
open Binary64 CommandLine Magnitude

/-! ### What the verdict says -/

def groupedNanos (results : List PatternResult) : ℕ :=
  exactTotal results .groupedScan + exactTotal results .largeSequential

def singlesNanos (results : List PatternResult) : ℕ :=
  exactTotal results .singlesScan + exactTotal results .singleSequential

/-- The verdict tells which sides measured anything: no nanosecond is lost to rounding. -/
theorem verdict_of_exact_totals {e : Environment} {given : Given} {c : Settings}
    {results : List PatternResult} (hc : given.settings e = .ok c)
    (htotals : ∀ r ∈ results, ∃ total, r.totalNanos = .ok total) :
    ∃ comparison, ofResults c.groupSize c.divisor results = .ok comparison ∧
      ((∃ ratio, comparison.verdict = .speedup ratio) ↔ 0 < groupedNanos results) ∧
      ((∃ ratio, comparison.verdict = .slowdown ratio) ↔
        groupedNanos results = 0 ∧ 0 < singlesNanos results) ∧
      (∀ ratio, comparison.verdict = .slowdown ratio → ratio = 0) ∧
      (comparison.verdict = .indeterminate ↔
        groupedNanos results = 0 ∧ singlesNanos results = 0) := by
  obtain ⟨hn, d, hdivisor, hd⟩ := given.settings_ok hc
  rw [hdivisor]
  refine ⟨_, ofResults_eq hn hd htotals, ?_⟩
  have hgrouped : (cost c.groupSize d (exactTotal results .groupedScan)
      (exactTotal results .largeSequential)).val = 0 ↔ groupedNanos results = 0 :=
    (cost_eq_zero_iff hn hd).trans Nat.add_eq_zero_iff.symm
  have hsingles : (cost c.groupSize d (exactTotal results .singlesScan)
      (exactTotal results .singleSequential)).val = 0 ↔ singlesNanos results = 0 :=
    (cost_eq_zero_iff hn hd).trans Nat.add_eq_zero_iff.symm
  simp only [Verdict.ofTotals_eq_speedup_iff, Verdict.ofTotals_eq_slowdown_iff,
    Verdict.ofTotals_eq_indeterminate_iff, hgrouped, hsingles, ne_eq]
  refine ⟨?_, ?_, fun ratio h => h.2.2, trivial⟩
  · exact ⟨fun ⟨_, hpos, _⟩ => Nat.pos_of_ne_zero hpos, fun hpos => ⟨_, Nat.ne_of_gt hpos, rfl⟩⟩
  · exact ⟨fun ⟨_, hzero, hpos, _⟩ => ⟨hzero, Nat.pos_of_ne_zero hpos⟩,
      fun ⟨hzero, hpos⟩ => ⟨_, hzero, Nat.ne_of_gt hpos, rfl⟩⟩

/-- One nanosecond, shared by the largest group and over the largest divisor, is not lost. -/
theorem verdict_of_one_nanosecond :
    let given : Given :=
      { file := some "plots", groupSize := some 18446744073709551615
        divisor := some (.ofBits 0x7fefffffffffffff) }
    let results : List PatternResult :=
      [⟨.largeSequential, .sequentialLarge 1, "Large sequential", 1, #[⟨1, 1, false⟩]⟩]
    ∃ c, given.settings {} = .ok c ∧ (∀ r ∈ results, ∃ total, r.totalNanos = .ok total) ∧
      ∃ comparison, ofResults c.groupSize c.divisor results = .ok comparison ∧
        ∃ ratio, comparison.verdict = .speedup ratio := by
  intro given results
  have hc : given.settings {} = .ok (given.defaulted {}) := by decide +kernel
  have htotals : ∀ r ∈ results, ∃ total, r.totalNanos = .ok total := by
    intro r hr
    obtain rfl := List.mem_singleton.1 hr
    exact ⟨1, rfl⟩
  obtain ⟨comparison, hresult, hspeedup, -⟩ := verdict_of_exact_totals hc htotals
  exact ⟨_, hc, htotals, comparison, hresult, hspeedup.2 (by decide +kernel)⟩

/-! ### Where a comparison is finite -/

/-- Where the numbers of a comparison are finite. -/
structure Ranged (divisor : Binary64) (cmp : Comparison) : Prop where
  totals_finite : cmp.groupedScanMs.isFinite ∧ cmp.singlesScanMs.isFinite ∧
    cmp.groupedLargeSequentialMs.isFinite ∧ cmp.singlesSequentialMs.isFinite
  grouped_not_nan : cmp.groupedTotalAvgMs.isNaN = false
  singles_not_nan : cmp.singlesTotalAvgMs.isNaN = false
  grouped_finite_iff : cmp.groupedTotalAvgMs.isFinite ↔
    cmp.groupedLargeSequentialMs.toUnits < overflowValue * divisor.toUnits
  singles_finite_iff : cmp.singlesTotalAvgMs.isFinite ↔
    cmp.singlesSequentialMs.toUnits < overflowValue * divisor.toUnits
  slowdown_zero : ∀ ratio, cmp.verdict = .slowdown ratio → ratio = 0
  speedup_nan_iff : ∀ ratio, cmp.verdict = .speedup ratio →
    (ratio.isNaN ↔ ¬cmp.groupedTotalAvgMs.isFinite ∧ ¬cmp.singlesTotalAvgMs.isFinite)
  speedup_finite_iff : ∀ ratio, cmp.verdict = .speedup ratio →
    (ratio.isFinite ↔ cmp.singlesTotalAvgMs.isFinite ∧
      cmp.singlesTotalAvgMs.toUnits < overflowValue * cmp.groupedTotalAvgMs.toUnits)
  /-- No overflow happens for divisors from `2 ^ -893` to `2 ^ 957`. -/
  finite_of_moderate : 2 ^ (1074 - 893) ≤ divisor.toUnits → divisor.toUnits ≤ 2 ^ (1074 + 957) →
    cmp.groupedTotalAvgMs.isFinite ∧ cmp.singlesTotalAvgMs.isFinite ∧
      ∀ ratio, cmp.verdict = .speedup ratio ∨ cmp.verdict = .slowdown ratio → ratio.isFinite

/-- Every number of a comparison is finite exactly where its exact value allows it. -/
theorem ofResults_ranged {e : Environment} {given : Given} {c : Settings}
    {results : List PatternResult} (hc : given.settings e = .ok c)
    (htotals : ∀ r ∈ results, ∃ total, r.totalNanos = .ok total) :
    ∃ comparison, ofResults c.groupSize c.divisor results = .ok comparison ∧
      comparison.Ranged c.divisor := by
  obtain ⟨hn, d, hdivisor, hd⟩ := given.settings_ok hc
  rw [hdivisor]
  refine ⟨_, ofResults_eq hn hd htotals, ?_⟩
  have hword (kind : PatternKind) := (exactTotal_lt htotals kind).le
  have htotal (kind : PatternKind) :
      (signed false (milliseconds (exactTotal results kind))).isFinite :=
    isFinite_signed_iff.2 (isInfinite_milliseconds (hword kind))
  constructor
  case totals_finite => exact ⟨htotal _, htotal _, htotal _, htotal _⟩
  case grouped_not_nan => rfl
  case singles_not_nan => rfl
  case grouped_finite_iff =>
    exact isFinite_signed_iff.trans ((isFinite_cost_iff hn hd (hword _)).trans toUnits_lt_iff.symm)
  case singles_finite_iff =>
    exact isFinite_signed_iff.trans ((isFinite_cost_iff hn hd (hword _)).trans toUnits_lt_iff.symm)
  case slowdown_zero => exact fun ratio h => (Verdict.ofTotals_eq_slowdown_iff.1 h).2.2
  case speedup_nan_iff =>
    intro ratio h
    obtain ⟨hpos, rfl⟩ := Verdict.ofTotals_eq_speedup_iff.1 h
    rw [isNaN_div_iff hpos, isFinite_signed_iff, isFinite_signed_iff, Bool.not_eq_false,
      Bool.not_eq_false, and_comm]
  case speedup_finite_iff =>
    intro ratio h
    obtain ⟨hpos, rfl⟩ := Verdict.ofTotals_eq_speedup_iff.1 h
    rw [isFinite_div_iff hpos, isFinite_signed_iff, toUnits_lt_iff]
  case finite_of_moderate =>
    intro hlow hhigh
    rw [two_pow_le_toUnits_iff] at hlow
    rw [toUnits_le_two_pow_iff] at hhigh
    have hgrouped := cost_moderate hn hd (hword .groupedScan) (hword .largeSequential) hlow hhigh
    have hsingles := cost_moderate hn hd (hword .singlesScan) (hword .singleSequential) hlow hhigh
    refine ⟨isFinite_signed_iff.2 hgrouped.1, isFinite_signed_iff.2 hsingles.1, ?_⟩
    rintro ratio (h | h)
    · obtain ⟨hpos, rfl⟩ := Verdict.ofTotals_eq_speedup_iff.1 h
      exact (isFinite_div_iff hpos).2 ⟨hsingles.1, hsingles.2 _ _ hpos⟩
    · rw [(Verdict.ofTotals_eq_slowdown_iff.1 h).2.2]
      decide +kernel

/-- With the default divisor everything is finite. -/
theorem ofResults_ranged_default :
    let given : Given := { file := some "plots", groupSize := some 4 }
    let results : List PatternResult :=
      [⟨.groupedScan, .groupedScan 4 32768, "Grouped scan", 1, #[⟨8000000, 1, false⟩]⟩,
        ⟨.singleSequential, .sequentialLarge 1, "Single sequential", 1, #[⟨32000000, 1, false⟩]⟩]
    ∃ c, given.settings {} = .ok c ∧ (∀ r ∈ results, ∃ total, r.totalNanos = .ok total) ∧
      ∃ comparison, ofResults c.groupSize c.divisor results = .ok comparison ∧
        comparison.groupedTotalAvgMs.isFinite ∧ comparison.singlesTotalAvgMs.isFinite := by
  intro given results
  have hc : given.settings {} = .ok (given.defaulted {}) := by decide +kernel
  have htotals : ∀ r ∈ results, ∃ total, r.totalNanos = .ok total := by
    intro r hr
    simp only [results, List.mem_cons, List.not_mem_nil, or_false] at hr
    rcases hr with rfl | rfl
    · exact ⟨8000000, rfl⟩
    · exact ⟨32000000, rfl⟩
  obtain ⟨comparison, hresult, hranged⟩ := ofResults_ranged hc htotals
  have hmoderate := hranged.finite_of_moderate (by decide +kernel) (by decide +kernel)
  exact ⟨_, hc, htotals, comparison, hresult, hmoderate.1, hmoderate.2.1⟩

/-- The smallest divisor makes both costs of one nanosecond infinite and their quotient NaN. -/
theorem ofResults_infinite_smallest_divisor :
    let given : Given := { file := some "plots", groupSize := some 1, divisor := some (.ofBits 1) }
    let results : List PatternResult :=
      [⟨.largeSequential, .sequentialLarge 1, "Large sequential", 1, #[⟨1, 1, false⟩]⟩,
        ⟨.singleSequential, .sequentialLarge 1, "Single sequential", 1, #[⟨1, 1, false⟩]⟩]
    ∃ c, given.settings {} = .ok c ∧ (∀ r ∈ results, ∃ total, r.totalNanos = .ok total) ∧
      ∃ comparison, ofResults c.groupSize c.divisor results = .ok comparison ∧
        comparison.groupedTotalAvgMs = .infinity ∧ comparison.singlesTotalAvgMs = .infinity ∧
        comparison.verdict = .speedup .nan := by
  intro given results
  have hc : given.settings {} = .ok (given.defaulted {}) := by decide +kernel
  refine ⟨_, hc, ?_, _, rfl, ?_⟩
  · intro r hr
    simp only [results, List.mem_cons, List.not_mem_nil, or_false] at hr
    rcases hr with rfl | rfl <;> exact ⟨1, rfl⟩
  · decide +kernel

end Comparison
end ScanLatency
