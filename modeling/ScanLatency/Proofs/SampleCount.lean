import Mathlib.Algebra.BigOperators.Ring.List
import Mathlib.Data.List.Perm.Subperm
import ScanLatency.CommandLine.Settings
import ScanLatency.Proofs.Consistency
import ScanLatency.Proofs.Sizing

/-! How many samples a run gives. Settings that pass their checks leave no pattern without reads and
no read without bytes. So every result of their runs has samples, and statistics to show; and when
no pattern is skipped, the samples are as many as the layout asks for, times the iterations. -/
namespace ScanLatency

namespace Word

theorem saturatingMul_pos {a b : UInt64} (ha : 0 < a.toNat) (hb : 0 < b.toNat) :
    0 < (saturatingMul a b).toNat := by
  rw [toNat_saturatingMul]
  exact lt_min (Nat.mul_pos ha hb) (by decide)

end Word

namespace Layout

/-- The reads that the pattern of a kind makes in one iteration. -/
def exactReads (l : Layout) : PatternKind → ℕ
  | .groupedScan | .singlesScan => l.groupSize.toNat
  | .strideScan => l.exactJumps
  | .largeSequential | .singleSequential => 1

theorem exactJumps_pos (l : Layout) : 0 < l.exactJumps := Nat.le_max_left 1 _

theorem exactReads_pos (l : Layout) (hgroup : 0 < l.groupSize.toNat) (kind : PatternKind) :
    0 < l.exactReads kind := by
  cases kind with
  | groupedScan => exact hgroup
  | singlesScan => exact hgroup
  | strideScan => exact l.exactJumps_pos
  | largeSequential => exact Nat.one_pos
  | singleSequential => exact Nat.one_pos

theorem sum_exactReads (l : Layout) :
    (PatternKind.all.map l.exactReads).sum = 2 * l.groupSize.toNat + l.exactJumps + 2 := by
  simp only [PatternKind.all, exactReads, List.map_cons, List.map_nil, List.sum_cons, List.sum_nil]
  omega

theorem reads_suite (l : Layout) {planned : PlannedPattern} (h : planned ∈ l.suite) :
    planned.pattern.schedule.reads = l.exactReads planned.kind := by
  simp only [suite, List.mem_cons, List.not_mem_nil, or_false] at h
  rcases h with rfl | rfl | rfl | rfl | rfl
  · rfl
  · rfl
  · -- The first read of the stride scan is not a jump.
    have hone := l.one_le_jumpsAcrossGroups
    show (l.jumpsAcrossGroups - 1).toNat + 1 = l.exactJumps
    rw [UInt64.toNat_sub_of_le _ 1 (UInt64.le_iff_toNat_le.2 hone), ← l.toNat_jumpsAcrossGroups]
    exact Nat.sub_add_cancel hone
  · rfl
  · rfl

/-- Where groups and scans are not empty, every pattern of the suite asks for bytes, whatever
saturates. -/
theorem length_suite_pos (l : Layout) (hgroup : 0 < l.groupSize.toNat)
    (hscan : 0 < l.scanElements.toNat) {planned : PlannedPattern} (h : planned ∈ l.suite) :
    0 < planned.pattern.schedule.length.toNat := by
  have hbytes : 0 < l.scanBytes.toNat := Word.saturatingMul_pos hscan (by decide)
  have hjumps : 0 < l.jumpsAcrossGroups.toNat := l.one_le_jumpsAcrossGroups
  simp only [suite, List.mem_cons, List.not_mem_nil, or_false] at h
  rcases h with rfl | rfl | rfl | rfl | rfl
  · exact hbytes
  · exact hbytes
  · exact hbytes
  · exact Word.saturatingMul_pos (Word.saturatingMul_pos hgroup hbytes) hjumps
  · exact Word.saturatingMul_pos hbytes hjumps

end Layout

namespace RunReport

variable {δ ο : Type} {c : Settings} {stages : List (Stage δ ο)} {report : RunReport}

/-- A result holds one sample for each read of each iteration. -/
theorem Accounts.sampleCount_kind (h : report.Accounts c stages) :
    ∀ r ∈ report.results, r.sampleCount = c.iterations.toNat * c.layout.exactReads r.kind := by
  intro r hr
  have hkinds : stages.map (·.planned.kind) = PatternKind.all := by
    rw [← c.layout.map_kind_suite, ← h.staged, List.map_map]
    rfl
  obtain ⟨st, hst, hkind⟩ := List.mem_map.1 (hkinds ▸ r.kind.mem_all)
  obtain ⟨count, hcount, hsamples⟩ := h.sampleCount_eq st hst r hr hkind.symm
  have hplanned : st.planned ∈ c.layout.suite := h.staged ▸ List.mem_map_of_mem hst
  rw [hsamples, Pattern.expectedSamples_eq_reads hcount, c.layout.reads_suite hplanned, hkind]

/-- Without a skip every kind has its result, in order. -/
theorem Accounts.map_kind_results (h : report.Accounts c stages) (hskipped : report.skipped = []) :
    report.results.map (·.kind) = PatternKind.all := by
  have hmem (kind : PatternKind) : kind ∈ report.results.map (·.kind) := by
    simpa [hskipped] using (h.exactly_one kind).2
  apply h.results_in_order.eq_of_length_le
  exact (List.subperm_of_subset PatternKind.nodup_all fun kind _ => hmem kind).length_le

theorem totalSamples_eq (r : RunReport) :
    r.totalSamples = (r.results.map (·.sampleCount)).sum := by
  rw [totalSamples, List.sum_eq_foldl, List.foldl_map]

/-- The samples of a run without skips are those of all kinds. -/
theorem Accounts.totalSamples_eq (h : report.Accounts c stages) (hskipped : report.skipped = []) :
    report.totalSamples = c.iterations.toNat *
      (2 * c.layout.groupSize.toNat + c.layout.exactJumps + 2) := by
  have hcounts : report.results.map (·.sampleCount) =
      (report.results.map (·.kind)).map (c.iterations.toNat * c.layout.exactReads ·) := by
    rw [List.map_map]
    exact List.map_congr_left h.sampleCount_kind
  rw [RunReport.totalSamples_eq, hcounts, h.map_kind_results hskipped, List.sum_map_mul_left,
    c.layout.sum_exactReads]

/-- What a report of validated settings offers, given the journal before the run and after it. -/
structure Sampled (c : Settings) (before after : List Event) (report : RunReport) : Prop where
  wanted_pos : ∀ planned ∈ c.layout.suite, 0 < planned.pattern.schedule.length.toNat
  count_pos : ∀ r ∈ report.results, 0 < r.sampleCount
  /-- Just the kinds with a result have statistics. -/
  statistics_iff : ∀ kind, ∃ statistics, report.statistics kind = .ok statistics ∧
    (statistics.isSome ↔ kind ∈ report.results.map (·.kind))
  /-- Every result is shown with its statistics. -/
  shown : ∃ shown : List (PatternResult × Statistics), report.results = shown.map (·.1) ∧
    (∀ x ∈ shown, x.1.statistics = .ok (some x.2)) ∧
    after.filterMap Console.outputLine = before.filterMap Console.outputLine ++
      shown.map fun x => Console.resultLine x.1.label (some x.2)
  total_eq : report.skipped = [] → report.totalSamples = c.iterations.toNat *
    (2 * c.groupSize.toNat + max 1 (524288 / c.scanElements.toNat) + 2)

end RunReport

namespace RunReport.Entered

variable {r : RunReport} {entries : List PatternEntry} (h : r.Entered entries)
include h

/-- An entry with samples has statistics. -/
theorem isSome_statistics (hcount : ∀ result ∈ r.results, 0 < result.sampleCount) :
    ∀ entry ∈ entries, entry.statistics.isSome := by
  intro entry hentry
  have hpos := hcount entry.result (h.results_eq ▸ List.mem_map_of_mem hentry)
  have hnone := (Statistics.of_ofDurations (h.statistics_eq entry hentry)).1
  rw [← Option.ne_none_iff_isSome, Ne, hnone]
  intro hempty
  rw [PatternResult.durations, List.map_eq_nil_iff, Array.toList_eq_nil_iff] at hempty
  rw [PatternResult.sampleCount, hempty] at hpos
  exact absurd hpos (Nat.lt_irrefl 0)

theorem isSome_statistics_kind (hsome : ∀ entry ∈ entries, entry.statistics.isSome)
    (kind : PatternKind) : ∃ statistics, r.statistics kind = .ok statistics ∧
      (statistics.isSome ↔ kind ∈ r.results.map (·.kind)) := by
  refine ⟨_, h.statistics_kind kind, ?_⟩
  rw [h.results_eq, List.map_map]
  cases hfind : entries.find? (·.result.kind = kind) with
  | none =>
    have hother : ∀ entry ∈ entries, entry.result.kind ≠ kind := by simpa using hfind
    simpa using hother
  | some entry =>
    have hmem := List.mem_of_find?_eq_some hfind
    have hkind : entry.result.kind = kind := by simpa using List.find?_some hfind
    exact iff_of_true (hsome entry hmem) (List.mem_map.2 ⟨entry, hmem, hkind⟩)

end RunReport.Entered

namespace Settings

variable {δ ο : Type} [Device δ] [OffsetSource ο]

/-- Whatever the device, the source and the clock do, every result of a run with validated settings
has samples and shows their statistics. -/
theorem validated_run_sampled {e : CommandLine.Environment} {g : CommandLine.Given} {c : Settings}
    (hc : g.settings e = .ok c) {s s' : Session δ ο} {report : RunReport}
    (h : c.run s = .ok (report, s')) :
    report.Sampled c s.journal.toList s'.journal.toList := by
  obtain ⟨_, hfault⟩ := CommandLine.Given.settings_eq_ok_iff.1 hc
  obtain ⟨hgroup, hscan, hiterations, _⟩ := fault?_eq_none_iff.1 hfault
  obtain ⟨stages, hcourse, hresults, hskipped⟩ := course_of_run h
  have haccounts := accounts_of_course hcourse hresults hskipped
  have hcount : ∀ r ∈ report.results, 0 < r.sampleCount := by
    intro r hr
    rw [haccounts.sampleCount_kind r hr]
    exact Nat.mul_pos (Word.toNat_pos hiterations)
      (c.layout.exactReads_pos (Word.toNat_pos hgroup) r.kind)
  obtain ⟨entries, hentered, houtput, _⟩ := entered_of_run h
  have hsome := hentered.isSome_statistics hcount
  refine ⟨fun _ => c.layout.length_suite_pos (Word.toNat_pos hgroup) (Word.toNat_pos hscan), hcount,
    hentered.isSome_statistics_kind hsome, ?_, haccounts.totalSamples_eq⟩
  refine ⟨entries.pmap (fun entry hentry => (entry.result, entry.statistics.get hentry)) hsome,
    ?_, ?_, ?_⟩
  · simpa [List.map_pmap] using hentered.results_eq
  · intro x hx
    obtain ⟨entry, hentry, rfl⟩ := List.mem_pmap.1 hx
    simpa using hentered.statistics_eq entry hentry
  · simpa [List.map_pmap] using houtput

/-- The smallest settings that pass, but for scans as large as a partition: five samples. -/
theorem validated_run_sampled_smallest :
    let given : CommandLine.Given :=
      { file := some "plots", groupSize := some 1, scanElements := some 524288 }
    let s : Session MemoryStore ScriptedOffsets := ⟨.ofBytes (.counting 3000000), ⟨#[7], 0⟩, #[]⟩
    ∃ c report s', given.settings {} = .ok c ∧ c.run s = .ok (report, s') ∧
      report.Sampled c s.journal.toList s'.journal.toList ∧ report.totalSamples = 5 := by
  intro given s
  have hc : given.settings {} = .ok (given.defaulted {}) := by decide +kernel
  have hread : ((given.defaulted {}).run s).map (·.1.skipped) = .ok [] := by decide +kernel
  obtain ⟨⟨report, s'⟩, hrun, hskipped⟩ := map_eq_ok_iff.1 hread
  have hsampled := validated_run_sampled hc hrun
  exact ⟨_, report, s', hc, hrun, hsampled, (hsampled.total_eq hskipped).trans (by decide +kernel)⟩

end Settings
end ScanLatency
