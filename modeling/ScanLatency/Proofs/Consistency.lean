import ScanLatency.Memory.Faulty
import ScanLatency.Proofs.Printout
import ScanLatency.Proofs.Tellings

/-! The outputs of a run agree. Its journal, the exported report, the comparison and the table of
the summary each go through the results in a way of their own: as they come, in a list, kind by
kind, and in the order of all kinds. They show the same patterns with the same statistics. -/
namespace ScanLatency
open Number

def Json.field? (name : String) : Json → Option Json
  | .object fields => fields.lookup name
  | _ => none

/-- Entries found one by one in the order of their keys are the entries as they are listed. -/
theorem filterMap_find?_bind {α β κ : Type} [DecidableEq κ] {key : α → κ} {f : α → Option β}
    {keys : List κ} {entries : List α} (hsublist : (entries.map key).Sublist keys)
    (hnodup : keys.Nodup) :
    keys.filterMap (fun k => (entries.find? (key · = k)).bind f) = entries.filterMap f := by
  induction keys generalizing entries with
  | nil =>
    have hnil := List.map_eq_nil_iff.1 (List.sublist_nil.1 hsublist)
    rw [hnil]
    rfl
  | cons k keys ih =>
    obtain ⟨hk, hkeys⟩ := List.nodup_cons.1 hnodup
    cases entries with
    | nil => simp
    | cons entry entries =>
      by_cases hkey : key entry = k
      · subst hkey
        have htail := ih (List.cons_sublist_cons.1 hsublist) hkeys
        -- No later key finds the first entry again.
        have hlater : keys.filterMap (fun k => ((entry :: entries).find? (key · = k)).bind f) =
            keys.filterMap (fun k => (entries.find? (key · = k)).bind f) := by
          apply List.filterMap_congr
          intro k hmem
          have hne : key entry ≠ k := fun h => hk (h ▸ hmem)
          simp [hne]
        simp only [List.filterMap_cons, List.find?_cons_of_pos, decide_true, Option.bind_some]
        rw [hlater, htail]
      · have hrest : ((entry :: entries).map key).Sublist keys :=
          (List.cons_sublist_cons'.1 hsublist).resolve_right fun h => hkey h.1
        have hnone : (entry :: entries).find? (key · = k) = none := by
          apply List.find?_eq_none.2
          intro x hx hxk
          have hmem : key x ∈ keys := hrest.mem (List.mem_map_of_mem hx)
          exact hk (of_decide_eq_true hxk ▸ hmem)
        rw [List.filterMap_cons_none (by rw [hnone]; rfl), ih hrest hkeys]

/-- The statistics of a list count it, sum it up and give the total in milliseconds. -/
theorem Statistics.of_ofDurations {durations : List UInt64} {statistics : Option Statistics}
    (h : ofDurations durations = .ok statistics) :
    (statistics = none ↔ durations = []) ∧ ∀ s, statistics = some s →
      s.count = durations.length ∧ Word.sum durations = .ok s.totalNs ∧
        s.totalMs = ofWord s.totalNs / 1000000 := by
  unfold ofDurations at h
  split at h
  next hempty =>
    cases h
    refine ⟨iff_of_true rfl (List.isEmpty_iff.1 hempty), ?_⟩
    rintro _ ⟨⟩
  next hempty =>
    obtain ⟨total, htotal, h⟩ := bind_eq_ok_iff.1 h
    obtain ⟨p95, _, h⟩ := bind_eq_ok_iff.1 h
    cases h
    refine ⟨iff_of_false nofun fun hnil => hempty (List.isEmpty_iff.2 hnil), ?_⟩
    rintro _ ⟨⟩
    exact ⟨rfl, htotal, rfl⟩

namespace PatternEntry

/-- What a reader of one exported entry relies on. -/
structure Coherent (entry : PatternEntry) : Prop where
  kind_eq : entry.toJson.field? "kind" = some (.text entry.result.kind.key)
  label_eq : entry.toJson.field? "label" = some (.text entry.result.label)
  samples_eq : entry.toJson.field? "raw_samples_ns" =
    some (.array (entry.result.durations.map .word))
  count_eq : entry.toJson.field? "sample_count" = some (.count entry.result.durations.length)
  short_le : ∃ short ≤ entry.result.durations.length,
    entry.toJson.field? "short_reads" = some (.count short)
  stats_null_iff : entry.toJson.field? "stats" = some .null ↔ entry.result.durations.length = 0
  stats_eq : ∀ s, entry.statistics = some s → entry.toJson.field? "stats" = some s.toJson ∧
    s.toJson.field? "count" = some (.count entry.result.durations.length) ∧
    s.toJson.field? "total_ns" = some (.count (Word.exactSum entry.result.durations)) ∧
    s.toJson.field? "total_ms" = some (.real s.totalMs)

theorem coherent {entry : PatternEntry} (h : entry.result.statistics = .ok entry.statistics) :
    entry.Coherent where
  kind_eq := rfl
  label_eq := rfl
  samples_eq := rfl
  count_eq := by
    rw [PatternResult.durations, List.length_map, Array.length_toList]
    rfl
  short_le := by
    refine ⟨_, ?_, rfl⟩
    rw [PatternResult.durations, List.length_map, Array.length_toList]
    exact Array.countP_le_size
  stats_null_iff := by
    have hempty := (Statistics.of_ofDurations h).1
    show some (entry.statistics.elim .null Statistics.toJson) = some .null ↔ _
    rw [List.length_eq_zero_iff, ← hempty]
    cases entry.statistics with
    | none => exact iff_of_true rfl rfl
    | some s => exact iff_of_false nofun nofun
  stats_eq := by
    intro s hs
    obtain ⟨hcount, hsum, _⟩ := (Statistics.of_ofDurations h).2 s hs
    refine ⟨?_, ?_, ?_, rfl⟩
    · show some (entry.statistics.elim .null Statistics.toJson) = _
      rw [hs]
      rfl
    · rw [← hcount]
      rfl
    · rw [← Word.toNat_sum hsum]
      rfl

end PatternEntry

/-- The entries of a report: its results, each with its statistics. -/
structure RunReport.Entered (r : RunReport) (entries : List PatternEntry) : Prop where
  results_eq : r.results = entries.map (·.result)
  statistics_eq : ∀ entry ∈ entries, entry.result.statistics = .ok entry.statistics

/-- The total of one kind in milliseconds as its entry has it; zero without statistics. -/
def PatternEntry.totalMs (entries : List PatternEntry) (kind : PatternKind) : Binary64 :=
  ((entries.find? (·.result.kind = kind)).bind (·.statistics)).elim 0 (·.totalMs)

/-- The row of an entry in the summary, if it has samples. -/
def PatternEntry.row? (entry : PatternEntry) : Option (PatternKind × Statistics) :=
  entry.statistics.map (entry.result.kind, ·)

namespace RunReport.Entered

variable {r : RunReport} {entries : List PatternEntry} (h : r.Entered entries)
include h

/-- The export computes the statistics of the entries once more. -/
theorem ofRun_eq (c : Settings) (p : Provenance) :
    Export.ofRun c p r = .ok ⟨c, p, r, entries⟩ := by
  have hofResult : ∀ entry ∈ entries, PatternEntry.ofResult entry.result = .ok entry := by
    intro entry hentry
    rw [PatternEntry.ofResult, h.statistics_eq entry hentry]
    rfl
  have hentries : r.results.mapM PatternEntry.ofResult = .ok entries := by
    rw [h.results_eq]
    clear h
    induction entries with
    | nil => rfl
    | cons entry entries ih =>
      obtain ⟨hfirst, hrest⟩ := List.forall_mem_cons.1 hofResult
      rw [List.map_cons, List.mapM_cons, hfirst, ih hrest]
      rfl
  rw [Export.ofRun, hentries]
  rfl

theorem find?_results (kind : PatternKind) : r.results.find? (·.kind = kind) =
    (entries.find? (·.result.kind = kind)).map (·.result) := by
  rw [h.results_eq, List.find?_map]
  rfl

theorem statistics_kind (kind : PatternKind) : r.statistics kind =
    .ok ((entries.find? (·.result.kind = kind)).bind (·.statistics)) := by
  unfold statistics result?
  rw [h.find?_results kind]
  cases hfind : entries.find? (·.result.kind = kind) with
  | none => rfl
  | some entry => exact h.statistics_eq entry (List.mem_of_find?_eq_some hfind)

/-- The summary asks for one kind after the other and comes to the entries in their order. -/
theorem summaryEntries_eq (hordered : (r.results.map (·.kind)).Sublist PatternKind.all) :
    Console.summaryEntries r = .ok (entries.filterMap (·.row?)) := by
  have hsublist : (entries.map (·.result.kind)).Sublist PatternKind.all := by
    rwa [h.results_eq, List.map_map] at hordered
  have hfound (kind : PatternKind) :
      ((entries.find? (·.result.kind = kind)).bind (·.statistics)).map (kind, ·) =
        (entries.find? (·.result.kind = kind)).bind (·.row?) := by
    cases hfind : entries.find? (·.result.kind = kind) with
    | none => rfl
    | some entry =>
      have hkind : entry.result.kind = kind := by simpa using List.find?_some hfind
      rw [Option.bind_some, Option.bind_some, PatternEntry.row?, hkind]
  have hentries : Console.summaryEntries r =
      .ok ((PatternKind.all.map fun kind =>
        (entries.find? (·.result.kind = kind)).bind (·.row?)).filterMap id) := by
    simp only [Console.summaryEntries, h.statistics_kind, ← hfound]
    rfl
  rw [hentries, List.filterMap_map, ← filterMap_find?_bind hsublist PatternKind.nodup_all]
  rfl

theorem printed_summary (hordered : (r.results.map (·.kind)).Sublist PatternKind.all) (color : Bool) :
    ∃ lines, Console.summaryLines color r = .ok lines ∧ Console.printed color lines =
      Console.inLines (Console.summaryTexts color (entries.filterMap (·.row?)) r.comparison) := by
  obtain ⟨lines, hlines, htexts⟩ := Console.render_summaryLines (h.summaryEntries_eq hordered) color
  exact ⟨lines, hlines, Console.printed_eq_inLines htexts⟩

/-- The comparison adds up the durations once more. -/
theorem totalMs_eq (kind : PatternKind) :
    Comparison.totalMs r.results kind = .ok (PatternEntry.totalMs entries kind) := by
  unfold Comparison.totalMs PatternEntry.totalMs
  rw [h.find?_results kind]
  cases hfind : entries.find? (·.result.kind = kind) with
  | none => rfl
  | some entry =>
    have hof := Statistics.of_ofDurations (h.statistics_eq entry (List.mem_of_find?_eq_some hfind))
    show entry.result.totalNanos.map (Statistics.ofWord · / 1000000) =
      .ok (entry.statistics.elim 0 (·.totalMs))
    cases hs : entry.statistics with
    | none =>
      have hzero : Statistics.ofWord 0 / 1000000 = 0 := by decide +kernel
      have hsum : Word.sum [] = .ok 0 := rfl
      rw [PatternResult.totalNanos, hof.1.1 hs, hsum, Except.map, hzero]
      rfl
    | some s =>
      obtain ⟨_, hsum, htotal⟩ := hof.2 s hs
      rw [PatternResult.totalNanos, hsum]
      exact congrArg Except.ok htotal.symm

/-- The comparison takes its totals from the entries. -/
theorem ofResults_eq (n : UInt64) (divisor : Binary64) :
    Comparison.ofResults n divisor r.results = .ok (Comparison.ofTotals n divisor
      (PatternEntry.totalMs entries .groupedScan) (PatternEntry.totalMs entries .singlesScan)
      (PatternEntry.totalMs entries .largeSequential)
      (PatternEntry.totalMs entries .singleSequential)) := by
  unfold Comparison.ofResults
  simp only [h.totalMs_eq]
  rfl

end RunReport.Entered

/-- What the outputs of a run have in common with its export, given the journal before the run and
after it. -/
structure Export.Consistent (e : Export) (before after : List Event) : Prop where
  patterns_eq : e.toJson.field? "patterns" = some (.array (e.patterns.map (·.toJson)))
  skipped_eq : e.toJson.field? "skipped" = some (.array (e.report.skipped.map skippedJson))
  skipped_kind_eq : ∀ s ∈ e.report.skipped, (skippedJson s).field? "kind" = some (.text s.kind.key)
  exactly_one : ∀ kind, kind ∈ e.patterns.map (·.result.kind) ↔ kind ∉ e.report.skipped.map (·.kind)
  patterns_in_order : (e.patterns.map (·.result.kind)).Sublist PatternKind.all
  skipped_in_order : (e.report.skipped.map (·.kind)).Sublist PatternKind.all
  coherent : ∀ entry ∈ e.patterns, entry.Coherent
  comparison_eq : e.toJson.field? "comparison" = some e.report.comparison.toJson
  /-- The comparison has the totals of the entries, or zero where there are no samples. -/
  groupedScan_eq : e.report.comparison.groupedScanMs = PatternEntry.totalMs e.patterns .groupedScan
  singlesScan_eq : e.report.comparison.singlesScanMs = PatternEntry.totalMs e.patterns .singlesScan
  largeSequential_eq : e.report.comparison.groupedLargeSequentialMs =
    PatternEntry.totalMs e.patterns .largeSequential
  singleSequential_eq : e.report.comparison.singlesSequentialMs =
    PatternEntry.totalMs e.patterns .singleSequential
  /-- One line on standard output for each entry, in order. -/
  output_eq : ∀ color, Console.printed color (after.filterMap Console.outputLine) =
    Console.printed color (before.filterMap Console.outputLine) ++
      Console.inLines (e.patterns.map fun entry =>
        Console.resultText color entry.result.label entry.statistics)
  /-- One line on standard error for each skip, in order. -/
  errors_eq : ∀ color, (after.filterMap Console.errorLine).map (Console.Line.render color) =
    (before.filterMap Console.errorLine).map (Console.Line.render color) ++
      e.report.skipped.map fun s => Console.skipText color s.kind s.cause.message
  /-- One row of the table for each entry with statistics, in order. -/
  summary_eq : ∀ color, ∃ lines, Console.summaryLines color e.report = .ok lines ∧
    Console.printed color lines = Console.inLines
      (Console.summaryTexts color (e.patterns.filterMap (·.row?)) e.report.comparison)

namespace Settings

variable {δ ο : Type} [Device δ] [OffsetSource ο]

/-- A report has entries; the journal of its run has a result line for each of them, and a skip line
for each skip. -/
theorem entered_of_run {c : Settings} {s s' : Session δ ο} {report : RunReport}
    (h : c.run s = .ok (report, s')) :
    ∃ entries, report.Entered entries ∧
      s'.journal.toList.filterMap Console.outputLine =
        s.journal.toList.filterMap Console.outputLine ++
          entries.map (fun entry => Console.resultLine entry.result.label entry.statistics) ∧
      s'.journal.toList.filterMap Console.errorLine =
        s.journal.toList.filterMap Console.errorLine ++
          report.skipped.map fun s => Console.skipLine s.kind.name s.cause.message := by
  obtain ⟨state, outcomes, htold, hresults, hskipped, rfl⟩ := told_of_run h
  have houtput : (fun o : PatternOutcome => Console.outputLine o.event) = fun o =>
      o.completed?.map fun entry => Console.resultLine entry.result.label entry.statistics := by
    funext o
    cases o <;> rfl
  have herrors : (fun o : PatternOutcome => Console.errorLine o.event) = fun o =>
      o.skipped?.map fun s => Console.skipLine s.kind.name s.cause.message := by
    funext o
    cases o <;> rfl
  refine ⟨outcomes.filterMap (·.completed?), ⟨hresults.trans htold.results_eq, htold.statistics_eq⟩,
    ?_, ?_⟩
  · rw [← Session.filterMap_tellings (fun _ => rfl), ← Session.filterMap_tellings (fun _ => rfl),
      htold.tellings_eq, List.filterMap_append, List.filterMap_map, List.map_filterMap, ← houtput]
    rfl
  · rw [← Session.filterMap_tellings (fun _ => rfl), ← Session.filterMap_tellings (fun _ => rfl),
      htold.tellings_eq, List.filterMap_append, List.filterMap_map, hskipped, htold.skipped_eq,
      List.map_filterMap, ← herrors]
    rfl

theorem ofResults_of_run {c : Settings} {s s' : Session δ ο} {report : RunReport}
    (h : c.run s = .ok (report, s')) :
    Comparison.ofResults c.groupSize c.divisor report.results = .ok report.comparison := by
  obtain ⟨_, _, _, hcompared, rfl, _⟩ := run_ok_iff.1 h
  exact hcompared

/-- The journal, the export, the comparison and the summary of a run agree. -/
theorem run_consistent {c : Settings} {s s' : Session δ ο} {report : RunReport}
    (h : c.run s = .ok (report, s')) (p : Provenance) :
    ∃ e, Export.ofRun c p report = .ok e ∧ e.report = report ∧
      e.Consistent s.journal.toList s'.journal.toList := by
  obtain ⟨entries, hentered, houtput, herrors⟩ := entered_of_run h
  obtain ⟨stages, hcourse, hresults, hskipped⟩ := course_of_run h
  have haccounts := accounts_of_course hcourse hresults hskipped
  have hkinds : entries.map (·.result.kind) = report.results.map (·.kind) := by
    rw [hentered.results_eq, List.map_map]
    rfl
  have hcomparison := Except.ok.inj
    ((ofResults_of_run h).symm.trans (hentered.ofResults_eq c.groupSize c.divisor))
  refine ⟨_, hentered.ofRun_eq c p, rfl, ?_⟩
  exact {
    patterns_eq := rfl
    skipped_eq := rfl
    skipped_kind_eq := fun _ _ => rfl
    exactly_one := by
      intro kind
      rw [hkinds]
      exact haccounts.exactly_one kind
    patterns_in_order := hkinds ▸ haccounts.results_in_order
    skipped_in_order := haccounts.skipped_in_order
    coherent := fun entry hentry => PatternEntry.coherent (hentered.statistics_eq entry hentry)
    comparison_eq := rfl
    groupedScan_eq := congrArg Comparison.groupedScanMs hcomparison
    singlesScan_eq := congrArg Comparison.singlesScanMs hcomparison
    largeSequential_eq := congrArg Comparison.groupedLargeSequentialMs hcomparison
    singleSequential_eq := congrArg Comparison.singlesSequentialMs hcomparison
    output_eq := by
      intro color
      rw [houtput, Console.printed_append, Console.printed_results]
    errors_eq := by
      intro color
      rw [herrors, List.map_append, List.map_map]
      exact congrArg _ (List.map_congr_left fun s _ => Console.render_skipLine color s.kind _)
    summary_eq := hentered.printed_summary haccounts.results_in_order }

/-- The first read fails. Its pattern is skipped, and the outputs agree on the other four. -/
theorem run_consistent_failed_read :
    let c : Settings := { path := "plots", groupSize := 1, scanElements := 524288 }
    let s : Session FaultyStore ScriptedOffsets :=
      ⟨{ store := { data := .counting 3145728 }, faults := [⟨.read, 1, .interrupted⟩] },
        ⟨#[7], 0⟩, #[]⟩
    ∃ report s' e, c.run s = .ok (report, s') ∧ Export.ofRun c ⟨"", ""⟩ report = .ok e ∧
      e.report.skipped.map (·.kind) = [.groupedScan] ∧
      e.Consistent s.journal.toList s'.journal.toList := by
  intro c s
  have hread : (c.run s).map (·.1.skipped.map (·.kind)) = .ok [.groupedScan] := by decide +kernel
  obtain ⟨⟨report, s'⟩, hrun, hskipped⟩ := map_eq_ok_iff.1 hread
  obtain ⟨e, hexport, rfl, hconsistent⟩ := run_consistent hrun ⟨"", ""⟩
  exact ⟨e.report, s', e, hrun, hexport, hskipped, hconsistent⟩

end Settings
end ScanLatency
