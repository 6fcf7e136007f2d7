import ScanLatency.Program
import ScanLatency.Proofs.Coldness
import ScanLatency.Proofs.Consistency
import ScanLatency.Proofs.Writes

/-! The exit code of the program. Settings that pass no check and a target that does not open each
end it at once, with a code of their own and nothing of a later stage. A run that returns is always
reported on, whatever became of its patterns; after that nothing can fail but the export, which may
leave a part of the report behind. -/
namespace ScanLatency
open Console

namespace Program

def exportNote (c : Settings) (exitCode : ℕ) : String :=
  match c.json with
  | some path => if exitCode = Outcome.success then s!"Results exported to: {path}\n" else ""
  | none => ""

/-- What the program leaves behind after a run that returned. -/
structure Reported (i : Invocation) (c : Settings) (r : RunReport) (journal : List Event)
    (o : Outcome) : Prop where
  /-- The lines of the patterns and the summary are printed, whatever becomes of the export. -/
  output_eq : ∃ entries, r.Entered entries ∧ o.output =
    printed c.color (openingLines c r.fileSize ++ journal.filterMap outputLine) ++
      inLines (summaryTexts c.color (entries.filterMap (·.row?)) r.comparison) ++
      exportNote c o.exitCode
  exitCode_eq : o.exitCode = Outcome.success ∨ o.exitCode = Outcome.failed
  failed_iff : o.exitCode = Outcome.failed ↔ ∃ path e failure, c.json = some path ∧
    Export.ofRun c i.provenance r = .ok e ∧ i.files.write path e.bytes = .error failure
  unchanged : c.json = none → o.files = i.files
  written : ∀ path, c.json = some path → ∃ e, Export.ofRun c i.provenance r = .ok e ∧
    o.files = i.files.afterWrite path e.bytes

variable {i : Invocation} {c : Settings} {r : RunReport} {journal : List Event}

theorem output_exportTo (i : Invocation) (c : Settings) (e : Export) :
    (exportTo i c e).output = exportNote c (exportTo i c e).exitCode := by
  unfold exportTo exportNote
  cases c.json with
  | none => rfl
  | some path => cases hwrite : i.files.write path e.bytes <;> simp only [hwrite] <;> rfl

theorem exitCode_exportTo (i : Invocation) (c : Settings) (e : Export) :
    (exportTo i c e).exitCode = Outcome.success ∨ (exportTo i c e).exitCode = Outcome.failed := by
  unfold exportTo
  cases c.json with
  | none => exact .inl rfl
  | some path =>
    cases hwrite : i.files.write path e.bytes with
    | ok after => exact .inl (by simp only [hwrite])
    | error failure => exact .inr (by simp only [hwrite])

theorem exitCode_exportTo_eq_failed_iff (i : Invocation) (c : Settings) (e : Export) :
    (exportTo i c e).exitCode = Outcome.failed ↔
      ∃ path failure, c.json = some path ∧ i.files.write path e.bytes = .error failure := by
  unfold exportTo
  cases c.json with
  | none => simp
  | some path => cases hwrite : i.files.write path e.bytes <;> simp [hwrite]

theorem files_exportTo (i : Invocation) (c : Settings) (e : Export) :
    (exportTo i c e).files = c.json.elim i.files (i.files.afterWrite · e.bytes) := by
  unfold exportTo
  cases c.json with
  | none => rfl
  | some path =>
    simp only [Option.elim, FileSystem.afterWrite]
    cases hwrite : i.files.write path e.bytes <;> rfl

/-- A report with entries is finished: its summary is printed and its export made. -/
theorem finish_reported {entries : List PatternEntry} (hentered : r.Entered entries)
    (hordered : (r.results.map (·.kind)).Sublist PatternKind.all) :
    ∃ o, finish i c r journal = .ok o ∧ Reported i c r journal o := by
  let e : Export := ⟨c, i.provenance, r, entries⟩
  have hexport : Export.ofRun c i.provenance r = .ok e := hentered.ofRun_eq c i.provenance
  obtain ⟨lines, hlines, hprinted⟩ := hentered.printed_summary hordered c.color
  refine ⟨_, by rw [finish, hlines, hexport]; rfl, ?_⟩
  exact {
    output_eq := by
      refine ⟨entries, hentered, ?_⟩
      simp only [printed_append, hprinted, output_exportTo]
    exitCode_eq := exitCode_exportTo i c e
    failed_iff := by
      rw [exitCode_exportTo_eq_failed_iff]
      simp [hexport]
    unchanged := fun hnone => by rw [files_exportTo, hnone]; rfl
    written := fun path hpath => ⟨e, hexport, by rw [files_exportTo, hpath]; rfl⟩ }

end Program

namespace Settings

/-- Whatever a device did to a run that returned, the run is reported on. -/
theorem reported_of_run {δ ο : Type} [Device δ] [OffsetSource ο] {c : Settings}
    {s s' : Session δ ο} {r : RunReport} (h : c.run s = .ok (r, s')) (i : Invocation)
    (seed : Option UInt64) (cacheDisabled : Bool) :
    ∃ o, Program.finish i c { r with seed, cacheDisabled } s'.journal.toList = .ok o ∧
      Program.Reported i c { r with seed, cacheDisabled } s'.journal.toList o := by
  obtain ⟨entries, hentered, _, _⟩ := entered_of_run h
  obtain ⟨stages, hcourse, hresults, hskipped⟩ := course_of_run h
  have haccounts := accounts_of_course hcourse hresults hskipped
  exact Program.finish_reported ⟨hentered.results_eq, hentered.statistics_eq⟩
    haccounts.results_in_order

end Settings

namespace Program

/-- A benchmark ends with a target that does not open, or aborts with its run, or reports on it. -/
theorem benchmark_cases (i : Invocation) (c : Settings) :
    (∃ cause, i.files.openTarget c.path = .error cause ∧ benchmark i c = {
      exitCode := Outcome.refused
      errors := [.line (Line.plain cause.message)]
      files := i.files }) ∨
    (∃ abort, c.runFile i.files i.readings i.fresh = .ok (.error abort) ∧
      (benchmark i c).exitCode = Outcome.aborted ∧ (benchmark i c).files = i.files) ∨
    ∃ r s, c.runFile i.files i.readings i.fresh = .ok (.ok (r, s)) ∧
      Reported i c r s.journal.toList (benchmark i c) := by
  unfold benchmark
  cases hended : c.runFile i.files i.readings i.fresh with
  | error cause =>
    refine .inl ⟨cause, ?_, rfl⟩
    cases hopen : i.files.openTarget c.path <;> rw [Settings.runFile, hopen] at hended <;> cases hended
    rfl
  | ok ended =>
    cases ended with
    | error abort => exact .inr (.inl ⟨abort, rfl, rfl, rfl⟩)
    | ok pair =>
      obtain ⟨r, s⟩ := pair
      obtain ⟨_, inner, _, hrun, hreport⟩ := Settings.run_of_runFile hended
      obtain ⟨o, hfinish, hreported⟩ : ∃ o, finish i c r s.journal.toList = .ok o ∧
          Reported i c r s.journal.toList o := by
        rw [hreport]
        exact Settings.reported_of_run hrun i _ _
      refine .inr (.inr ⟨r, s, rfl, ?_⟩)
      simp only [Except.bind, hfinish]
      exact hreported

end Program

/-- How the program ends. Rejected settings end it with one code, whatever the files are; a target
that does not open ends it with another, before anything is printed. Otherwise, unless the run
aborts, the summary is printed, and the program fails exactly if it cannot write the report. -/
theorem Invocation.exit_contract {i : Invocation} {given : CommandLine.Given}
    (hparse : CommandLine.parse i.environment.get? i.arguments = .ok given) :
    (∀ cause, given.settings i.environment = .error cause → ∀ files readings fresh,
      ({ i with files, readings, fresh } : Invocation).run = {
        exitCode := Outcome.failed
        errors := Program.failureLines "Failed to create benchmark config" cause.message
        files }) ∧
    ∀ c, given.settings i.environment = .ok c →
      (∀ cause, i.files.openTarget c.path = .error cause → ∀ readings fresh,
        ({ i with readings, fresh } : Invocation).run = {
          exitCode := Outcome.refused
          errors := [.line (Line.plain cause.message)]
          files := i.files }) ∧
      (∀ file, i.files.openTarget c.path = .ok file →
        (∃ abort, c.runFile i.files i.readings i.fresh = .ok (.error abort) ∧
          i.run.exitCode = Outcome.aborted ∧ i.run.files = i.files) ∨
        ∃ r s, c.runFile i.files i.readings i.fresh = .ok (.ok (r, s)) ∧
          Program.Reported i c r s.journal.toList i.run) ∧
      ∀ (δ ο : Type) [Device δ] [OffsetSource ο] (s s' : Session δ ο) (r : RunReport),
        c.run s = .ok (r, s') → ∀ seed cacheDisabled, ∃ o,
          Program.finish i c { r with seed, cacheDisabled } s'.journal.toList = .ok o ∧
          Program.Reported i c { r with seed, cacheDisabled } s'.journal.toList o := by
  refine ⟨?_, fun c hsettings => ⟨?_, ?_, ?_⟩⟩
  · intro cause hrejected files readings fresh
    simp only [run, hparse, hrejected]
  · intro cause hclosed readings fresh
    simp only [run, hparse, hsettings, Program.benchmark, Settings.runFile, hclosed, Except.map]
  · intro file hopen
    have hrun : i.run = Program.benchmark i c := by simp only [run, hparse, hsettings]
    rw [hrun]
    refine (Program.benchmark_cases i c).resolve_left ?_
    rintro ⟨cause, hclosed, -⟩
    cases hopen.symm.trans hclosed
  · intro δ ο _ _ s s' r h
    exact Settings.reported_of_run h i

/-- An empty group, a target that is not there, a report that cannot be written, and one that can.
The file is too small for any pattern, so that the last two runs skip all of them. -/
theorem Invocation.exit_contract_four_runs :
    let i (arguments : List String) : Invocation :=
      { arguments := "--seed" :: "1" :: arguments
        files := .ofFiles [(["plots"], { kind := .regular (.counting 10) })] }
    let parsed (arguments : List String) :=
      CommandLine.parse (i arguments).environment.get? (i arguments).arguments
    let given : CommandLine.Given := { file := some "plots", seed := some 1 }
    (parsed ["plots", "-n", "0"] = .ok { given with groupSize := some 0 } ∧
      (i ["plots", "-n", "0"]).run.exitCode = Outcome.failed ∧
      (i ["plots", "-n", "0"]).run.output = "") ∧
    (parsed ["none"] = .ok { given with file := some "none" } ∧
      (i ["none"]).run.exitCode = Outcome.refused ∧ (i ["none"]).run.output = "") ∧
    (parsed ["plots", "--json", "none/report"] = .ok { given with json := some "none/report" } ∧
      (i ["plots", "--json", "none/report"]).run.exitCode = Outcome.failed ∧
      ∃ before, (i ["plots", "--json", "none/report"]).run.output = before ++
        inLines (summaryTexts false [] (.ofTotals 64 32 0 0 0 0))) ∧
    parsed ["plots", "--json", "report"] = .ok { given with json := some "report" } ∧
      (i ["plots", "--json", "report"]).run.exitCode = Outcome.success := by
  intro i parsed given
  refine ⟨?_, ?_, ?_, by decide +kernel, by decide +kernel⟩
  · have hparse : parsed ["plots", "-n", "0"] = .ok { given with groupSize := some 0 } := by
      decide +kernel
    have hrejected : ({ given with groupSize := some 0 } : CommandLine.Given).settings {} =
        .error .groupSize := by decide +kernel
    have hrun := (exit_contract hparse).1 _ hrejected (i []).files (fun _ => 0) 0
    exact ⟨hparse, congrArg Outcome.exitCode hrun, congrArg Outcome.output hrun⟩
  · have hparse : parsed ["none"] = .ok { given with file := some "none" } := by decide +kernel
    have hsettings : ({ given with file := some "none" } : CommandLine.Given).settings {} =
        .ok { path := "none", seed := some 1 } := by decide +kernel
    obtain ⟨cause, hclosed⟩ : ∃ cause, (i ["none"]).files.openTarget "none" = .error cause :=
      ⟨_, rfl⟩
    have hrun := ((exit_contract hparse).2 _ hsettings).1 cause hclosed (fun _ => 0) 0
    exact ⟨hparse, congrArg Outcome.exitCode hrun, congrArg Outcome.output hrun⟩
  · let c : Settings := { path := "plots", seed := some 1, json := some "none/report" }
    have hparse : parsed ["plots", "--json", "none/report"] =
        .ok { given with json := some "none/report" } := by decide +kernel
    have hsettings : ({ given with json := some "none/report" } : CommandLine.Given).settings {} =
        .ok c := by decide +kernel
    have hcode : (i ["plots", "--json", "none/report"]).run.exitCode = Outcome.failed := by
      decide +kernel
    have hread : (c.runFile (i []).files (fun _ => 0) 0).map
        (·.map fun ended => (ended.1.results, ended.1.comparison)) =
          .ok (.ok ([], .ofTotals 64 32 0 0 0 0)) := by decide +kernel
    obtain ⟨file, hopen⟩ : ∃ file, (i []).files.openTarget c.path = .ok file := by
      cases hopen : (i []).files.openTarget c.path with
      | error cause =>
        rw [Settings.runFile, hopen] at hread
        cases hread
      | ok file => exact ⟨file, rfl⟩
    rcases ((exit_contract hparse).2 c hsettings).2.1 file hopen with
      ⟨_, _, haborted, _⟩ | ⟨r, s, hran, hreported⟩
    · exact absurd (haborted.symm.trans hcode) (by decide)
    · obtain ⟨entries, hentered, houtput⟩ := hreported.output_eq
      rw [show c.runFile (i []).files (fun _ => 0) 0 = .ok (.ok (r, s)) from hran] at hread
      obtain ⟨hresults, hcomparison⟩ := Prod.mk.inj (Except.ok.inj (Except.ok.inj hread))
      obtain rfl : entries = [] := List.map_eq_nil_iff.1 (hentered.results_eq.symm.trans hresults)
      have hnote : Program.exportNote c Outcome.failed = "" := rfl
      have hrows : r.comparison = .ofTotals 64 32 0 0 0 0 := hcomparison
      rw [hcode, hnote, String.append_empty, hrows] at houtput
      exact ⟨hparse, hcode, _, houtput⟩

end ScanLatency
