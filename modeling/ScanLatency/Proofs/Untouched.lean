import ScanLatency.Proofs.ExitCode

/-! What a run of the program does to files. It writes nothing but the report that it exports, to the
one file that the path of the report leads to, through whatever links and under whatever name. Nothing
keeps that file apart from the one that was measured: if they are one, it has lost its bytes to the
report, and even to one that could not be written to its end. -/
namespace ScanLatency

theorem Bytes.get_ofArray_append (first rest : ByteArray) {k : ℕ} (h : k < first.size) :
    (ofArray (first ++ rest)).get k = first[k] := by
  have hk : k < (first ++ rest).size := by
    rw [ByteArray.size_append]
    omega
  show (if h : k < (first ++ rest).size then (first ++ rest)[k] else 0) = first[k]
  rw [dif_pos hk]
  exact ByteArray.getElem_append_left h

/-- An exported report begins with a brace. -/
theorem Export.get_zero_bytes (e : Export) : e.bytes.get 0 = 0x7b := by
  have htext : ∃ rest : String, e.text = "\x7b" ++ rest := by
    unfold text toJson Json.pretty Json.bracketed
    split
    · exact ⟨_, rfl⟩
    · simp only [String.append_assoc]
      exact ⟨_, rfl⟩
  obtain ⟨rest, htext⟩ := htext
  have hbytes : e.text.toUTF8 = "\x7b".toUTF8 ++ rest.toUTF8 := by
    rw [htext]
    exact String.toByteArray_append
  have hone : 0 < "\x7b".toUTF8.size := by decide
  rw [bytes, hbytes, Bytes.get_ofArray_append _ _ hone]
  rfl

/-- The settings that the arguments and the environment make, if they pass all checks. -/
def Invocation.settings? (i : Invocation) : Option Settings :=
  match CommandLine.parse i.environment.get? i.arguments with
  | .error _ => none
  | .ok given => (given.settings i.environment).toOption

/-- The path of the report, if there is one, leads to no name of the file at a place. -/
def Settings.Apart (c : Settings) (fs : FileSystem) (place : Place) : Prop :=
  ∀ path destination, c.json = some path → fs.destination path = .ok destination →
    ¬fs.Shared destination place

namespace Invocation

variable {i : Invocation} {c : Settings}

theorem run_eq (h : i.settings? = some c) : i.run = Program.benchmark i c := by
  unfold settings? at h
  unfold run
  cases hparse : CommandLine.parse i.environment.get? i.arguments with
  | error reason =>
    rw [hparse] at h
    cases h
  | ok given =>
    simp only [hparse] at h ⊢
    cases hsettings : given.settings i.environment with
    | error cause =>
      rw [hsettings] at h
      cases h
    | ok c' =>
      rw [hsettings] at h
      cases h
      rfl

/-- All that a run does to files is to write its report, once it has returned. -/
theorem files_run (h : i.settings? = some c) :
    i.run.files = i.files ∨ ∃ path e r s, c.json = some path ∧
      c.runFile i.files i.readings i.fresh = .ok (.ok (r, s)) ∧
      i.run.files = i.files.afterWrite path (Export.bytes e) := by
  rw [run_eq h]
  rcases Program.benchmark_cases i c with
    ⟨_, _, hrefused⟩ | ⟨_, _, _, hfiles⟩ | ⟨r, s, hran, hreported⟩
  · exact .inl (congrArg Outcome.files hrefused)
  · exact .inl hfiles
  · cases hpath : c.json with
    | none => exact .inl (hreported.unchanged hpath)
    | some path =>
      obtain ⟨e, _, hfiles⟩ := hreported.written path hpath
      exact .inr ⟨path, e, r, s, rfl, hran, hfiles⟩

theorem fileAt_run (h : i.settings? = some c) {place : Place} (hapart : c.Apart i.files place) :
    i.run.files.fileAt place = i.files.fileAt place := by
  rcases files_run h with hsame | ⟨path, e, _, _, hpath, _, hafter⟩
  · rw [hsame]
  · rw [hafter]
    exact FileSystem.fileAt_afterWrite_of_apart fun destination => hapart path destination hpath

theorem openFile_run (h : i.settings? = some c) {name : String} {place : Place}
    (hresolve : i.files.resolve name = .ok place) (hapart : c.Apart i.files place) :
    i.run.files.openFile name = i.files.openFile name := by
  rcases files_run h with hsame | ⟨path, e, _, _, hpath, _, hafter⟩
  · rw [hsame]
  · rw [hafter]
    exact FileSystem.openFile_afterWrite_of_apart hresolve fun destination =>
      hapart path destination hpath

/-- What a run that has returned makes of the file that the path of the report leads to. -/
theorem overwritten_run (h : i.settings? = some c) {path : String} (hpath : c.json = some path)
    {destination place : Place} (hdestination : i.files.destination path = .ok destination)
    (hshared : i.files.Shared destination place) {file : File}
    (hfile : i.files.fileAt place = some file) {r : RunReport} {s : FileSession}
    (hran : c.runFile i.files i.readings i.fresh = .ok (.ok (r, s))) :
    (file.overwriteRefusal ≠ none →
      i.run.exitCode = Outcome.failed ∧ i.run.files = i.files) ∧
    (file.overwriteRefusal = none → ∃ e, Export.ofRun c i.provenance r = .ok e ∧
      i.run.files.fileAt place = some (file.holding (file.accepted e.bytes)) ∧
      (i.run.exitCode = Outcome.success ↔ file.shortfall e.bytes = none)) := by
  have hreported : Program.Reported i c r s.journal.toList i.run := by
    rw [run_eq h]
    rcases Program.benchmark_cases i c with ⟨_, hclosed, _⟩ | ⟨_, haborted, _⟩ | ⟨r', s', hran', hr'⟩
    · rw [Settings.runFile, hclosed] at hran
      cases hran
    · cases hran.symm.trans haborted
    · cases hran.symm.trans hran'
      exact hr'
  obtain ⟨e, hexport, hafter⟩ := hreported.written path hpath
  have hfate : i.files.Overwritten path e.bytes place file :=
    FileSystem.overwritten_of_shared hdestination hshared hfile
  have hfailed : i.run.exitCode = Outcome.failed ↔
      ∃ failure, i.files.write path e.bytes = .error failure := by
    rw [hreported.failed_iff]
    simp [hpath, hexport]
  refine ⟨fun hrefused => ?_, fun hopens => ⟨e, hexport, ?_, ?_⟩⟩
  · obtain ⟨refusal, hrefusal⟩ := Option.ne_none_iff_exists'.1 hrefused
    have hwrite := hfate.refused refusal hrefusal
    refine ⟨hfailed.2 ⟨_, hwrite⟩, ?_⟩
    rw [hafter, FileSystem.afterWrite, hwrite]
    rfl
  · rw [hafter]
    exact hfate.replaced hopens
  · rw [← hfate.returned_iff hopens]
    cases hwrite : i.files.write path e.bytes with
    | ok after =>
      have hnot : i.run.exitCode ≠ Outcome.failed := fun hcode => by
        obtain ⟨_, hfailure⟩ := hfailed.1 hcode
        cases hwrite.symm.trans hfailure
      exact iff_of_true (hreported.exitCode_eq.resolve_right hnot) ⟨after, rfl⟩
    | error failure =>
      rw [hfailed.2 ⟨failure, hwrite⟩]
      exact iff_of_false Nat.one_ne_zero (by simp)

/-- The program leaves every file as it was but the one that the path of the report leads to, and so
the file that it measures, which opens as before. If the report goes to the measured file, by whatever
name, and the system lets it be written at all, that file holds the report instead of its bytes, or as
much of it as the system took. -/
theorem run_target (hsettings : i.settings? = some c) :
    (∀ place, c.Apart i.files place → i.run.files.fileAt place = i.files.fileAt place) ∧
    (∀ target, i.files.resolve c.path = .ok target → c.Apart i.files target →
      i.run.files.openFile c.path = i.files.openFile c.path) ∧
    ((c.json = none ∨ ∀ r s, c.runFile i.files i.readings i.fresh ≠ .ok (.ok (r, s))) →
      i.run.files = i.files) ∧
    ∀ target file data path destination r s, i.files.resolve c.path = .ok target →
      i.files.fileAt target = some file → file.kind = .regular data → c.json = some path →
      i.files.destination path = .ok destination → i.files.Shared destination target →
      c.runFile i.files i.readings i.fresh = .ok (.ok (r, s)) →
      (file.writeRefusal ≠ none → i.run.exitCode = Outcome.failed ∧ i.run.files = i.files) ∧
      (file.writeRefusal = none → ∃ e written, Export.ofRun c i.provenance r = .ok e ∧
        i.run.files.fileAt target = some written ∧
        written.kind = .regular (file.accepted e.bytes) ∧
        (i.run.exitCode = Outcome.success ↔ file.accepted e.bytes = e.bytes)) := by
  refine ⟨fun place => fileAt_run hsettings, fun target => openFile_run hsettings, ?_, ?_⟩
  · intro h
    rcases files_run hsettings with hsame | ⟨path, e, r, s, hpath, hran, _⟩
    · exact hsame
    · rcases h with hnone | hnever
      · cases hpath.symm.trans hnone
      · exact absurd hran (hnever r s)
  · intro target file data path destination r s _ hfile hregular hpath hdestination hshared hran
    have hrefusal : file.overwriteRefusal = file.writeRefusal := by
      rw [File.overwriteRefusal, hregular]
      rfl
    obtain ⟨hrefused, hopened⟩ := overwritten_run hsettings hpath hdestination hshared hfile hran
    rw [hrefusal] at hrefused hopened
    refine ⟨hrefused, fun hopens => ?_⟩
    obtain ⟨e, hexport, hwritten, hdone⟩ := hopened hopens
    refine ⟨e, _, hexport, hwritten, ?_, hdone.trans (file.shortfall_eq_none_iff e.bytes)⟩
    rw [File.holding, hregular]

/-- The report goes next to the measured file, into a directory that is not there, and over the
measured file: by its name, by another name, and along a link, each time with room for it and on a
full disk. -/
theorem run_target_five_paths :
    let bytes : Bytes := .tiled "0123456789ABCDEF".toUTF8 10
    let file (limit : Option WriteLimit) : File := { kind := .regular bytes, writeLimit := limit }
    let full : Option WriteLimit := some ⟨0, 28⟩
    let i (limit : Option WriteLimit) (path : String) : Invocation :=
      { arguments := ["plots", "--seed", "1", "--json", path]
        files :=
          { entries := [(["plots"], .file 0), (["twin"], .file 0),
              (["latest"], .link (.ofString "./plots"))]
            files := fun _ => file limit } }
    let c (path : String) : Settings := { path := "plots", seed := some 1, json := some path }
    (∀ limit ∈ [none, full], ∀ path ∈ ["report", "none/report"],
      (i limit path).settings? = some (c path) ∧ (c path).Apart (i limit path).files ["plots"] ∧
      (i limit path).run.files.openFile "plots" = (i limit path).files.openFile "plots") ∧
    ∀ limit ∈ [none, full], ∀ path ∈ ["plots", "twin", "latest"],
      (i limit path).settings? = some (c path) ∧
      ∃ destination e written, (i limit path).files.destination path = .ok destination ∧
        (i limit path).files.Shared destination ["plots"] ∧
        (i limit path).run.files.fileAt ["plots"] = some written ∧
        written.kind = .regular ((file limit).accepted (Export.bytes e)) := by
  intro bytes file full i c
  refine ⟨fun limit hlimit path hpath => ?_, fun limit hlimit path hpath => ?_⟩
  · have hreads : ∀ limit ∈ [none, full], ∀ path ∈ ["report", "none/report"],
        (i limit path).settings? = some (c path) ∧
        (i limit path).files.resolve "plots" = .ok ["plots"] ∧
        (i limit path).files.destination path ∈ [.ok ["report"], .error (.system 2)] := by
      decide +kernel
    obtain ⟨hsettings, hresolve, hplace⟩ := hreads limit hlimit path hpath
    have hapart : (c path).Apart (i limit path).files ["plots"] := by
      rintro _ destination ⟨⟩ hdestination hshared
      rw [hdestination] at hplace
      obtain rfl : destination = ["report"] := by simpa using hplace
      rcases hshared with hsame | ⟨number, hentry, -⟩
      · exact absurd hsame (by decide)
      · cases hentry
    exact ⟨hsettings, hapart, (run_target hsettings).2.1 _ hresolve hapart⟩
  · have hreads : ∀ limit ∈ [none, full], ∀ path ∈ ["plots", "twin", "latest"],
        (i limit path).settings? = some (c path) ∧
        (i limit path).files.resolve "plots" = .ok ["plots"] ∧
        (∃ destination ∈ [["plots"], ["twin"]],
          (i limit path).files.destination path = .ok destination) ∧
        ((c path).runFile (i limit path).files (fun _ => 0) 0).map (·.map fun _ => ()) =
          .ok (.ok ()) := by decide +kernel
    obtain ⟨hsettings, hresolve, ⟨destination, hplace, hdestination⟩, hread⟩ :=
      hreads limit hlimit path hpath
    obtain ⟨ended, hended, hread⟩ := map_eq_ok_iff.1 hread
    obtain ⟨⟨r, s⟩, rfl, -⟩ := map_eq_ok_iff.1 hread
    have hshared : (i limit path).files.Shared destination ["plots"] := by
      rcases List.mem_pair.1 hplace with rfl | rfl
      · exact .inl rfl
      · exact .inr ⟨0, rfl, rfl⟩
    obtain ⟨e, written, _, hwritten, hkind, _⟩ := ((run_target hsettings).2.2.2 _ (file limit) _ _
      destination r s hresolve rfl rfl rfl hdestination hshared hended).2 rfl
    exact ⟨hsettings, destination, e, written, hdestination, hshared, hwritten, hkind⟩

/-- The measured file began with a digit. After a run that is to export its report there, it begins
with the brace of the report. -/
theorem run_overwrites_target :
    let i : Invocation :=
      { arguments := ["plots", "--seed", "1", "--json", "plots"]
        files := .ofFiles [(["plots"], { kind := .regular (.tiled "0123456789ABCDEF".toUTF8 10) })] }
    ∃ c target before after data data', i.settings? = some c ∧
      i.files.resolve c.path = .ok target ∧
      i.files.fileAt target = some before ∧ before.kind = .regular data ∧ data.get 0 = 48 ∧
      i.run.files.fileAt target = some after ∧ after.kind = .regular data' ∧ data'.get 0 = 123 := by
  intro i
  let c : Settings := { path := "plots", seed := some 1, json := some "plots" }
  have hsettings : i.settings? = some c := by decide +kernel
  have hresolve : i.files.resolve c.path = .ok ["plots"] := by decide +kernel
  have hdestination : i.files.destination "plots" = .ok ["plots"] := by decide +kernel
  have hread : (c.runFile i.files (fun _ => 0) 0).map (·.map fun _ => ()) = .ok (.ok ()) := by
    decide +kernel
  obtain ⟨ended, hended, hread⟩ := map_eq_ok_iff.1 hread
  obtain ⟨⟨r, s⟩, rfl, -⟩ := map_eq_ok_iff.1 hread
  obtain ⟨e, _, hwritten, _⟩ :=
    (overwritten_run hsettings rfl hdestination (.inl rfl) rfl hended).2 rfl
  exact ⟨c, _, _, _, _, _, hsettings, hresolve, rfl, rfl, by decide, hwritten, rfl,
    e.get_zero_bytes⟩

end Invocation
end ScanLatency
