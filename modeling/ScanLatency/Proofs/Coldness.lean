import ScanLatency.FileRun
import ScanLatency.Proofs.CacheDrops

/-! What a report says about the cache. The flag of a report is set before the first pattern, by the
rule that one accepted piece of advice out of two will do. The drops before the attempts may still
be refused, and a refusal shows in the log alone: a run is cold throughout just when it has not
warned. -/
namespace ScanLatency

/-- The device is asked to drop its cache right before the pattern, and does. -/
def Attempt.Chilled {δ ο : Type} [Device δ] (a : Attempt (Watched δ) (Logged ο)) : Prop :=
  a.found.plain.dropCalls a.keepCold = [.dropCache (.ok ())]

theorem Watched.calls_isPrefix {δ : Type} [Device δ] {w w' : Watched δ}
    (h : Device.Reaches w w') : w.calls.toList <+: w'.calls.toList := by
  induction h with
  | refl => exact List.prefix_rfl
  | now _ ih => exact ih
  | seek offset _ ih => exact ih.trans ⟨_, Array.toList_push.symm⟩
  | read length _ ih => exact ih.trans ⟨_, Array.toList_push.symm⟩
  | dropCache _ ih => exact ih.trans ⟨_, Array.toList_push.symm⟩

namespace Attempt

variable {δ ο : Type} [Device δ] [OffsetSource ο] {noCache : Bool} {p : Pattern}
  {a : Attempt (Watched δ) (Logged ο)}

theorem Chilled.refusals_calls (h : a.Chilled) (p : Pattern) :
    (a.calls p).filterMap (·.refusal?) = [] := by
  rw [calls, Session.attemptCalls, h, List.filterMap_append, Session.refusals_patternCalls]
  rfl

/-- Where dropping was asked for and nothing was refused before or in it, an attempt is chilled. -/
theorem Disciplined.chilled (h : a.Disciplined true p) (hbefore : a.found.refusals = [])
    (hduring : (a.calls p).filterMap (·.refusal?) = []) : a.Chilled := by
  have hkeep : a.keepCold = true := by
    rw [h.cold.keepCold_eq, hbefore]
    rfl
  rw [calls, Session.attemptCalls, List.filterMap_append] at hduring
  have hdrop := (List.append_eq_nil_iff.1 hduring).1
  unfold Chilled
  unfold Session.dropCalls at hdrop ⊢
  rw [hkeep] at hdrop ⊢
  cases houtcome : (Device.dropCache a.found.plain.device).1 with
  | ok => rfl
  | error cause =>
    rw [houtcome] at hdrop
    cases hdrop

end Attempt

namespace Session

variable {δ ο : Type} [Device δ] [OffsetSource ο]

theorem Repeats.reaches_of_mem {planned : PlannedPattern} {n number : ℕ}
    {keepCold keepCold' : Bool} {attempts : List (Attempt δ ο)} {s s' : Session δ ο}
    (h : Repeats planned n number keepCold s attempts keepCold' s') :
    ∀ a ∈ attempts, Device.Reaches a.found.device s'.device := by
  induction h with
  | done => nofun
  | kept made tail ih => exact List.forall_mem_cons.2 ⟨made.reaches.trans tail.reaches, ih⟩
  | failed made => exact List.forall_mem_singleton.2 made.reaches

theorem Course.reaches_of_mem {iterations : ℕ} {plans : List PlannedPattern} {keepCold : Bool}
    {stages : List (Stage δ ο)} {s s' : Session δ ο}
    (h : Course iterations plans keepCold s stages s') :
    ∀ st ∈ stages, ∀ a ∈ st.attempts, Device.Reaches a.found.device s'.device := by
  induction h with
  | done => nofun
  | stage repeats tail ih =>
    refine List.forall_mem_cons.2 ⟨fun a ha => ?_, ih⟩
    exact (repeats.reaches_of_mem a ha).trans tail.reaches

/-- Where dropping is asked for, every attempt of a course is chilled just when no drop of the whole
course has failed. -/
theorem Course.chilled_iff {iterations : ℕ} {plans : List PlannedPattern} {keepCold : Bool}
    {stages : List (Stage (Watched δ) (Logged ο))} {s w : Session (Watched δ) (Logged ο)}
    (h : Course iterations plans keepCold s stages w)
    (hall : ∀ st ∈ stages, ∀ a ∈ st.attempts, a.Disciplined true st.planned.pattern)
    (hcalls : w.device.calls.toList = stages.flatMap (·.calls)) :
    (∀ st ∈ stages, ∀ a ∈ st.attempts, a.Chilled) ↔ w.refusals = [] := by
  have hrefusals : w.refusals = stages.flatMap fun st =>
      st.attempts.flatMap fun a => (a.calls st.planned.pattern).filterMap (·.refusal?) := by
    simp only [refusals, hcalls, Stage.calls, List.filterMap_flatMap]
  constructor
  · intro hchilled
    rw [hrefusals, List.flatMap_eq_nil_iff]
    intro st hst
    rw [List.flatMap_eq_nil_iff]
    exact fun a ha => (hchilled st hst a ha).refusals_calls _
  · intro hnone st hst a ha
    -- What was recorded before the attempt is part of what was recorded in the end.
    have hbefore : a.found.refusals <+: w.refusals :=
      (Watched.calls_isPrefix (h.reaches_of_mem st hst a ha)).filterMap _
    rw [hnone] at hbefore
    rw [hrefusals, List.flatMap_eq_nil_iff] at hnone
    exact (hall st hst a ha).chilled (List.prefix_nil.1 hbefore)
      (List.flatMap_eq_nil_iff.1 (hnone st hst) a ha)

end Session

/-- The attempts of a run that is to keep reads cold are chilled just when no drop fails. -/
theorem Settings.chilled_iff_of_run {δ ο : Type} [Device δ] [OffsetSource ο] {c : Settings}
    {s s' : Session δ ο} {report : RunReport} (hasked : c.noCache = true)
    (h : c.run s = .ok (report, s')) : ∃ w stages,
      c.run s.observed = .ok (report, w) ∧ w.plain = s' ∧
      Session.Course c.iterations.toNat c.layout.suite true (c.opened s.observed) stages w ∧
      w.device.calls.toList = stages.flatMap (·.calls) ∧
      w.refusals.length ≤ 1 ∧ s'.warnings = s.warnings ++ w.refusals ∧
      ((∀ st ∈ stages, ∀ a ∈ st.attempts, a.Chilled) ↔ w.refusals = []) := by
  obtain ⟨w, stages, _, hobserved, rfl, hcourse, _, hall, hcalls, hcold, hwarned⟩ :=
    disciplined_of_run h
  rw [hasked] at hcourse hall
  exact ⟨w, stages, hobserved, rfl, hcourse, hcalls, hcold.refusals_le, hwarned,
    hcourse.chilled_iff hall hcalls⟩

/-! ### Runs on files -/

/-- Advice took effect just when some piece of it was accepted. -/
theorem Advice.isOk_anyTaken {outcomes : List (Except RefusedAdvice Unit)} (h : outcomes ≠ []) :
    (anyTaken outcomes).isOk = outcomes.any (·.isOk) := by
  unfold anyTaken
  split
  next hany => exact hany.symm
  next hany =>
    have hall : ∀ outcome ∈ outcomes, ∃ e, outcome = .error e := by
      intro outcome houtcome
      cases outcome with
      | ok => exact absurd (List.any_eq_true.2 ⟨_, houtcome, rfl⟩) hany
      | error e => exact ⟨e, rfl⟩
    rw [Bool.eq_false_iff.2 hany]
    split
    next => rfl
    next hlast =>
      obtain ⟨first, rest, rfl⟩ := List.exists_cons_of_ne_nil h
      obtain ⟨e, rfl⟩ := hall _ List.mem_cons_self
      simp [refusals] at hlast

namespace Settings

/-- The session in which a run on an open file begins, and whether the cache counts as disabled. -/
def entered (c : Settings) (seed : UInt64) (file : OpenFile) : Bool × FileSession :=
  let s : FileSession := ⟨file, .ofSeed seed, #[]⟩
  let (cacheDisabled, s) := if c.noCache then disableCache c.path s else (false, s)
  (cacheDisabled, s.note (.offsetSeed seed))

/-- The report of a run on an open file adds the seed and the flag to that of the run. -/
theorem runOpen_eq (c : Settings) (seed : UInt64) (file : OpenFile) :
    c.runOpen seed file = (c.run (c.entered seed file).2).map fun (report, s) =>
      ({ report with seed := some seed, cacheDisabled := (c.entered seed file).1 }, s) := by
  unfold runOpen entered
  cases (if c.noCache then disableCache c.path ⟨file, .ofSeed seed, #[]⟩
    else (false, ⟨file, .ofSeed seed, #[]⟩)) with
  | mk cacheDisabled s => cases c.run (s.note (.offsetSeed seed)) <;> rfl

/-- A run on a file that returns has opened the file, entered and gone through the suite. -/
theorem run_of_runFile {c : Settings} {fs : FileSystem} {readings : ℕ → UInt64} {fresh : UInt64}
    {report : RunReport} {s' : FileSession}
    (h : c.runFile fs readings fresh = .ok (.ok (report, s'))) :
    ∃ file inner, fs.openTarget c.path = .ok file ∧
      c.run (c.entered (c.seed.getD fresh) { file with readings }).2 = .ok (inner, s') ∧
      report = { inner with
        seed := some (c.seed.getD fresh)
        cacheDisabled := (c.entered (c.seed.getD fresh) { file with readings }).1 } := by
  unfold runFile at h
  cases hopen : fs.openTarget c.path with
  | error cause =>
    rw [hopen] at h
    cases h
  | ok file =>
    rw [hopen] at h
    have hrun : c.runOpen (c.seed.getD fresh) { file with readings } = .ok (report, s') :=
      Except.ok.inj h
    rw [runOpen_eq] at hrun
    cases hinner : c.run (c.entered (c.seed.getD fresh) { file with readings }).2 with
    | error abort =>
      rw [hinner] at hrun
      cases hrun
    | ok outcome =>
      rw [hinner] at hrun
      cases hrun
      exact ⟨file, outcome.1, rfl, hinner, rfl⟩

/-- The flag does not depend on any drop of the run. -/
theorem entered_fst (c : Settings) (seed : UInt64) (file : OpenFile) :
    (c.entered seed file).1 = (c.noCache && file.disableCache.1.any (·.isOk)) := by
  have hne : file.disableCache.1 ≠ [] := List.cons_ne_nil _ _
  have htaken := Advice.isOk_anyTaken hne
  unfold entered disableCache
  cases c.noCache with
  | false => rfl
  | true =>
    rw [Bool.true_and, ← htaken]
    simp only [if_pos]
    split
    next heq => rw [heq]; rfl
    next heq => rw [heq]; rfl

theorem warnings_adviceRefused (refusals : List RefusedAdvice) (s : FileSession) :
    (refusals.foldl (fun s e => s.note (.adviceRefused e)) s).warnings = s.warnings := by
  induction refusals generalizing s with
  | nil => rfl
  | cons e rest ih =>
    rw [List.foldl_cons, ih, Session.warnings_note]
    exact List.append_nil _

/-- Disabling the cache has warnings of its own; they are no warnings about drops. -/
theorem warnings_entered (c : Settings) (seed : UInt64) (file : OpenFile) :
    (c.entered seed file).2.warnings = [] := by
  unfold entered disableCache
  rw [Session.warnings_note]
  split
  next =>
    simp only
    split <;> rw [Session.warnings_note, warnings_adviceRefused] <;> rfl
  next => rfl

/-- A report says that the cache was disabled if that was asked for and one of the two pieces of
advice was accepted. Where it says so, every attempt of its run has been chilled just when the run
has not warned of a failed drop, of which there is one at most. -/
theorem runFile_chilled_iff {c : Settings} {fs : FileSystem} {readings : ℕ → UInt64}
    {fresh : UInt64} {report : RunReport} {s' : FileSession}
    (h : c.runFile fs readings fresh = .ok (.ok (report, s'))) :
    ∃ (file : OpenFile) (s : FileSession), fs.openTarget c.path = .ok file ∧
      s = (c.entered (c.seed.getD fresh) { file with readings }).2 ∧
      report.cacheDisabled =
        (c.noCache && ({ file with readings } : OpenFile).disableCache.1.any (·.isOk)) ∧
      (report.cacheDisabled = true → ∃ inner w stages,
        c.run s.observed = .ok (inner, w) ∧ w.plain = s' ∧
        report = { inner with seed := some (c.seed.getD fresh), cacheDisabled := true } ∧
        Session.Course c.iterations.toNat c.layout.suite true (c.opened s.observed) stages w ∧
        w.device.calls.toList = stages.flatMap (·.calls) ∧
        s'.warnings.length ≤ 1 ∧
        ((∀ st ∈ stages, ∀ a ∈ st.attempts, a.Chilled) ↔ s'.warnings = [])) := by
  obtain ⟨file, inner, hopen, hinner, rfl⟩ := run_of_runFile h
  refine ⟨file, _, hopen, rfl, entered_fst c _ _, ?_⟩
  intro hdisabled
  have hflag : (c.entered (c.seed.getD fresh) { file with readings }).1 = true := hdisabled
  have hasked : c.noCache = true := by
    rw [entered_fst] at hflag
    exact (Bool.and_eq_true_iff.1 hflag).1
  obtain ⟨w, stages, hobserved, hplain, hcourse, hcalls, hle, hwarnings, hiff⟩ :=
    chilled_iff_of_run hasked hinner
  rw [warnings_entered, List.nil_append] at hwarnings
  refine ⟨inner, w, stages, hobserved, hplain, ?_, hcourse, hcalls, ?_, ?_⟩
  · rw [hflag]
  · rw [hwarnings]
    exact hle
  · rw [hwarnings]
    exact hiff

/-- A file takes all advice, or refuses the second drop of the run. Both runs report that the cache
was disabled; only the first one is cold throughout. -/
theorem runFile_chilled_iff_second_drop :
    let c : Settings := { path := "plots", groupSize := 1, scanElements := 524288, noCache := true,
                          seed := some 1 }
    let fs (refused : ℕ → Option ℕ) : FileSystem :=
      .ofFiles [(["plots"], { kind := .regular (.counting 3145728), adviceRefusal := refused })]
    (∃ report s', c.runFile (fs fun _ => none) (fun _ => 0) 0 = .ok (.ok (report, s')) ∧
      report.cacheDisabled = true ∧ s'.warnings = [] ∧ ∃ s inner w stages,
        c.run (Session.observed s) = .ok (inner, w) ∧ w.plain = s' ∧
        Session.Course 1 c.layout.suite true (c.opened s.observed) stages w ∧
        ∀ st ∈ stages, ∀ a ∈ st.attempts, a.Chilled) ∧
    ∃ report s', c.runFile (fs fun n => if n = 4 then some 5 else none) (fun _ => 0) 0 =
        .ok (.ok (report, s')) ∧
      report.cacheDisabled = true ∧ s'.warnings = [.refused ⟨.dontNeed, 5⟩] ∧ ∃ s inner w stages,
        c.run (Session.observed s) = .ok (inner, w) ∧ w.plain = s' ∧
        Session.Course 1 c.layout.suite true (c.opened s.observed) stages w ∧
        ¬∀ st ∈ stages, ∀ a ∈ st.attempts, a.Chilled := by
  intro c fs
  have hread (refused : ℕ → Option ℕ) (warnings : List IoError)
      (h : (c.runFile (fs refused) (fun _ => 0) 0).map (·.map fun ended =>
        (ended.1.cacheDisabled, ended.2.warnings)) = .ok (.ok (true, warnings))) :
      ∃ report s', c.runFile (fs refused) (fun _ => 0) 0 = .ok (.ok (report, s')) ∧
        report.cacheDisabled = true ∧ s'.warnings = warnings := by
    obtain ⟨ended, hended, h⟩ := map_eq_ok_iff.1 h
    obtain ⟨⟨report, s'⟩, rfl, hread⟩ := map_eq_ok_iff.1 h
    obtain ⟨hflag, hwarnings⟩ := Prod.mk.inj hread
    exact ⟨report, s', hended, hflag, hwarnings⟩
  refine ⟨?_, ?_⟩
  · obtain ⟨report, s', hrun, hflag, hwarnings⟩ := hread (fun _ => none) [] (by decide +kernel)
    obtain ⟨_, s, _, _, _, hreported⟩ := runFile_chilled_iff hrun
    obtain ⟨inner, w, stages, hinner, hplain, _, hcourse, _, _, hiff⟩ := hreported hflag
    exact ⟨report, s', hrun, hflag, hwarnings, s, inner, w, stages, hinner, hplain, hcourse,
      hiff.2 hwarnings⟩
  · obtain ⟨report, s', hrun, hflag, hwarnings⟩ := hread (fun n => if n = 4 then some 5 else none)
      [.refused ⟨.dontNeed, 5⟩] (by decide +kernel)
    obtain ⟨_, s, _, _, _, hreported⟩ := runFile_chilled_iff hrun
    obtain ⟨inner, w, stages, hinner, hplain, _, hcourse, _, _, hiff⟩ := hreported hflag
    refine ⟨report, s', hrun, hflag, hwarnings, s, inner, w, stages, hinner, hplain, hcourse, ?_⟩
    intro hchilled
    rw [hiff.1 hchilled] at hwarnings
    cases hwarnings

/-- A file takes the advice against read-ahead and refuses every eviction. Its report says that the
cache was disabled, but the drop before the first attempt failed. -/
theorem runFile_disabled_not_chilled :
    let c : Settings := { path := "plots", groupSize := 1, scanElements := 524288, noCache := true,
                          seed := some 1 }
    let refused : ℕ → Option ℕ := fun n => if 2 ≤ n then some 22 else none
    let fs : FileSystem :=
      .ofFiles [(["plots"], { kind := .regular (.counting 3145728), adviceRefusal := refused })]
    ∃ report s', c.runFile fs (fun _ => 0) 0 = .ok (.ok (report, s')) ∧
      report.cacheDisabled = true ∧ s'.warnings = [.refused ⟨.dontNeed, 22⟩] ∧
      ∃ file s inner w stages, fs.openTarget c.path = .ok file ∧
        s = (c.entered 1 { file with readings := fun _ => 0 }).2 ∧
        c.run (Session.observed s) = .ok (inner, w) ∧ w.plain = s' ∧
        Session.Course 1 c.layout.suite true (c.opened s.observed) stages w ∧
        w.refusals = [.refused ⟨.dontNeed, 22⟩] ∧
        ¬∀ st ∈ stages, ∀ a ∈ st.attempts, a.Chilled := by
  intro c refused fs
  have hread : (c.runFile fs (fun _ => 0) 0).map (·.map fun ended =>
      (ended.1.cacheDisabled, ended.2.warnings)) = .ok (.ok (true, [.refused ⟨.dontNeed, 22⟩])) := by
    decide +kernel
  obtain ⟨ended, hended, h⟩ := map_eq_ok_iff.1 hread
  obtain ⟨⟨report, s'⟩, rfl, hpair⟩ := map_eq_ok_iff.1 h
  obtain ⟨hflag, hwarned⟩ := Prod.mk.inj hpair
  obtain ⟨file, inner, hopen, hinner, _⟩ := run_of_runFile hended
  obtain ⟨w, stages, hobserved, hplain, hcourse, _, _, hwarnings, hiff⟩ :=
    chilled_iff_of_run rfl hinner
  rw [warnings_entered, List.nil_append, hwarned] at hwarnings
  refine ⟨report, s', hended, hflag, hwarned, file, _, inner, w, stages, hopen, rfl, hobserved,
    hplain, hcourse, hwarnings.symm, ?_⟩
  intro hchilled
  rw [hiff.1 hchilled] at hwarnings
  cases hwarnings

end Settings
end ScanLatency
