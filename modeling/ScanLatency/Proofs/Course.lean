import ScanLatency.Proofs.Steadiness

/-! The course of a run: every attempt at every pattern, in order. An attempt starts where the one
before it ended, apart from what the journal gained in between; the attempts at a pattern end with
the first that fails. What a run reports is read off its course. -/
namespace ScanLatency

/-- One attempt at a pattern: whether the cache was still being dropped, the session before it, and
the outcome of the pattern with the session that it left. -/
structure Attempt (δ ο : Type) where
  keepCold : Bool
  found : Session δ ο
  outcome : Except PatternError (Array Sample)
  left : Session δ ο

namespace Attempt

variable {δ ο : Type}

def samples (a : Attempt δ ο) : List Sample :=
  match a.outcome with
  | .ok samples => samples.toList
  | .error _ => []

def failure? (a : Attempt δ ο) : Option PatternError :=
  match a.outcome with
  | .ok _ => none
  | .error cause => some cause

variable [Device δ] [OffsetSource ο]

/-- The attempt deals with the cache and then runs the pattern once. -/
def Made (p : Pattern) (a : Attempt δ ο) : Prop :=
  (a.found.chill a.keepCold).2.run p = (a.outcome.mapError .failed, a.left)

end Attempt

/-- A planned pattern with all attempts at it, and what the journal gained after them. -/
structure Stage (δ ο : Type) where
  planned : PlannedPattern
  attempts : List (Attempt δ ο)
  entries : Array Event

namespace Stage

variable {δ ο : Type}

def samples (st : Stage δ ο) : List Sample := st.attempts.flatMap (·.samples)

def failure? (st : Stage δ ο) : Option PatternError := st.attempts.findSome? (·.failure?)

def result? (fileSize : UInt64) (st : Stage δ ο) : Option PatternResult :=
  match st.failure? with
  | none => some ((PatternResult.ofPlanned st.planned fileSize).extend st.samples.toArray)
  | some _ => none

def skip? (st : Stage δ ο) : Option SkippedPattern := st.failure?.map (⟨st.planned.kind, ·⟩)

end Stage

namespace Session

variable {δ ο : Type} [Device δ] [OffsetSource ο]

/-- The attempts at a pattern, given how many may remain, the number of the next one and whether the
cache is still being dropped. -/
inductive Repeats (planned : PlannedPattern) :
    ℕ → ℕ → Bool → Session δ ο → List (Attempt δ ο) → Bool → Session δ ο → Prop
  | done {number keepCold s} : Repeats planned 0 number keepCold s [] keepCold s
  | kept {remaining number keepCold s samples left rest keepCold' s'}
      (made : Attempt.Made planned.pattern ⟨keepCold, s, .ok samples, left⟩)
      (tail : Repeats planned remaining (number + 1) (s.chill keepCold).1 left rest keepCold' s') :
      Repeats planned (remaining + 1) number keepCold s (⟨keepCold, s, .ok samples, left⟩ :: rest)
        keepCold' s'
  | failed {remaining number keepCold s cause left}
      (made : Attempt.Made planned.pattern ⟨keepCold, s, .error cause, left⟩) :
      Repeats planned (remaining + 1) number keepCold s [⟨keepCold, s, .error cause, left⟩]
        (s.chill keepCold).1 (left.note (.iterationFailed planned.kind number cause))

/-- Repetitions that end without an abort are a list of attempts: they fail as the first failed
attempt did, or else give the samples of all of them. -/
theorem repeats_of_repeated {planned : PlannedPattern} {n number : ℕ} {keepCold keepCold' : Bool}
    {samples : Array Sample} {outcome : Except PatternError (Array Sample)} {s s' : Session δ ο}
    (h : s.repeated planned n number keepCold samples = .ok (outcome, keepCold', s')) :
    ∃ attempts, Repeats planned n number keepCold s attempts keepCold' s' ∧
      match outcome with
      | .ok all => attempts.findSome? (·.failure?) = none ∧
          all.toList = samples.toList ++ attempts.flatMap (·.samples)
      | .error cause => attempts.findSome? (·.failure?) = some cause := by
  induction n generalizing number keepCold samples s with
  | zero =>
    cases h
    exact ⟨[], .done, rfl, by simp⟩
  | succ n ih =>
    simp only [repeated] at h
    split at h
    next => cases h
    next cause left hrun =>
      cases h
      exact ⟨_, .failed hrun, rfl⟩
    next more left hrun =>
      split at h
      next => cases h
      next =>
        obtain ⟨attempts, hrepeats, houtcome⟩ := ih h
        refine ⟨_, .kept hrun hrepeats, ?_⟩
        cases outcome with
        | ok all => simpa [Attempt.failure?, Attempt.samples] using houtcome
        | error cause => simpa [Attempt.failure?] using houtcome

namespace Repeats

variable {planned : PlannedPattern} {n number : ℕ} {keepCold keepCold' : Bool}
  {attempts : List (Attempt δ ο)} {s s' : Session δ ο}

theorem made (h : Repeats planned n number keepCold s attempts keepCold' s') :
    ∀ a ∈ attempts, a.Made planned.pattern := by
  induction h with
  | done => nofun
  | kept made _ ih => exact List.forall_mem_cons.2 ⟨made, ih⟩
  | failed made => exact List.forall_mem_singleton.2 made

/-- No attempt but the last one fails. -/
theorem kept_dropLast (h : Repeats planned n number keepCold s attempts keepCold' s') :
    ∀ a ∈ attempts.dropLast, ∃ samples, a.outcome = .ok samples := by
  induction h with
  | done => nofun
  | @kept _ _ _ _ samples _ rest _ _ _ _ ih =>
    intro a ha
    cases rest with
    | nil => cases ha
    | cons b rest =>
      rw [List.dropLast_cons_of_ne_nil (List.cons_ne_nil b rest)] at ha
      rcases List.mem_cons.1 ha with rfl | ha
      · exact ⟨samples, rfl⟩
      · exact ih a ha
  | failed => nofun

theorem length_le (h : Repeats planned n number keepCold s attempts keepCold' s') :
    attempts.length ≤ n := by
  induction h with
  | done => exact Nat.le_refl _
  | kept _ _ ih => exact Nat.succ_le_succ ih
  | failed => exact Nat.succ_le_succ (Nat.zero_le _)

/-- Without a failure all repetitions are made. -/
theorem length_eq (h : Repeats planned n number keepCold s attempts keepCold' s')
    (hall : ∀ a ∈ attempts, ∃ samples, a.outcome = .ok samples) : attempts.length = n := by
  induction h with
  | done => rfl
  | kept _ _ ih => exact congrArg (· + 1) (ih (List.forall_mem_cons.1 hall).2)
  | failed =>
    obtain ⟨_, hok⟩ := List.forall_mem_singleton.1 hall
    cases hok

theorem failure_eq_some_iff (h : Repeats planned n number keepCold s attempts keepCold' s')
    (cause : PatternError) :
    attempts.findSome? (·.failure?) = some cause ↔ ∃ a ∈ attempts, a.outcome = .error cause := by
  induction h with
  | done => simp
  | kept _ _ ih => simpa [Attempt.failure?] using ih
  | failed => simp [Attempt.failure?]

end Repeats

/-- The stages of a run, one for each planned pattern. Between two stages nothing but the journal
changes. -/
inductive Course (iterations : ℕ) :
    List PlannedPattern → Bool → Session δ ο → List (Stage δ ο) → Session δ ο → Prop
  | done {keepCold s} : Course iterations [] keepCold s [] s
  | stage {planned plans keepCold s attempts keepCold' left entries stages s'}
      (repeats : Repeats planned iterations 1 keepCold s attempts keepCold' left)
      (tail : Course iterations plans keepCold' { left with journal := left.journal ++ entries }
        stages s') :
      Course iterations (planned :: plans) keepCold s (⟨planned, attempts, entries⟩ :: stages) s'

end Session

namespace RunState

variable {δ ο : Type} [Device δ] [OffsetSource ο]

omit [Device δ] [OffsetSource ο] in
/-- A skip enters its cause and leaves everything but the journal alone. -/
theorem skip_eq (kind : PatternKind) (cause : PatternError) (state : RunState δ ο) :
    ∃ entries, state.skip kind cause = { state with
      session := { state.session with journal := state.session.journal ++ entries }
      skipped := state.skipped.push ⟨kind, cause⟩ } := by
  unfold skip
  split
  · exact ⟨#[.skipped kind cause], rfl⟩
  · exact ⟨#[.notice (.aborted kind cause), .skipped kind cause], rfl⟩

omit [Device δ] [OffsetSource ο] in
/-- A completion enters its result and leaves everything but the journal alone. -/
theorem complete_ok {result : PatternResult} {state state' : RunState δ ο}
    (h : state.complete result = .ok state') :
    ∃ entries, state' = { state with
      session := { state.session with journal := state.session.journal ++ entries }
      results := state.results.push result } := by
  unfold complete at h
  split at h
  next => cases h
  next statistics _ =>
    cases h
    split
    · exact ⟨#[.completed result.label statistics], rfl⟩
    · exact ⟨#[.notice (.cameShort result.kind result.shortReads result.sampleCount),
        .completed result.label statistics], rfl⟩

/-- One step of a run is one stage, and enters its result or its skip. -/
theorem stage_of_step {iterations fileSize : UInt64} {planned : PlannedPattern}
    {state state' : RunState δ ο} (h : step iterations fileSize planned state = .ok state') :
    ∃ (st : Stage δ ο) (left : Session δ ο), st.planned = planned ∧
      Session.Repeats planned iterations.toNat 1 state.keepCold state.session st.attempts
        state'.keepCold left ∧
      state'.session = { left with journal := left.journal ++ st.entries } ∧
      state'.results.toList = state.results.toList ++ (st.result? fileSize).toList ∧
      state'.skipped.toList = state.skipped.toList ++ st.skip?.toList := by
  unfold step at h
  split at h
  next => cases h
  next cause keepCold session hrepeated =>
    obtain ⟨attempts, hrepeats, hfailure⟩ := Session.repeats_of_repeated hrepeated
    obtain ⟨entries, hskip⟩ := skip_eq planned.kind cause { state with session, keepCold }
    cases h
    rw [hskip]
    refine ⟨⟨planned, attempts, entries⟩, session, rfl, hrepeats, rfl, ?_, ?_⟩
    · simp [Stage.result?, Stage.failure?, hfailure]
    · simp [Stage.skip?, Stage.failure?, hfailure]
  next samples keepCold session hrepeated =>
    obtain ⟨attempts, hrepeats, hnone, hsamples⟩ := Session.repeats_of_repeated hrepeated
    obtain ⟨entries, rfl⟩ := complete_ok h
    refine ⟨⟨planned, attempts, entries⟩, session, rfl, hrepeats, rfl, ?_, ?_⟩
    · have hall : samples = (attempts.flatMap (·.samples)).toArray := by
        apply Array.toList_inj.1
        simpa using hsamples
      simp [Stage.result?, Stage.failure?, Stage.samples, hnone, hall]
    · simp [Stage.skip?, Stage.failure?, hnone]

/-- The results and the skips of a run are those of its stages, in order. -/
theorem course_of_steps {iterations fileSize : UInt64} {plans : List PlannedPattern}
    {state state' : RunState δ ο} (h : steps iterations fileSize plans state = .ok state') :
    ∃ stages, Session.Course iterations.toNat plans state.keepCold state.session stages
        state'.session ∧
      state'.results.toList = state.results.toList ++ stages.filterMap (·.result? fileSize) ∧
      state'.skipped.toList = state.skipped.toList ++ stages.filterMap (·.skip?) := by
  induction plans generalizing state with
  | nil =>
    cases h
    exact ⟨[], .done, by simp, by simp⟩
  | cons planned plans ih =>
    unfold steps at h
    split at h
    next => cases h
    next middle hstep =>
      obtain ⟨⟨_, attempts, entries⟩, left, rfl, hrepeats, hsession, hresults, hskipped⟩ :=
        stage_of_step hstep
      obtain ⟨stages, hcourse, hresults', hskipped'⟩ := ih h
      rw [hsession] at hcourse
      refine ⟨_, .stage hrepeats hcourse, ?_, ?_⟩
      · rw [hresults', hresults, List.append_assoc]
        cases hr : Stage.result? fileSize ⟨_, attempts, entries⟩ <;> simp [hr]
      · rw [hskipped', hskipped, List.append_assoc]
        cases hr : Stage.skip? ⟨_, attempts, entries⟩ <;> simp [hr]

end RunState
end ScanLatency
