import ScanLatency.Export
import ScanLatency.Proofs.Accounting

/-! What the journal of a run tells besides its notices. Attempts at a pattern only add notices; a
step adds one event more, the completion of its result or its skip. So the completions and skips of
a run are its results, with their statistics, and its skips, each in order. -/
namespace ScanLatency

/-- What became of a pattern: a completion with its statistics, or a skip. -/
inductive PatternOutcome
  | completed (entry : PatternEntry)
  | skipped (s : SkippedPattern)

namespace PatternOutcome

def completed? : PatternOutcome → Option PatternEntry
  | .completed entry => some entry
  | .skipped _ => none

def skipped? : PatternOutcome → Option SkippedPattern
  | .completed _ => none
  | .skipped s => some s

def event : PatternOutcome → Event
  | .completed entry => .completed entry.result.label entry.statistics
  | .skipped s => .skipped s.kind s.cause

end PatternOutcome

def Event.isNotice : Event → Bool
  | .notice _ => true
  | _ => false

namespace Session

variable {δ ο : Type}

def tellings (s : Session δ ο) : List Event := s.journal.toList.filter (!·.isNotice)

@[simp] theorem tellings_note (n : Notice) (s : Session δ ο) :
    (s.note n).tellings = s.tellings := by
  simp [tellings, note, Event.isNotice]

theorem tellings_record {e : Event} (he : e.isNotice = false) (s : Session δ ο) :
    (RunState.record e s).tellings = s.tellings ++ [e] := by
  simp [tellings, RunState.record, he]

/-- What takes nothing from notices takes everything from the tellings. -/
theorem filterMap_tellings {α : Type} {f : Event → Option α} (hf : ∀ n, f (.notice n) = none)
    (s : Session δ ο) : s.tellings.filterMap f = s.journal.toList.filterMap f := by
  rw [tellings, List.filterMap_filter]
  congr 1
  funext e
  cases e with
  | notice n => exact (hf n).symm
  | completed => rfl
  | skipped => rfl

@[simp] theorem tellings_noteShort (p : Pattern) (target : Option UInt64) (sample : Sample)
    (s : Session δ ο) : (noteShort p target sample s).tellings = s.tellings := by
  unfold noteShort
  split
  · exact tellings_note _ s
  · rfl

variable [Device δ] [OffsetSource ο]

theorem tellings_run (p : Pattern) (s : Session δ ο) : (s.run p).2.tellings = s.tellings := by
  have hstable : Stable p fun t : Session δ ο => t.tellings = s.tellings := {
    drawn := fun h _ => h
    sampled := fun h _ => h
    noted := fun h target sample => by rw [tellings_noteShort, h] }
  exact hstable.run rfl

omit [OffsetSource ο] in
theorem tellings_chill (keepCold : Bool) (s : Session δ ο) :
    (s.chill keepCold).2.tellings = s.tellings := by
  unfold chill
  split
  · split
    · rfl
    · exact tellings_note _ _
  · rfl

/-- Repetitions tell nothing but notices. -/
theorem tellings_repeated {planned : PlannedPattern} {n number : ℕ} {keepCold keepCold' : Bool}
    {samples : Array Sample} {outcome : Except PatternError (Array Sample)} {s s' : Session δ ο}
    (h : s.repeated planned n number keepCold samples = .ok (outcome, keepCold', s')) :
    s'.tellings = s.tellings := by
  induction n generalizing number keepCold samples s with
  | zero =>
    cases h
    rfl
  | succ n ih =>
    have hattempt : ((s.chill keepCold).2.run planned.pattern).2.tellings = s.tellings := by
      rw [tellings_run, tellings_chill]
    simp only [repeated] at h
    split at h
    next => cases h
    next hrun =>
      cases h
      rwa [tellings_note, ← congrArg (·.2.tellings) hrun]
    next hrun =>
      split at h
      next => cases h
      next => rw [ih h, ← hattempt, hrun]

end Session

namespace RunState

variable {δ ο : Type}

/-- The outcomes that a state has entered and told, one for each pattern so far. -/
structure Told (before : List Event) (outcomes : List PatternOutcome)
    (state : RunState δ ο) : Prop where
  results_eq : state.results.toList = (outcomes.filterMap (·.completed?)).map (·.result)
  skipped_eq : state.skipped.toList = outcomes.filterMap (·.skipped?)
  tellings_eq : state.session.tellings = before ++ outcomes.map (·.event)
  statistics_eq : ∀ entry ∈ outcomes.filterMap (·.completed?),
    entry.result.statistics = .ok entry.statistics

namespace Told

variable {before : List Event} {outcomes : List PatternOutcome}
  {state state' : RunState δ ο}

theorem skip (h : state.Told before outcomes) (kind : PatternKind) (cause : PatternError) :
    (state.skip kind cause).Told before (outcomes ++ [.skipped ⟨kind, cause⟩]) where
  results_eq := by simpa [RunState.skip, PatternOutcome.completed?] using h.results_eq
  skipped_eq := by simp [RunState.skip, PatternOutcome.skipped?, h.skipped_eq]
  tellings_eq := by
    unfold RunState.skip
    rw [Session.tellings_record rfl]
    split <;> simp [h.tellings_eq, PatternOutcome.event]
  statistics_eq := by simpa [PatternOutcome.completed?] using h.statistics_eq

theorem complete (h : state.Told before outcomes) {result : PatternResult}
    (hstate : state.complete result = .ok state') :
    ∃ statistics, state'.Told before (outcomes ++ [.completed ⟨result, statistics⟩]) := by
  unfold RunState.complete at hstate
  split at hstate
  next => cases hstate
  next statistics hstatistics =>
    cases hstate
    refine ⟨statistics, ?_, ?_, ?_, ?_⟩
    · simp [h.results_eq, PatternOutcome.completed?]
    · simpa [PatternOutcome.skipped?] using h.skipped_eq
    · rw [Session.tellings_record rfl]
      split <;> simp [h.tellings_eq, PatternOutcome.event]
    · intro entry hentry
      rw [List.filterMap_append, List.mem_append] at hentry
      rcases hentry with hentry | hentry
      · exact h.statistics_eq entry hentry
      · obtain rfl := List.mem_singleton.1 hentry
        exact hstatistics

variable [Device δ] [OffsetSource ο] {iterations fileSize : UInt64}

/-- A step enters and tells one outcome. -/
theorem step (h : state.Told before outcomes) {planned : PlannedPattern}
    (hstate : RunState.step iterations fileSize planned state = .ok state') :
    ∃ outcome, state'.Told before (outcomes ++ [outcome]) := by
  have hrepeated (session : Session δ ο) (keepCold : Bool)
      (htellings : session.tellings = state.session.tellings) :
      ({ state with session, keepCold } : RunState δ ο).Told before outcomes :=
    ⟨h.results_eq, h.skipped_eq, htellings.trans h.tellings_eq, h.statistics_eq⟩
  unfold RunState.step at hstate
  split at hstate
  next => cases hstate
  next cause keepCold session heq =>
    cases hstate
    exact ⟨_, (hrepeated session keepCold (Session.tellings_repeated heq)).skip _ cause⟩
  next samples keepCold session heq =>
    obtain ⟨statistics, htold⟩ :=
      (hrepeated session keepCold (Session.tellings_repeated heq)).complete hstate
    exact ⟨_, htold⟩

theorem steps (h : state.Told before outcomes) {plans : List PlannedPattern}
    (hstate : RunState.steps iterations fileSize plans state = .ok state') :
    ∃ outcomes', state'.Told before outcomes' := by
  induction plans generalizing state outcomes with
  | nil =>
    cases hstate
    exact ⟨_, h⟩
  | cons planned plans ih =>
    unfold RunState.steps at hstate
    split at hstate
    next => cases hstate
    next hstep =>
      obtain ⟨outcome, hnext⟩ := h.step hstep
      exact ih hnext hstate

end Told
end RunState

/-- A run tells the outcomes that it reports. -/
theorem Settings.told_of_run {δ ο : Type} [Device δ] [OffsetSource ο] {c : Settings}
    {s s' : Session δ ο} {report : RunReport} (h : c.run s = .ok (report, s')) :
    ∃ state outcomes, RunState.Told s.tellings outcomes (state : RunState δ ο) ∧
      report.results = state.results.toList ∧ report.skipped = state.skipped.toList ∧
      s' = state.session := by
  obtain ⟨state, comparison, hsteps, _, rfl, rfl⟩ := run_ok_iff.1 h
  have hopened : RunState.Told s.tellings []
      (⟨c.opened s, c.noCache, #[], #[]⟩ : RunState δ ο) :=
    ⟨rfl, rfl, by simp [opened], by simp⟩
  obtain ⟨outcomes, htold⟩ := hopened.steps hsteps
  exact ⟨state, outcomes, htold, rfl, rfl, rfl⟩

end ScanLatency
