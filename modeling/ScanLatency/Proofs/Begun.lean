import ScanLatency.Proofs.Accounting

/-! The attempts that a run begins, whether or not it comes to its end. An attempt begins once the
patterns before it and the attempts before it at the same pattern are through; a run that aborts
does so in an attempt that it has begun, or in a sum over samples that it has taken. -/
namespace ScanLatency

/-- A sequence of steps aborts where the first of them does that aborts. -/
theorem bind_eq_error_iff {α β : Type} {x : Except Abort α} {f : α → Except Abort β}
    {abort : Abort} : (x >>= f) = .error abort ↔
      x = .error abort ∨ ∃ a, x = .ok a ∧ f a = .error abort := by
  cases x with
  | error abort' => simp [bind, Except.bind]
  | ok a => simp [bind, Except.bind]

theorem Attempt.Made.reaches {δ ο : Type} [Device δ] [OffsetSource ο] {p : Pattern}
    {a : Attempt δ ο} (h : a.Made p) : Device.Reaches a.found.device a.left.device :=
  (Session.reaches_chill a.keepCold a.found).trans (Session.reaches_of_run h)

namespace Session

variable {δ ο : Type} [Device δ] [OffsetSource ο]

theorem Repeats.reaches {planned : PlannedPattern} {n number : ℕ} {keepCold keepCold' : Bool}
    {attempts : List (Attempt δ ο)} {s s' : Session δ ο}
    (h : Repeats planned n number keepCold s attempts keepCold' s') :
    Device.Reaches s.device s'.device := by
  induction h with
  | done => exact .refl
  | kept made _ ih => exact made.reaches.trans ih
  | failed made => exact made.reaches

theorem Course.reaches {iterations : ℕ} {plans : List PlannedPattern} {keepCold : Bool}
    {stages : List (Stage δ ο)} {s s' : Session δ ο}
    (h : Course iterations plans keepCold s stages s') : Device.Reaches s.device s'.device := by
  induction h with
  | done => exact .refl
  | stage repeats _ ih => exact repeats.reaches.trans ih

/-- Repetitions abort in one of them: in its pattern, or in the sum over the samples that it
gave. -/
theorem repeated_aborted {planned : PlannedPattern} {n number : ℕ} {keepCold : Bool}
    {samples : Array Sample} {s : Session δ ο} {abort : Abort}
    (h : s.repeated planned n number keepCold samples = .error abort) :
    ∃ j < n, ∃ all keepCold' t,
      s.repeated planned j number keepCold samples = .ok (.ok all, keepCold', t) ∧
      (((t.chill keepCold').2.run planned.pattern).1 = .error (.aborted abort) ∨
        ∃ more left, (t.chill keepCold').2.run planned.pattern = (.ok more, left) ∧
          Word.sum (more.toList.map (·.nanos)) = .error abort) := by
  induction n generalizing number keepCold samples s with
  | zero => cases h
  | succ n ih =>
    simp only [repeated] at h
    split at h
    next hrun =>
      cases h
      exact ⟨0, Nat.succ_pos n, samples, keepCold, s, rfl, .inl (by rw [hrun])⟩
    next => cases h
    next more left hrun =>
      split at h
      next hsum =>
        cases h
        exact ⟨0, Nat.succ_pos n, samples, keepCold, s, rfl, .inr ⟨more, left, hrun, hsum⟩⟩
      next hsum =>
        obtain ⟨j, hj, all, keepCold', t, hrepeated, habort⟩ := ih h
        refine ⟨j + 1, Nat.succ_lt_succ hj, all, keepCold', t, ?_, habort⟩
        simp only [repeated, hrun, hsum]
        exact hrepeated

end Session

namespace RunState

variable {δ ο : Type} [Device δ] [OffsetSource ο]

/-- Steps abort in one of them, after all that come before it. -/
theorem steps_aborted {iterations fileSize : UInt64} {plans : List PlannedPattern}
    {state : RunState δ ο} {abort : Abort}
    (h : steps iterations fileSize plans state = .error abort) :
    ∃ before planned after middle, plans = before ++ planned :: after ∧
      steps iterations fileSize before state = .ok middle ∧
      step iterations fileSize planned middle = .error abort := by
  induction plans generalizing state with
  | nil => cases h
  | cons planned plans ih =>
    unfold steps at h
    split at h
    next hstep =>
      cases h
      exact ⟨[], planned, plans, state, rfl, rfl, hstep⟩
    next next hstep =>
      obtain ⟨before, planned', after, middle, rfl, hsteps, habort⟩ := ih h
      refine ⟨planned :: before, planned', after, middle, rfl, ?_, habort⟩
      simp only [steps, hstep]
      exact hsteps

theorem reaches_of_steps {iterations fileSize : UInt64} {plans : List PlannedPattern}
    {state state' : RunState δ ο} (h : steps iterations fileSize plans state = .ok state') :
    Device.Reaches state.session.device state'.session.device := by
  obtain ⟨_, hcourse, _, _⟩ := course_of_steps h
  exact hcourse.reaches

end RunState

namespace Session

variable {δ ο : Type} [Device δ] [OffsetSource ο]

theorem reaches_of_repeated {planned : PlannedPattern} {n number : ℕ} {keepCold keepCold' : Bool}
    {samples : Array Sample} {outcome : Except PatternError (Array Sample)} {s s' : Session δ ο}
    (h : s.repeated planned n number keepCold samples = .ok (outcome, keepCold', s')) :
    Device.Reaches s.device s'.device := by
  obtain ⟨_, hrepeats, _⟩ := repeats_of_repeated h
  exact hrepeats.reaches

end Session

namespace Settings

variable {δ ο : Type} [Device δ] [OffsetSource ο]

/-- An attempt at a planned pattern begins in a session: all steps before that pattern are through,
and so are the repetitions before the attempt, of which there is at least one to go. -/
inductive Begins (c : Settings) (s : Session δ ο) : PlannedPattern → Bool → Session δ ο → Prop
  | intro {before after planned state j samples keepCold t}
      (suite : c.layout.suite = before ++ planned :: after)
      (steps : RunState.steps c.iterations (Device.size s.device) before
        ⟨c.opened s, c.noCache, #[], #[]⟩ = .ok state)
      (lt : j < c.iterations.toNat)
      (repeated : state.session.repeated planned j 1 state.keepCold #[] =
        .ok (.ok samples, keepCold, t)) :
      Begins c s planned keepCold t

theorem Begins.first {c : Settings} {s : Session δ ο} {planned : PlannedPattern}
    {after : List PlannedPattern} (hsuite : c.layout.suite = planned :: after)
    (hlt : 0 < c.iterations.toNat) : c.Begins s planned c.noCache (c.opened s) :=
  .intro (hsuite.trans (List.nil_append _).symm) rfl hlt rfl

theorem Begins.reaches {c : Settings} {s t : Session δ ο} {planned : PlannedPattern}
    {keepCold : Bool} (h : c.Begins s planned keepCold t) : Device.Reaches s.device t.device := by
  obtain ⟨_, hsteps, _, hrepeated⟩ := h
  exact (RunState.reaches_of_steps hsteps).trans (Session.reaches_of_repeated hrepeated)

/-- A run aborts in one of its steps, or when its results are compared. -/
theorem run_aborted {c : Settings} {s : Session δ ο} {abort : Abort} (h : c.run s = .error abort) :
    RunState.steps c.iterations (Device.size s.device) c.layout.suite
        ⟨c.opened s, c.noCache, #[], #[]⟩ = .error abort ∨
      ∃ state, RunState.steps c.iterations (Device.size s.device) c.layout.suite
          ⟨c.opened s, c.noCache, #[], #[]⟩ = .ok state ∧
        Comparison.ofResults c.groupSize c.divisor state.results.toList = .error abort := by
  unfold run at h
  rcases bind_eq_error_iff.1 h with hsteps | ⟨state, hsteps, h⟩
  · exact .inl hsteps
  · rcases bind_eq_error_iff.1 h with hcomparison | ⟨comparison, _, h⟩
    · exact .inr ⟨state, hsteps, hcomparison⟩
    · cases h

end Settings
end ScanLatency
