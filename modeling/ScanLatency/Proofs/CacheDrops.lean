import ScanLatency.Proofs.Begun
import ScanLatency.Proofs.Observation

/-! The calls of a run, attempt by attempt. An attempt drops the cache first, if that is asked for
and no drop has failed before it, and then makes the calls of its pattern, among which there is no
drop. The one drop that can fail is warned about once; the attempt goes on all the same. -/
namespace ScanLatency

/-- The cause of a failed drop of the cache. -/
def DeviceCall.refusal? : DeviceCall → Option IoError
  | .dropCache (.error cause) => some cause
  | _ => none

def DeviceCall.isDrop : DeviceCall → Bool
  | .dropCache _ => true
  | _ => false

def DeviceCall.failure? : DeviceCall → Option IoError
  | .seek _ (.error (.failed cause)) => some cause
  | .read _ (.error (.failed cause)) => some cause
  | _ => none

/-- The cause that a warning about a cache that was not dropped gives. -/
def Event.keptCause? : Event → Option IoError
  | .notice (.cacheKept cause) => some cause
  | _ => none

namespace Session

variable {δ ο : Type}

def warnings (s : Session δ ο) : List IoError := s.journal.toList.filterMap (·.keptCause?)

def refusals (s : Session (Watched δ) ο) : List IoError :=
  s.device.calls.toList.filterMap (·.refusal?)

variable [Device δ] [OffsetSource ο]

/-- The call that deals with the cache before an attempt, if there is one. -/
def dropCalls (keepCold : Bool) (s : Session δ ο) : List DeviceCall :=
  if keepCold then [.dropCache (Device.dropCache s.device).1] else []

def patternCalls (p : Pattern) (s : Session δ ο) : List DeviceCall :=
  (s.observed.run p).2.device.calls.toList

def attemptCalls (p : Pattern) (keepCold : Bool) (s : Session δ ο) : List DeviceCall :=
  s.dropCalls keepCold ++ (s.chill keepCold).2.patternCalls p

end Session

def Attempt.calls {δ ο : Type} [Device δ] [OffsetSource ο] (p : Pattern)
    (a : Attempt (Watched δ) (Logged ο)) : List DeviceCall :=
  a.found.plain.attemptCalls p a.keepCold

def Stage.calls {δ ο : Type} [Device δ] [OffsetSource ο] (st : Stage (Watched δ) (Logged ο)) :
    List DeviceCall :=
  st.attempts.flatMap (·.calls st.planned.pattern)

/-! ### Records that start late -/

namespace Watched

variable {δ : Type}

/-- The device with further calls at the start of its record. -/
def after (earlier : Array DeviceCall) (w : Watched δ) : Watched δ := ⟨w.device, earlier ++ w.calls⟩

theorem morphism_after [Device δ] (earlier : Array DeviceCall) :
    Device.Morphism (after earlier : Watched δ → Watched δ) where
  now _ := rfl
  size _ := rfl
  seek offset w := by simp [Device.seek, after]
  read length w := by simp [Device.read, after]
  dropCache w := by simp [Device.dropCache, after]

end Watched

namespace Logged

variable {ο : Type}

/-- The source with further draws at the start of its record. -/
def after (earlier : Array Draw) (l : Logged ο) : Logged ο := ⟨l.source, earlier ++ l.draws⟩

theorem morphism_after [OffsetSource ο] (earlier : Array Draw) :
    OffsetSource.Morphism (after earlier : Logged ο → Logged ο) :=
  ⟨fun max l => by simp [OffsetSource.draw, after]⟩

end Logged

namespace Session

variable {δ ο : Type} [Device δ] [OffsetSource ο]

omit [Device δ] [OffsetSource ο] in
theorem map_after_observed (s : Session (Watched δ) (Logged ο)) :
    s.plain.observed.map (Watched.after s.device.calls) (Logged.after s.source.draws) = s := by
  simp [Session.map, observed, plain, Watched.after, Logged.after]

/-- A run of a pattern goes as it would with empty records, and its records follow those that are
there. -/
theorem run_after (p : Pattern) (s : Session (Watched δ) (Logged ο)) :
    s.run p = Prod.map id (map (Watched.after s.device.calls) (Logged.after s.source.draws))
      (s.plain.observed.run p) := by
  have hrun := run_map (Watched.morphism_after s.device.calls)
    (Logged.morphism_after s.source.draws) p s.plain.observed
  rwa [map_after_observed] at hrun

theorem calls_run (p : Pattern) (s : Session (Watched δ) (Logged ο)) :
    (s.run p).2.device.calls.toList = s.device.calls.toList ++ s.plain.patternCalls p := by
  rw [run_after]
  exact Array.toList_append

omit [OffsetSource ο] in
theorem calls_chill (keepCold : Bool) (s : Session (Watched δ) (Logged ο)) :
    (s.chill keepCold).2.device.calls.toList =
      s.device.calls.toList ++ s.plain.dropCalls keepCold := by
  unfold chill dropCalls
  cases keepCold with
  | false => simp
  | true =>
    have hdrop : (Device.dropCache s.device).2.calls.toList = s.device.calls.toList ++
        [.dropCache (Device.dropCache s.plain.device).1] := Array.toList_push
    simp only [if_pos]
    split
    next heq => rwa [heq] at hdrop
    next heq => rwa [heq] at hdrop

omit [OffsetSource ο] in
theorem plain_chill (keepCold : Bool) (s : Session (Watched δ) (Logged ο)) :
    (s.chill keepCold).2.plain = (s.plain.chill keepCold).2 := by
  have hchill := chill_map Watched.morphism (Logged.source : Logged ο → ο) keepCold s
  exact (congrArg Prod.snd hchill).symm

theorem calls_attempt (p : Pattern) (keepCold : Bool) (s : Session (Watched δ) (Logged ο)) :
    ((s.chill keepCold).2.run p).2.device.calls.toList =
      s.device.calls.toList ++ s.plain.attemptCalls p keepCold := by
  rw [calls_run, calls_chill, plain_chill, attemptCalls, List.append_assoc]

end Session

/-! ### Patterns drop nothing -/

namespace Session

variable {δ ο : Type} [Device δ] [OffsetSource ο] {property : δ → Prop}

/-- A run of a pattern keeps what everything but a drop keeps. -/
theorem kept_run (hk : Device.Kept property) (p : Pattern) {s : Session δ ο}
    (h : property s.device) : property (s.run p).2.device := by
  have hstable : Stable p fun s : Session δ ο => property s.device := {
    drawn := fun h _ => h
    sampled := fun h target => hk.sample h target p.schedule.length
    noted := fun h target sample => by rwa [noteShort_device] }
  exact hstable.run h

theorem isDrop_of_mem_patternCalls {p : Pattern} {s : Session δ ο} {call : DeviceCall}
    (hcall : call ∈ s.patternCalls p) : call.isDrop = false := by
  have hkept : Device.Kept fun w : Watched δ => ∀ call ∈ w.calls, call.isDrop = false := by
    refine ⟨id, ?_, ?_⟩
    · intro w h offset call hcall
      rcases Array.mem_push.1 hcall with hcall | rfl
      · exact h call hcall
      · rfl
    · intro w h length call hcall
      rcases Array.mem_push.1 hcall with hcall | rfl
      · exact h call hcall
      · rfl
  exact kept_run hkept p (s := s.observed) (by simp [observed]) call (Array.mem_toList_iff.1 hcall)

theorem refusals_patternCalls (p : Pattern) (s : Session δ ο) :
    (s.patternCalls p).filterMap (·.refusal?) = [] := by
  rw [List.filterMap_eq_nil_iff]
  intro call hcall
  have hdrop := isDrop_of_mem_patternCalls hcall
  cases call with
  | seek => rfl
  | read => rfl
  | dropCache => cases hdrop

/-! ### One failure, one warning -/

omit [Device δ] [OffsetSource ο] in
theorem warnings_record (e : Event) (s : Session δ ο) :
    (RunState.record e s).warnings = s.warnings ++ e.keptCause?.toList := by
  cases he : e.keptCause? <;> simp [warnings, RunState.record, he]

omit [Device δ] [OffsetSource ο] in
theorem warnings_note (n : Notice) (s : Session δ ο) :
    (s.note n).warnings = s.warnings ++ (Event.notice n).keptCause?.toList :=
  warnings_record (.notice n) s

omit [Device δ] [OffsetSource ο] in
theorem warnings_noteShort (p : Pattern) (target : Option UInt64) (sample : Sample)
    (s : Session δ ο) : (noteShort p target sample s).warnings = s.warnings := by
  unfold noteShort shortNotice
  split
  next n hn =>
    split at hn
    next =>
      cases hn
      rw [warnings_note]
      cases target <;> simp [Event.keptCause?]
    next => cases hn
  next => rfl

theorem warnings_run (p : Pattern) (s : Session δ ο) : (s.run p).2.warnings = s.warnings := by
  have hstable : Stable p fun t : Session δ ο => t.warnings = s.warnings := {
    drawn := fun h _ => h
    sampled := fun h _ => h
    noted := fun h target sample => by rw [warnings_noteShort, h] }
  exact hstable.run rfl

omit [OffsetSource ο] in
theorem warnings_chill (keepCold : Bool) (s : Session δ ο) :
    (s.chill keepCold).2.warnings =
      s.warnings ++ (s.dropCalls keepCold).filterMap (·.refusal?) := by
  unfold chill dropCalls
  split
  next =>
    split
    next hdrop =>
      rw [hdrop]
      exact (List.append_nil _).symm
    next hdrop =>
      rw [hdrop, warnings_note]
      rfl
  next => exact (List.append_nil _).symm

omit [OffsetSource ο] in
/-- The cache goes on being dropped unless its drop has just failed. -/
theorem chill_fst (keepCold : Bool) (s : Session δ ο) :
    (s.chill keepCold).1 =
      (keepCold && ((s.dropCalls keepCold).filterMap (·.refusal?)).isEmpty) := by
  unfold chill dropCalls
  split
  next hkeep =>
    rw [hkeep]
    split
    next hdrop =>
      rw [hdrop]
      rfl
    next hdrop =>
      rw [hdrop]
      rfl
  next hkeep => simpa using hkeep

omit [OffsetSource ο] in
theorem refusals_chill (keepCold : Bool) (s : Session (Watched δ) (Logged ο)) :
    (s.chill keepCold).2.refusals =
      s.refusals ++ (s.plain.dropCalls keepCold).filterMap (·.refusal?) := by
  rw [refusals, calls_chill, List.filterMap_append]
  rfl

theorem refusals_run (p : Pattern) (s : Session (Watched δ) (Logged ο)) :
    (s.run p).2.refusals = s.refusals := by
  rw [refusals, calls_run, List.filterMap_append, refusals_patternCalls, List.append_nil]
  rfl

/-- Every failed drop has been warned about, once and in order, after some earlier warnings. -/
def Warned (earlier : List IoError) (s : Session (Watched δ) ο) : Prop :=
  s.warnings = earlier ++ s.refusals

/-- How far the dropping of the cache has come: it goes on, where it was asked for, as long as no
drop has failed. -/
structure Cold (noCache keepCold : Bool) (s : Session (Watched δ) ο) : Prop where
  keepCold_eq : keepCold = (noCache && s.refusals.isEmpty)
  refusals_le : s.refusals.length ≤ 1
  /-- Nothing is dropped after a failed drop. -/
  spent : s.device.calls.toList.Pairwise fun call later =>
    call.refusal?.isSome → later.isDrop = false

variable {noCache keepCold : Bool} {earlier : List IoError} {s : Session (Watched δ) (Logged ο)}

omit [OffsetSource ο] in
theorem Warned.chill (h : s.Warned earlier) (keepCold : Bool) :
    (s.chill keepCold).2.Warned earlier := by
  have hsame : s.dropCalls keepCold = s.plain.dropCalls keepCold := rfl
  rw [Warned, warnings_chill, refusals_chill, h, hsame, List.append_assoc]

theorem Warned.run (h : s.Warned earlier) (p : Pattern) : (s.run p).2.Warned earlier := by
  rw [Warned, warnings_run, refusals_run, h]

omit [Device δ] [OffsetSource ο] in
theorem Warned.record (h : s.Warned earlier) {e : Event} (he : e.keptCause? = none) :
    (RunState.record e s).Warned earlier := by
  rw [Warned, warnings_record, he]
  exact (List.append_nil _).trans h

omit [Device δ] [OffsetSource ο] in
theorem Cold.journal (h : s.Cold noCache keepCold) (journal : Array Event) :
    ({ s with journal } : Session _ _).Cold noCache keepCold :=
  ⟨h.keepCold_eq, h.refusals_le, h.spent⟩

omit [OffsetSource ο] in
theorem Cold.chill (h : s.Cold noCache keepCold) :
    (s.chill keepCold).2.Cold noCache (s.chill keepCold).1 := by
  have hrefusals := refusals_chill keepCold s
  have hkeep := chill_fst keepCold s
  have hsame : s.dropCalls keepCold = s.plain.dropCalls keepCold := rfl
  cases keepCold with
  | false => exact h
  | true =>
    obtain ⟨hasked, hnone⟩ := Bool.and_eq_true_iff.1 h.keepCold_eq.symm
    rw [List.isEmpty_iff] at hnone
    rw [hnone, List.nil_append] at hrefusals
    refine ⟨?_, ?_, ?_⟩
    · rw [hkeep, hrefusals, hasked, hsame]
    · rw [hrefusals]
      exact List.length_filterMap_le _ _
    · -- Dropping has gone on up to here, so that no call before this drop is a failed one.
      rw [calls_chill]
      refine List.pairwise_append.2 ⟨h.spent, List.pairwise_singleton _ _, ?_⟩
      intro call hcall later _ hrefused
      rw [List.filterMap_eq_nil_iff.1 hnone call hcall] at hrefused
      cases hrefused

theorem Cold.run (h : s.Cold noCache keepCold) (p : Pattern) :
    (s.run p).2.Cold noCache keepCold := by
  have hrefusals := refusals_run p s
  refine ⟨hrefusals ▸ h.keepCold_eq, hrefusals ▸ h.refusals_le, ?_⟩
  rw [calls_run]
  refine List.pairwise_append.2 ⟨h.spent, ?_, ?_⟩
  · exact List.pairwise_of_forall_mem_list fun _ _ _ hlater _ => isDrop_of_mem_patternCalls hlater
  · exact fun _ _ _ hlater _ => isDrop_of_mem_patternCalls hlater

end Session

/-! ### What a pattern fails for -/

namespace Watched

variable {δ : Type} [Device δ] {target : Option UInt64} {length : UInt64} {w w' : Watched δ}
  {e : IoError}

theorem failed_of_access (h : Device.access target length w = (.error (.failed e), w')) :
    ∃ call ∈ w'.calls, call.failure? = some e := by
  have hread {v v' : Watched δ} (h : Device.read length v = (.error (.failed e), v')) :
      ∃ call ∈ v'.calls, call.failure? = some e := by
    obtain ⟨houtcome, rfl⟩ := Prod.mk.inj h
    exact ⟨_, Array.mem_push_self, by rw [houtcome]; rfl⟩
  unfold Device.access at h
  split at h
  · exact hread h
  · split at h
    next hseek =>
      cases h
      obtain ⟨houtcome, rfl⟩ := Prod.mk.inj hseek
      exact ⟨_, Array.mem_push_self, by rw [houtcome]; rfl⟩
    next => exact hread h

theorem failed_of_sample (h : Device.sample target length w = (.error (.failed e), w')) :
    ∃ call ∈ w'.calls, call.failure? = some e := by
  unfold Device.sample sampled at h
  simp only at h
  split at h
  next => cases h
  next haccess =>
    cases h
    have hcall := failed_of_access haccess
    exact hcall
  next => cases h

end Watched

namespace Session

variable {δ ο : Type} [Device δ] [OffsetSource ο]

/-- A pattern fails for its size, or for the cause of a call that it made. -/
theorem failed_of_run {p : Pattern} {s s' : Session (Watched δ) ο} {cause : PatternError}
    (h : s.run p = (.error (.failed cause), s')) :
    p.maxStart (Device.size s.device) = .error cause ∨
      ∃ call ∈ s'.device.calls, ∃ e, call.failure? = some e ∧ cause = .io p.runName e := by
  generalize hhalt : Halt.failed cause = halt at h
  rcases stops_of_run h with
    ⟨_, hmax, rfl, _⟩ | ⟨_, _, ⟨_, _, _, rfl, _⟩ | ⟨_, _, _, _, _, _, _, hstops⟩⟩
  · cases hhalt
    exact .inl hmax
  · cases hhalt
  · cases hstops with
    | target => cases hhalt
    | @access _ _ halt _ _ hsample =>
      cases halt with
      | failed e =>
        cases hhalt
        obtain ⟨call, hcall, hfailure⟩ := Watched.failed_of_sample hsample
        exact .inr ⟨call, hcall, e, hfailure, rfl⟩
      | aborted => cases hhalt

end Session

/-! ### Attempts and runs -/

namespace Attempt

variable {δ ο : Type} [Device δ] [OffsetSource ο] {noCache : Bool} {p : Pattern}
  {a : Attempt (Watched δ) (Logged ο)}

/-- How an attempt deals with the cache. It drops it once and before everything else, if that is
asked for and no drop has failed so far, and goes on to the calls of its pattern whatever comes of
that: it fails for its size or for one of those calls. -/
structure Disciplined (noCache : Bool) (p : Pattern) (a : Attempt (Watched δ) (Logged ο)) :
    Prop where
  cold : a.found.Cold noCache a.keepCold
  calls_eq : a.left.device.calls.toList = a.found.device.calls.toList ++ a.calls p
  failed : ∀ cause, a.outcome = .error cause →
    p.maxStart (Device.size (a.found.chill a.keepCold).2.device) = .error cause ∨
    ∃ call ∈ (a.found.plain.chill a.keepCold).2.patternCalls p, ∃ e, call.failure? = some e ∧
      cause = .io p.runName e

theorem Made.disciplined (h : a.Made p) (hcold : a.found.Cold noCache a.keepCold) :
    a.Disciplined noCache p where
  cold := hcold
  calls_eq := by
    have hcalls := Session.calls_attempt p a.keepCold a.found
    rwa [h] at hcalls
  failed := by
    intro cause hcause
    have hplain : (a.found.chill a.keepCold).2.plain.observed.run p =
        (.error (.failed cause), ((a.found.chill a.keepCold).2.plain.observed.run p).2) := by
      have hafter := congrArg Prod.fst (Session.run_after p (a.found.chill a.keepCold).2)
      rw [h, hcause] at hafter
      exact Prod.ext hafter.symm rfl
    rw [← Session.plain_chill]
    rcases Session.failed_of_run hplain with hsize | ⟨call, hcall, hfailure⟩
    · exact .inl hsize
    · exact .inr ⟨call, Array.mem_toList_iff.2 hcall, hfailure⟩

theorem Disciplined.isDrop_of_mem_calls (h : a.Disciplined false p) {call : DeviceCall}
    (hcall : call ∈ a.calls p) : call.isDrop = false := by
  have hkeep : a.keepCold = false := h.cold.keepCold_eq
  rw [calls, Session.attemptCalls, Session.dropCalls, hkeep] at hcall
  exact Session.isDrop_of_mem_patternCalls hcall

theorem Made.warned (h : a.Made p) {earlier : List IoError} (hwarned : a.found.Warned earlier) :
    a.left.Warned earlier := by
  have hleft := (hwarned.chill a.keepCold).run p
  rwa [h] at hleft

theorem Made.cold (h : a.Made p) (hcold : a.found.Cold noCache a.keepCold) :
    a.left.Cold noCache (a.found.chill a.keepCold).1 := by
  have hleft := hcold.chill.run p
  rwa [h] at hleft

end Attempt

namespace Session

variable {δ ο : Type} [Device δ] [OffsetSource ο] {noCache : Bool}

namespace Repeats

variable {planned : PlannedPattern} {n number : ℕ} {keepCold keepCold' : Bool}
  {attempts : List (Attempt (Watched δ) (Logged ο))} {s s' : Session (Watched δ) (Logged ο)}

theorem warned (h : Repeats planned n number keepCold s attempts keepCold' s')
    {earlier : List IoError} (hs : s.Warned earlier) : s'.Warned earlier := by
  induction h with
  | done => exact hs
  | kept made _ ih => exact ih (made.warned hs)
  | failed made => exact (made.warned hs).record rfl

/-- Repetitions keep the discipline from one to the next, and their calls follow one another. -/
theorem disciplined (h : Repeats planned n number keepCold s attempts keepCold' s')
    (hs : s.Cold noCache keepCold) : s'.Cold noCache keepCold' ∧
      (∀ a ∈ attempts, a.Disciplined noCache planned.pattern) ∧
      s'.device.calls.toList =
        s.device.calls.toList ++ attempts.flatMap (·.calls planned.pattern) := by
  induction h with
  | done => exact ⟨hs, nofun, (List.append_nil _).symm⟩
  | kept made _ ih =>
    have hfirst := made.disciplined hs
    obtain ⟨hcold, hrest, hcalls⟩ := ih (made.cold hs)
    refine ⟨hcold, List.forall_mem_cons.2 ⟨hfirst, hrest⟩, ?_⟩
    rw [hcalls, hfirst.calls_eq, List.flatMap_cons, List.append_assoc]
  | failed made =>
    have hfirst := made.disciplined hs
    refine ⟨(made.cold hs).journal _, List.forall_mem_singleton.2 hfirst, ?_⟩
    rw [List.flatMap_singleton]
    exact hfirst.calls_eq

end Repeats

theorem Course.disciplined {iterations : ℕ} {plans : List PlannedPattern} {keepCold : Bool}
    {stages : List (Stage (Watched δ) (Logged ο))} {s s' : Session (Watched δ) (Logged ο)}
    (h : Course iterations plans keepCold s stages s') (hs : s.Cold noCache keepCold) :
    (∀ st ∈ stages, ∀ a ∈ st.attempts, a.Disciplined noCache st.planned.pattern) ∧
      s'.device.calls.toList = s.device.calls.toList ++ stages.flatMap (·.calls) := by
  induction h with
  | done => exact ⟨nofun, (List.append_nil _).symm⟩
  | stage repeats _ ih =>
    obtain ⟨hcold, hfirst, hcalls⟩ := repeats.disciplined hs
    obtain ⟨hrest, hcalls'⟩ := ih (hcold.journal _)
    refine ⟨List.forall_mem_cons.2 ⟨hfirst, hrest⟩, ?_⟩
    rw [hcalls', List.flatMap_cons, ← List.append_assoc]
    exact congrArg (· ++ _) hcalls

end Session

namespace RunState

variable {δ ο : Type} [Device δ] [OffsetSource ο] {iterations fileSize : UInt64}
  {state state' : RunState (Watched δ) (Logged ο)} {noCache : Bool} {earlier : List IoError}

theorem cold_of_step {planned : PlannedPattern}
    (h : step iterations fileSize planned state = .ok state')
    (hs : state.session.Cold noCache state.keepCold) :
    state'.session.Cold noCache state'.keepCold := by
  obtain ⟨_, left, _, hrepeats, hsession, _⟩ := stage_of_step h
  rw [hsession]
  exact (hrepeats.disciplined hs).1.journal _

/-- Skips and completions say nothing about the cache. -/
theorem warned_of_step {planned : PlannedPattern}
    (h : step iterations fileSize planned state = .ok state')
    (hs : state.session.Warned earlier) : state'.session.Warned earlier := by
  unfold step at h
  split at h
  next => cases h
  next cause _ session hrepeated =>
    cases h
    obtain ⟨_, hrepeats, _⟩ := Session.repeats_of_repeated hrepeated
    have hleft := hrepeats.warned hs
    unfold skip
    apply Session.Warned.record _ rfl
    split
    · exact hleft
    · exact hleft.record rfl
  next samples _ session hrepeated =>
    obtain ⟨_, hrepeats, _⟩ := Session.repeats_of_repeated hrepeated
    have hleft := hrepeats.warned hs
    unfold complete at h
    split at h
    next => cases h
    next =>
      cases h
      apply Session.Warned.record _ rfl
      split
      · exact hleft
      · exact hleft.record rfl

theorem cold_of_steps {plans : List PlannedPattern}
    (h : steps iterations fileSize plans state = .ok state')
    (hcold : state.session.Cold noCache state.keepCold) (hwarned : state.session.Warned earlier) :
    state'.session.Cold noCache state'.keepCold ∧ state'.session.Warned earlier := by
  induction plans generalizing state with
  | nil =>
    cases h
    exact ⟨hcold, hwarned⟩
  | cons planned plans ih =>
    unfold steps at h
    split at h
    next => cases h
    next hstep => exact ih h (cold_of_step hstep hcold) (warned_of_step hstep hwarned)

end RunState

namespace Settings

variable {δ ο : Type} [Device δ] [OffsetSource ο]

omit [OffsetSource ο] in
theorem cold_opened (c : Settings) (s : Session δ ο) :
    (c.opened s.observed).Cold c.noCache c.noCache :=
  ⟨(Bool.and_true _).symm, Nat.zero_le _, .nil⟩

omit [OffsetSource ο] in
theorem warned_opened (c : Settings) (s : Session δ ο) :
    (c.opened s.observed).Warned s.warnings := by
  have hs : s.observed.Warned s.warnings := (List.append_nil _).symm
  exact hs.record rfl

theorem disciplined_of_run {c : Settings} {s s' : Session δ ο} {report : RunReport}
    (h : c.run s = .ok (report, s')) : ∃ w stages keepCold,
      c.run s.observed = .ok (report, w) ∧ w.plain = s' ∧
      Session.Course c.iterations.toNat c.layout.suite c.noCache (c.opened s.observed) stages w ∧
      report.Accounts c stages ∧
      (∀ st ∈ stages, ∀ a ∈ st.attempts, a.Disciplined c.noCache st.planned.pattern) ∧
      w.device.calls.toList = stages.flatMap (·.calls) ∧
      w.Cold c.noCache keepCold ∧ w.Warned s.warnings := by
  obtain ⟨w, hrun, rfl⟩ := observed_of_run h
  obtain ⟨stages, hcourse, hresults, hskipped⟩ := course_of_run hrun
  obtain ⟨state, _, hsteps, _, _, rfl⟩ := run_ok_iff.1 hrun
  have hcold := c.cold_opened s
  obtain ⟨hend, hwarned⟩ := RunState.cold_of_steps hsteps hcold (c.warned_opened s)
  obtain ⟨hall, hcalls⟩ := hcourse.disciplined hcold
  exact ⟨_, stages, _, hrun, rfl, hcourse, accounts_of_course hcourse hresults hskipped, hall,
    hcalls, hend, hwarned⟩

/-- The calls of a run are those of its attempts, one after the other. An attempt begins with a drop
of the cache just when that is asked for and no drop has failed before; everything else is its
pattern's, which drops nothing. At most one drop fails. It is the last one, the one warning about
the cache tells of it, and no attempt and no pattern fails for it. The same holds up to any attempt
that a run begins, also if the run then aborts. -/
theorem run_drops_cache (c : Settings) (s : Session δ ο) :
    (∀ report s', c.run s = .ok (report, s') → ∃ w stages,
      c.run s.observed = .ok (report, w) ∧ w.plain = s' ∧
      Session.Course c.iterations.toNat c.layout.suite c.noCache (c.opened s.observed) stages w ∧
      report.Accounts c stages ∧
      (∀ st ∈ stages, ∀ a ∈ st.attempts, a.Disciplined c.noCache st.planned.pattern) ∧
      w.device.calls.toList = stages.flatMap (·.calls) ∧
      (c.noCache = false → ∀ call ∈ w.device.calls.toList, call.isDrop = false) ∧
      (w.device.calls.toList.Pairwise fun call later =>
        call.refusal?.isSome → later.isDrop = false) ∧
      w.refusals.length ≤ 1 ∧ s'.warnings = s.warnings ++ w.refusals) ∧
    (∀ planned keepCold t, c.Begins s.observed planned keepCold t →
      t.Cold c.noCache keepCold ∧ t.Warned s.warnings ∧
      (∃ before after stages middle count keepCold' attempts,
        c.layout.suite = before ++ planned :: after ∧
        Session.Course c.iterations.toNat before c.noCache (c.opened s.observed) stages middle ∧
        Session.Repeats planned count 1 keepCold' middle attempts keepCold t ∧
        (∀ st ∈ stages, ∀ a ∈ st.attempts, a.Disciplined c.noCache st.planned.pattern) ∧
        (∀ a ∈ attempts, a.Disciplined c.noCache planned.pattern) ∧
        t.device.calls.toList =
          stages.flatMap (·.calls) ++ attempts.flatMap (·.calls planned.pattern)) ∧
      ((t.chill keepCold).2.run planned.pattern).2.device.calls.toList =
        t.device.calls.toList ++ t.plain.attemptCalls planned.pattern keepCold) ∧
    ∀ (p : Pattern) (t : Session δ ο), ∀ call ∈ t.patternCalls p, call.isDrop = false := by
  refine ⟨?_, ?_, fun p t call => Session.isDrop_of_mem_patternCalls⟩
  · intro report s' h
    obtain ⟨w, stages, _, hrun, rfl, hcourse, haccounts, hall, hcalls, hend, hwarnings⟩ :=
      disciplined_of_run h
    refine ⟨w, stages, hrun, rfl, hcourse, haccounts, hall, hcalls, ?_, hend.spent,
      hend.refusals_le, hwarnings⟩
    intro hnot call hcall
    rw [hcalls] at hcall
    obtain ⟨st, hst, hcall⟩ := List.mem_flatMap.1 hcall
    obtain ⟨a, ha, hcall⟩ := List.mem_flatMap.1 hcall
    exact (hnot ▸ hall st hst a ha).isDrop_of_mem_calls hcall
  · intro planned keepCold t hbegins
    obtain ⟨hsuite, hsteps, _, hrepeated⟩ := hbegins
    have hcold := c.cold_opened s
    obtain ⟨hmiddle, hwarnings⟩ := RunState.cold_of_steps hsteps hcold (c.warned_opened s)
    obtain ⟨stages, hcourse, _⟩ := RunState.course_of_steps hsteps
    obtain ⟨attempts, hrepeats, _⟩ := Session.repeats_of_repeated hrepeated
    obtain ⟨hbefore, hcalls⟩ := hcourse.disciplined hcold
    obtain ⟨ht, hattempts, hcalls'⟩ := hrepeats.disciplined hmiddle
    rw [hcalls] at hcalls'
    exact ⟨ht, hrepeats.warned hwarnings, ⟨_, _, stages, _, _, _, attempts, hsuite, hcourse,
      hrepeats, hbefore, hattempts, hcalls'⟩, Session.calls_attempt planned.pattern keepCold t⟩

/-- The read of the first pattern fails, and so does the drop before the second pattern. The first
pattern is skipped, the others run to their end, and nothing is dropped before the last three. -/
theorem run_drops_cache_failed_drop :
    let c : Settings := { path := "plots", groupSize := 1, scanElements := 524288, noCache := true }
    let s : Session FaultyStore ScriptedOffsets :=
      ⟨{ store := { data := .counting 3145728 },
         faults := [⟨.drop, 2, .interrupted⟩, ⟨.read, 1, .interrupted⟩] }, ⟨#[7], 0⟩, #[]⟩
    (∃ report s' w, c.run s = .ok (report, s') ∧ c.run s.observed = .ok (report, w) ∧
      report.skipped.map (·.kind) = [.groupedScan] ∧
      w.device.calls.toList.map (·.isDrop) = [true, false, false, true, false, false,
        false, false, false, false, false, false] ∧
      w.refusals = [.interrupted] ∧ s'.warnings = [.interrupted]) ∧
    ∃ planned t, c.Begins s.observed planned true t ∧
      ((t.chill true).2.run planned.pattern).2.device.calls.toList =
        t.device.calls.toList ++ t.plain.attemptCalls planned.pattern true := by
  intro c s
  have hrecord : (c.run s.observed).map (fun (report, w) => (report.skipped.map (·.kind),
      w.device.calls.toList.map (·.isDrop), w.refusals)) =
      .ok ([.groupedScan], [true, false, false, true, false, false, false, false, false, false,
        false, false], [.interrupted]) := by decide +kernel
  refine ⟨?_, ?_⟩
  · obtain ⟨⟨report, w⟩, hrun, hread⟩ := map_eq_ok_iff.1 hrecord
    obtain ⟨hskipped, hrest⟩ := Prod.mk.inj hread
    obtain ⟨hdrops, hrefusals⟩ := Prod.mk.inj hrest
    have hplain : c.run s = .ok (report, w.plain) := by
      rw [← s.plain_observed, run_plain, hrun]
      rfl
    obtain ⟨w', _, hrun', _, _, _, _, _, _, _, _, hwarnings⟩ :=
      (run_drops_cache c s).1 report w.plain hplain
    rw [hrun] at hrun'
    cases hrun'
    rw [hrefusals] at hwarnings
    exact ⟨report, w.plain, w, hplain, hrun, hskipped, hdrops, hrefusals, hwarnings⟩
  · obtain ⟨planned, after, hsuite⟩ : ∃ planned after, c.layout.suite = planned :: after :=
      ⟨_, _, rfl⟩
    have hbegins : c.Begins s.observed planned true (c.opened s.observed) :=
      .first hsuite (by decide)
    obtain ⟨_, _, _, hcalls⟩ := (run_drops_cache c s).2.1 _ _ _ hbegins
    exact ⟨_, _, hbegins, hcalls⟩

end Settings
end ScanLatency
