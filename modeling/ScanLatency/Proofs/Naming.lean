import ScanLatency.Proofs.Accounting
import ScanLatency.Proofs.Charges

/-! Which pattern an error or a journal entry is about. A pattern fails under one name, wherever it
fails and whatever it is run on, and every entry that the journal of a run gains is about the planned
pattern that was being run. That name is the short name of the pattern, except that a singles scan
fails as random seeks. -/
namespace ScanLatency

def PatternError.pattern : PatternError → String
  | .sizing pattern _ _ => pattern
  | .spanOverflow pattern => pattern
  | .io pattern _ => pattern

namespace Pattern

variable {p : Pattern}

theorem pattern_of_maxStart {size : UInt64} {cause : PatternError}
    (h : p.maxStart size = .error cause) : cause.pattern = p.runName := by
  unfold maxStart at h
  split at h
  next =>
    cases h
    rfl
  next =>
    split at h
    next => cases h
    next =>
      cases h
      rfl

theorem runName_eq_name (h : ∀ n scanSize, p ≠ .singlesScan n scanSize) : p.runName = p.name := by
  cases p with
  | singlesScan n scanSize => exact absurd rfl (h n scanSize)
  | _ => rfl

end Pattern

/-! ### Entries about one pattern -/

namespace Event

/-- What one run of a pattern may enter: that reads came back short. Only a grouped scan reads in
place. -/
inductive OfPattern (p : Pattern) : Event → Prop
  | shortRead (bytes offset : UInt64) :
      OfPattern p (.notice (.shortRead bytes offset p.runName p.schedule.length))
  | shortContinuation {n scanSize : UInt64} (bytes : UInt64)
      (grouped : p = .groupedScan n scanSize) :
      OfPattern p (.notice (.shortContinuation bytes scanSize))

/-- What the attempts at a planned pattern may enter. A drop of the cache belongs to no pattern. -/
inductive OfAttempts (planned : PlannedPattern) : Event → Prop
  | run {e : Event} (h : OfPattern planned.pattern e) : OfAttempts planned e
  | cacheKept (cause : IoError) : OfAttempts planned (.notice (.cacheKept cause))
  | iterationFailed {cause : PatternError} (number : ℕ)
      (named : cause.pattern = planned.pattern.runName) :
      OfAttempts planned (.notice (.iterationFailed planned.kind number cause))

/-- What a planned pattern may enter from its first attempt to its result or its skip. -/
inductive OfPlanned (planned : PlannedPattern) : Event → Prop
  | attempt {e : Event} (h : OfAttempts planned e) : OfPlanned planned e
  | aborted {cause : PatternError} (named : cause.pattern = planned.pattern.runName) :
      OfPlanned planned (.notice (.aborted planned.kind cause))
  | skipped {cause : PatternError} (named : cause.pattern = planned.pattern.runName) :
      OfPlanned planned (.skipped planned.kind cause)
  | cameShort (short total : ℕ) : OfPlanned planned (.notice (.cameShort planned.kind short total))
  | completed (statistics : Option Statistics) :
      OfPlanned planned (.completed planned.label statistics)

end Event

namespace Session

variable {δ ο : Type}

/-- The journal goes on from one session to another with events of some sort. -/
def Enters (allowed : Event → Prop) (s t : Session δ ο) : Prop :=
  ∃ events, t.journal.toList = s.journal.toList ++ events ∧ ∀ e ∈ events, allowed e

namespace Enters

variable {allowed : Event → Prop} {s t u : Session δ ο}

theorem of_journal_eq (h : t.journal = s.journal) : Enters allowed s t :=
  ⟨[], by simp [h], List.forall_mem_nil _⟩

theorem trans (h : Enters allowed s t) (h' : Enters allowed t u) : Enters allowed s u := by
  obtain ⟨events, hevents, hall⟩ := h
  obtain ⟨more, hmore, hall'⟩ := h'
  exact ⟨events ++ more, by simp [hmore, hevents], List.forall_mem_append.2 ⟨hall, hall'⟩⟩

theorem mono (h : Enters allowed s t) {allowed' : Event → Prop}
    (hmono : ∀ e, allowed e → allowed' e) : Enters allowed' s t := by
  obtain ⟨events, hevents, hall⟩ := h
  exact ⟨events, hevents, fun e he => hmono e (hall e he)⟩

theorem record {e : Event} (h : Enters allowed s t) (he : allowed e) :
    Enters allowed s (RunState.record e t) :=
  h.trans ⟨[e], by simp [RunState.record], by simpa using he⟩

theorem note {n : Notice} (h : Enters allowed s t) (hn : allowed (.notice n)) :
    Enters allowed s (t.note n) := h.record hn

end Enters

variable [Device δ] [OffsetSource ο] {p : Pattern} {limit : UInt64} {start last : Option UInt64}
  {reads : List Read} {s t s' : Session δ ο}

def shortNotices (p : Pattern) (reads : List Read) : List Notice :=
  reads.filterMap fun r => shortNotice p r.target r.sample

/-- The journal gains a notice for each read that came back short, and nothing else. -/
theorem Reads.journal_eq (h : Reads p limit start last s reads t) :
    t.journal.toList = s.journal.toList ++ (shortNotices p reads).map .notice := by
  induction h with
  | done => simp [shortNotices]
  | @read _ target sample _ _ rest _ _ _ _ _ ih =>
    rw [ih, noteShort]
    cases hnotice : shortNotice p target sample <;> simp [shortNotices, hnotice, note]

theorem Stops.journal_eq {halt : Halt PatternError} (h : Stops p limit start last s halt s') :
    s'.journal = s.journal := by
  cases h <;> rfl

/-- A read without a target of its own is a read in place, and not the first one. -/
theorem Reads.later_of_target_none (h : Reads p limit start last s reads t) {r : Read}
    (hr : r ∈ reads) (hnone : r.target = none) :
    p.schedule.later = .contiguous ∧ (last = none → 2 ≤ reads.length) := by
  induction h with
  | done => cases hr
  | @read last target sample _ _ rest _ _ targeted _ _ ih =>
    rcases List.mem_cons.1 hr with rfl | hr
    · have htarget := isSome_target targeted
      rw [show target = none from hnone] at htarget
      simp only [Option.isSome_none, Bool.false_eq_true, false_iff, not_or, not_not] at htarget
      exact ⟨htarget.1, fun hlast => absurd hlast htarget.2⟩
    · have hpos := List.length_pos_of_mem hr
      exact ⟨(ih hr).1, fun _ => Nat.succ_le_succ hpos⟩

/-- Only a grouped scan has reads without a target of their own. -/
theorem Reads.grouped_of_target_none (h : Reads p limit start none s reads t)
    (hlength : reads.length ≤ p.schedule.reads) {r : Read} (hr : r ∈ reads)
    (hnone : r.target = none) : ∃ n, p = .groupedScan n p.schedule.length := by
  obtain ⟨hlater, htwo⟩ := h.later_of_target_none hr hnone
  have hreads := (htwo rfl).trans hlength
  cases p with
  | groupedScan n scanSize => exact ⟨n, rfl⟩
  | sequentialLarge totalBytes => exact absurd hreads (by simp [Pattern.schedule])
  | _ => cases hlater

theorem Reads.enters (h : Reads p limit start none s reads t)
    (hlength : reads.length ≤ p.schedule.reads) : Enters (Event.OfPattern p) s t := by
  refine ⟨_, h.journal_eq, ?_⟩
  simp only [shortNotices, List.mem_map, List.mem_filterMap]
  rintro _ ⟨n, ⟨r, hr, hnotice⟩, rfl⟩
  unfold shortNotice at hnotice
  split at hnotice
  next =>
    cases hnotice
    cases htarget : r.target with
    | some offset => exact .shortRead _ _
    | none =>
      obtain ⟨n, hgrouped⟩ := h.grouped_of_target_none hlength hr htarget
      exact .shortContinuation _ hgrouped
  next => cases hnotice

/-! ### One pattern -/

/-- A pattern fails under its own name, wherever it fails. -/
theorem pattern_of_run {cause : PatternError} (h : s.run p = (.error (.failed cause), s')) :
    cause.pattern = p.runName := by
  rcases stops_of_run h with ⟨_, hcause, hhalt, _⟩ | ⟨_, _,
    ⟨_, _, _, hhalt, _⟩ | ⟨_, _, _, _, _, _, _, hstops⟩⟩
  · cases hhalt
    exact Pattern.pattern_of_maxStart hcause
  · cases hhalt
  · obtain ⟨_, _, rfl, _⟩ := hstops.io
    rfl

/-- However a run of a pattern ends, it has entered nothing but notices of its short reads. -/
theorem enters_run (p : Pattern) (s : Session δ ο) : Enters (Event.OfPattern p) s (s.run p).2 := by
  rcases hrun : s.run p with ⟨halt | samples, s'⟩
  · rcases stops_of_run hrun with ⟨_, _, _, rfl⟩ | ⟨_, _,
      ⟨_, _, _, _, rfl⟩ | ⟨_, _, _, _, _, hreads, hlength, hstops⟩⟩
    · exact .of_journal_eq rfl
    · exact .of_journal_eq rfl
    · exact (hreads.enters hlength.le).trans (.of_journal_eq hstops.journal_eq)
  · obtain ⟨_, _, _, _, _, _, hreads, hlength, _⟩ := reads_of_run hrun
    exact hreads.enters hlength.le

/-! ### A whole run -/

omit [OffsetSource ο] in
theorem enters_chill (planned : PlannedPattern) (keepCold : Bool) (s : Session δ ο) :
    Enters (Event.OfAttempts planned) s (s.chill keepCold).2 := by
  unfold chill
  split
  · split
    · exact .of_journal_eq rfl
    · exact .note (.of_journal_eq rfl) (.cacheKept _)
  · exact .of_journal_eq rfl

/-- What repetitions of a planned pattern enter; and their failure has the name of the pattern. -/
theorem enters_repeated {planned : PlannedPattern} {n number : ℕ} {keepCold keepCold' : Bool}
    {samples : Array Sample} {outcome : Except PatternError (Array Sample)}
    (h : s.repeated planned n number keepCold samples = .ok (outcome, keepCold', s')) :
    Enters (Event.OfAttempts planned) s s' ∧
      ∀ cause, outcome = .error cause → cause.pattern = planned.pattern.runName := by
  induction n generalizing number keepCold samples s with
  | zero =>
    cases h
    exact ⟨.of_journal_eq rfl, nofun⟩
  | succ n ih =>
    have hattempt : Enters (Event.OfAttempts planned) s
        ((s.chill keepCold).2.run planned.pattern).2 :=
      (enters_chill planned keepCold s).trans ((enters_run planned.pattern _).mono fun _ => .run)
    simp only [repeated] at h
    split at h
    next => cases h
    next cause left hrun =>
      cases h
      have hnamed := pattern_of_run hrun
      rw [hrun] at hattempt
      refine ⟨hattempt.note (.iterationFailed number hnamed), ?_⟩
      rintro _ ⟨⟩
      exact hnamed
    next more left hrun =>
      rw [hrun] at hattempt
      split at h
      next => cases h
      next =>
        obtain ⟨hrest, hnamed⟩ := ih h
        exact ⟨hattempt.trans hrest, hnamed⟩

end Session

namespace RunState

variable {δ ο : Type}

theorem enters_skip {planned : PlannedPattern} {cause : PatternError}
    (hnamed : cause.pattern = planned.pattern.runName) (state : RunState δ ο) :
    Session.Enters (Event.OfPlanned planned) state.session
      (state.skip planned.kind cause).session := by
  unfold skip
  split
  · exact .record (.of_journal_eq rfl) (.skipped hnamed)
  · exact .record (.note (.of_journal_eq rfl) (.aborted hnamed)) (.skipped hnamed)

theorem enters_complete {planned : PlannedPattern} {fileSize : UInt64} {samples : Array Sample}
    {state state' : RunState δ ο}
    (h : state.complete ((PatternResult.ofPlanned planned fileSize).extend samples) = .ok state') :
    Session.Enters (Event.OfPlanned planned) state.session state'.session := by
  unfold complete at h
  split at h
  next => cases h
  next statistics _ =>
    cases h
    dsimp only
    split
    · exact .record (.of_journal_eq rfl) (.completed statistics)
    · exact .record (.note (.of_journal_eq rfl) (.cameShort _ _)) (.completed statistics)

variable [Device δ] [OffsetSource ο] {iterations fileSize : UInt64} {state state' : RunState δ ο}

theorem enters_step {planned : PlannedPattern}
    (h : step iterations fileSize planned state = .ok state') :
    Session.Enters (Event.OfPlanned planned) state.session state'.session := by
  unfold step at h
  split at h
  next => cases h
  next cause keepCold session heq =>
    obtain ⟨hentered, hnamed⟩ := Session.enters_repeated heq
    cases h
    exact (hentered.mono fun _ => .attempt).trans
      (enters_skip (hnamed cause rfl) { state with session, keepCold })
  next samples keepCold session heq =>
    obtain ⟨hentered, _⟩ := Session.enters_repeated heq
    exact (hentered.mono fun _ => .attempt).trans (enters_complete h)

/-- The journal of a run falls into parts, one for each planned pattern in order. -/
theorem exists_parts {plans : List PlannedPattern}
    (h : steps iterations fileSize plans state = .ok state') :
    ∃ parts, state'.session.journal.toList = state.session.journal.toList ++ parts.flatten ∧
      List.Forall₂ (fun planned part => ∀ e ∈ part, Event.OfPlanned planned e) plans parts := by
  induction plans generalizing state with
  | nil =>
    cases h
    exact ⟨[], by simp, .nil⟩
  | cons planned plans ih =>
    unfold steps at h
    split at h
    next => cases h
    next hstep =>
      obtain ⟨part, hpart, hall⟩ := enters_step hstep
      obtain ⟨parts, hparts, hrest⟩ := ih h
      refine ⟨part :: parts, ?_, .cons hall hrest⟩
      rw [hparts, hpart, List.flatten_cons, List.append_assoc]

end RunState

namespace Settings

variable {δ ο : Type} [Device δ] [OffsetSource ο]

/-- A kind is skipped under the name of its planned pattern. -/
theorem pattern_of_mem_skipped {c : Settings} {s s' : Session δ ο} {report : RunReport}
    (h : c.run s = .ok (report, s')) {skipped : SkippedPattern}
    (hskipped : skipped ∈ report.skipped) : ∃ planned ∈ c.layout.suite,
      skipped.kind = planned.kind ∧ skipped.cause.pattern = planned.pattern.runName := by
  obtain ⟨stages, hcourse, _, hlisted⟩ := course_of_run h
  rw [hlisted, List.mem_filterMap] at hskipped
  obtain ⟨st, hst, hskip⟩ := hskipped
  obtain ⟨cause, hfailure, rfl⟩ := Option.map_eq_some_iff.1 hskip
  obtain ⟨_, _, _, _, hrepeats⟩ := hcourse.repeats_of_mem st hst
  obtain ⟨a, ha, houtcome⟩ := (hrepeats.failure_eq_some_iff cause).1 hfailure
  have hmade := hrepeats.made a ha
  rw [Attempt.Made, houtcome] at hmade
  exact ⟨st.planned, hcourse.map_planned ▸ List.mem_map_of_mem hst, rfl,
    Session.pattern_of_run hmade⟩

/-- Every failure of a pattern, on whatever device and at whatever offsets, is reported under the
name that the pattern runs under: its short name, but "random seeks" for a singles scan. The journal
of a whole run falls into one part for each planned pattern, in order, and every entry of a part is
about that pattern; so is every cause of a skip. -/
theorem failures_named :
    (∀ (p : Pattern) (s s' : Session δ ο) (cause : PatternError),
      s.run p = (.error (.failed cause), s') →
      ((∀ n scanSize, p ≠ .singlesScan n scanSize) → cause.pattern = p.name) ∧
        ∀ n scanSize, p = .singlesScan n scanSize → cause.pattern = "random seeks") ∧
    ∀ (c : Settings) (s s' : Session δ ο) (report : RunReport), c.run s = .ok (report, s') →
      (∃ parts, s'.journal.toList = (c.opened s).journal.toList ++ parts.flatten ∧
        List.Forall₂ (fun planned part => ∀ e ∈ part, Event.OfPlanned planned e)
          c.layout.suite parts) ∧
      ∀ skipped ∈ report.skipped, ∃ planned ∈ c.layout.suite, skipped.kind = planned.kind ∧
        skipped.cause.pattern = planned.pattern.runName := by
  constructor
  · intro p s s' cause h
    have hnamed := Session.pattern_of_run h
    refine ⟨fun hp => hnamed.trans (Pattern.runName_eq_name hp), ?_⟩
    rintro n scanSize rfl
    exact hnamed
  · intro c s s' report h
    obtain ⟨_, _, hsteps, _, _, rfl⟩ := run_ok_iff.1 h
    exact ⟨RunState.exists_parts hsteps, fun _ => pattern_of_mem_skipped h⟩

/-- On ten bytes no pattern of the suite fits. -/
theorem failures_named_small_store :
    let c : Settings := { path := "plots" }
    let s : Session MemoryStore ScriptedOffsets := ⟨.ofBytes (.counting 10), ⟨#[], 0⟩, #[]⟩
    (∃ cause s', s.run (.groupedScan 3 4) = (.error (.failed cause), s') ∧
      cause.pattern = "grouped sequential read") ∧
    ∃ report s' parts, c.run s = .ok (report, s') ∧
      s'.journal.toList = (c.opened s).journal.toList ++ parts.flatten ∧
      List.Forall₂ (fun planned part => ∀ e ∈ part, Event.OfPlanned planned e)
        c.layout.suite parts ∧
      report.skipped.map (·.cause.pattern) = ["grouped sequential read", "random seeks",
        "stride pattern", "sequential read", "sequential read"] := by
  intro c s
  have hgrouped : s.run (.groupedScan 3 4) =
      (.error (.failed (.sizing "grouped sequential read" 12 10)), s) :=
    Session.run_of_maxStart_error (by decide)
  have hskipped : (c.run s).map (·.1.skipped.map (·.cause.pattern)) =
      .ok ["grouped sequential read", "random seeks", "stride pattern", "sequential read",
        "sequential read"] := by decide +kernel
  obtain ⟨⟨report, s'⟩, hrun, hpatterns⟩ := map_eq_ok_iff.1 hskipped
  obtain ⟨hfails, hruns⟩ := failures_named (δ := MemoryStore) (ο := ScriptedOffsets)
  obtain ⟨⟨parts, hparts, hall⟩, _⟩ := hruns c s s' report hrun
  exact ⟨⟨_, s, hgrouped, (hfails _ s s _ hgrouped).1 nofun⟩,
    report, s', parts, hrun, hparts, hall, hpatterns⟩

/-- A singles scan of eleven bytes does not fit ten, and says so as random seeks. -/
theorem not_forall_failures_named : ¬∀ (p : Pattern) (s s' : Session MemoryStore ScriptedOffsets)
    (cause : PatternError), s.run p = (.error (.failed cause), s') → cause.pattern = p.name := by
  intro h
  have hnamed := h (.singlesScan 1 11) ⟨.ofBytes (.counting 10), ⟨#[], 0⟩, #[]⟩ _
    (.sizing "random seeks" 11 10) (Session.run_of_maxStart_error (by decide))
  exact absurd hnamed (by decide)

end Settings
end ScanLatency
