import ScanLatency.Proofs.Begun
import ScanLatency.Proofs.Completion
import ScanLatency.Proofs.OffsetIndependence

/-! Where the time of a run goes. On a metered device, only seeks and reads take time, and each of
them lies inside one sample: the samples of a run that nothing fails in add up to the time that the
run took. A failed read takes time that no sample shows, and a skipped pattern loses the samples of
its earlier attempts, so that a run with failures reports less, never more. -/
namespace ScanLatency

namespace Device

variable {δ : Type} [Device δ]

def time (d : δ) : ℕ := (Clock.now d).1.toNat

theorem time_lt (d : δ) : time d < wordCount := UInt64.toNat_lt _

/-- Seeks and reads move the clock, each time by any amount, but never back; nothing else moves it.
-/
structure Metered (d : δ) : Prop where
  now {e : δ} (h : Reaches d e) : time (Clock.now e).2 = time e
  seek {e : δ} (h : Reaches d e) (offset : UInt64) : time e ≤ time (Device.seek offset e).2
  read {e : δ} (h : Reaches d e) (length : UInt64) : time e ≤ time (Device.read length e).2
  dropCache {e : δ} (h : Reaches d e) : time (Device.dropCache e).2 = time e

/-- The size of a device stays the same while it is in use, as the interface asks. -/
def FixedSize (d : δ) : Prop := ∀ e, Reaches d e → size e = size d

theorem FixedSize.of_reaches {d e : δ} (h : FixedSize d) (hreach : Reaches d e) : FixedSize e :=
  fun f hf => (h f (hreach.trans hf)).trans (h e hreach).symm

namespace Metered

variable {d d' e : δ}

theorem of_reaches (h : Metered d) (hreach : Reaches d e) : Metered e where
  now hf := h.now (hreach.trans hf)
  seek hf := h.seek (hreach.trans hf)
  read hf := h.read (hreach.trans hf)
  dropCache hf := h.dropCache (hreach.trans hf)

theorem le_of_reaches (h : Metered d) (hreach : Reaches d e) : time d ≤ time e := by
  induction hreach with
  | refl => exact Nat.le_refl _
  | now hf ih => rwa [h.now hf]
  | seek offset hf ih => exact ih.trans (h.seek hf offset)
  | read length hf ih => exact ih.trans (h.read hf length)
  | dropCache hf ih => rwa [h.dropCache hf]

/-- A sample lasts as long as its access takes, to the nanosecond. -/
theorem time_sample (h : Metered d) {target : Option UInt64} {length : UInt64} {s : Sample}
    (hs : sample target length d = (.ok s, d')) : time d' = time d + s.nanos.toNat := by
  obtain ⟨got, t, haccess, rfl, rfl⟩ := sampled_ok hs
  have hopen : Reaches d (Clock.now d).2 := .now .refl
  have hreach : Reaches (Clock.now d).2 t := by
    have := reaches_access target length (Clock.now d).2
    rwa [haccess] at this
  have hstart : time (Clock.now d).2 = time d := h.now .refl
  have hend : time (Clock.now t).2 = time t := h.now (hopen.trans hreach)
  have hle : time d ≤ time t := by
    rw [← hstart]
    exact (h.of_reaches hopen).le_of_reaches hreach
  have hnanos : (Word.saturatingSub (Clock.now t).1 (Clock.now d).1).toNat = time t - time d :=
    Word.toNat_saturatingSub _ _
  show time (Clock.now t).2 = time d + (Word.saturatingSub (Clock.now t).1 (Clock.now d).1).toNat
  omega

end Metered
end Device

namespace Session

variable {δ ο : Type} [Device δ] [OffsetSource ο]

omit [OffsetSource ο] in
theorem time_chill {s : Session δ ο} (hd : Device.Metered s.device) (keepCold : Bool) :
    Device.time (s.chill keepCold).2.device = Device.time s.device := by
  have hdrop := hd.dropCache .refl
  unfold chill
  split
  next =>
    split
    next heq => rwa [heq] at hdrop
    next heq => rwa [heq] at hdrop
  next => rfl

theorem Reads.time_eq {p : Pattern} {limit : UInt64} {start last : Option UInt64}
    {reads : List Read} {s s' : Session δ ο} (h : Reads p limit start last s reads s')
    (hd : Device.Metered s.device) :
    Device.time s'.device = Device.time s.device + readTime reads := by
  induction h with
  | done => simp [readTime]
  | @read last target sample source device rest s s' _ hsample _ ih =>
    have hreach := Device.reaches_sample target p.schedule.length s.device
    rw [hsample] at hreach
    have hrest := ih (by rw [noteShort_device]; exact hd.of_reaches hreach)
    have hfirst := hd.time_sample hsample
    rw [noteShort_device] at hrest
    rw [hrest, readTime_cons]
    show Device.time device + readTime rest =
      Device.time s.device + (sample.nanos.toNat + readTime rest)
    omega

theorem time_of_run {p : Pattern} {samples : Array Sample} {s s' : Session δ ο}
    (hd : Device.Metered s.device) (h : s.run p = (.ok samples, s')) :
    Device.time s'.device = Device.time s.device + sampleTime samples := by
  obtain ⟨_, _, _, reads, _, _, hreads, _, hall⟩ := reads_of_run h
  rw [sampleTime_eq_readTime hall]
  exact hreads.time_eq hd

/-- A pattern that fits fails for an operation, not for its size. -/
theorem isSizing_of_fits {p : Pattern} {limit : UInt64} {s s' : Session δ ο} {cause : PatternError}
    (hfits : p.maxStart (Device.size s.device) = .ok limit)
    (h : s.run p = (.error (.failed cause), s')) : cause.isSizing = false := by
  rw [← Bool.not_eq_true]
  intro hsizing
  have hcause := (run_eq_refused_iff hsizing).1 (congrArg Prod.fst h)
  rw [hfits] at hcause
  cases hcause

theorem time_of_sizing {p : Pattern} {s s' : Session δ ο} {cause : PatternError}
    (h : s.run p = (.error (.failed cause), s')) (hsizing : cause.isSizing) :
    Device.time s'.device = Device.time s.device := by
  have hcause := (run_eq_refused_iff hsizing).1 (congrArg Prod.fst h)
  rw [run_of_maxStart_error hcause] at h
  cases h
  rfl

end Session

namespace MemoryStore

theorem time_le_of_advance {nanos : UInt64} {m m' : MemoryStore} (h : m.advance nanos = .ok m') :
    m.clock.time.toNat ≤ m'.clock.time.toNat := by
  obtain ⟨clock, hclock, rfl⟩ := advance_ok h
  have htime := ManualClock.toNat_time_advance hclock
  show m.clock.time.toNat ≤ clock.time.toNat
  omega

theorem time_le_of_seek {offset : UInt64} {m m' : MemoryStore} (h : m.seek offset = .ok m') :
    m.clock.time.toNat ≤ m'.clock.time.toNat := by
  obtain ⟨clock, hclock, rfl⟩ := seek_ok h
  have htime := ManualClock.toNat_time_advance hclock
  show m.clock.time.toNat ≤ clock.time.toNat
  omega

theorem time_le_of_skim {wanted length : UInt64} {m m' : MemoryStore}
    (h : m.skim wanted = .ok (length, m')) : m.clock.time.toNat ≤ m'.clock.time.toNat := by
  obtain ⟨clock, hclock, _, rfl⟩ := skim_ok h
  have htime := ManualClock.toNat_time_advance hclock
  show m.clock.time.toNat ≤ clock.time.toNat
  omega

end MemoryStore

/-- Every store is metered, whatever its latencies, its extra times and its faults. -/
theorem FaultyStore.metered (f : FaultyStore) : Device.Metered f where
  now _ := rfl
  seek {e} _ offset := by
    show e.store.clock.time.toNat ≤ (e.seek offset).2.store.clock.time.toNat
    unfold FaultyStore.seek
    simp only
    split
    next => exact Nat.le_refl _
    next =>
      split
      next => exact Nat.le_refl _
      next hseek => exact MemoryStore.time_le_of_seek hseek
  read {e} _ length := by
    show e.store.clock.time.toNat ≤ (e.read length).2.store.clock.time.toNat
    unfold FaultyStore.read
    simp only
    split
    next => exact Nat.le_refl _
    next =>
      split
      next => exact Nat.le_refl _
      next waited hwaited =>
        have hextra := MemoryStore.time_le_of_advance hwaited
        split
        next => exact hextra
        next hskim => exact hextra.trans (MemoryStore.time_le_of_skim hskim)
  dropCache {e} _ := by
    show e.dropCache.2.store.clock.time.toNat = e.store.clock.time.toNat
    unfold FaultyStore.dropCache
    split
    next => rfl
    next =>
      simp only
      split <;> rfl

def Attempt.timeOf {δ ο : Type} (attempts : List (Attempt δ ο)) : ℕ :=
  Word.exactSum ((attempts.flatMap (·.samples)).map (·.nanos))

def PatternResult.timeOf (results : List PatternResult) : ℕ :=
  (results.map fun r => Session.sampleTime r.samples).sum

namespace Session

variable {δ ο : Type} [Device δ] [OffsetSource ο]

namespace Repeats

variable {planned : PlannedPattern} {n number : ℕ} {keepCold keepCold' : Bool}
  {attempts : List (Attempt δ ο)} {s s' : Session δ ο}

/-- Repetitions without a failure take as long as their samples. -/
theorem time_of_kept (h : Repeats planned n number keepCold s attempts keepCold' s')
    (hd : Device.Metered s.device) (hnone : attempts.findSome? (·.failure?) = none) :
    Device.time s'.device = Device.time s.device + Attempt.timeOf attempts := by
  induction h with
  | done => rfl
  | @kept _ _ keepCold s samples left rest _ _ made _ ih =>
    have hchill := hd.of_reaches (reaches_chill keepCold s)
    have hfirst : Device.time left.device =
        Device.time (s.chill keepCold).2.device + sampleTime samples := time_of_run hchill made
    have hrest := ih (hd.of_reaches made.reaches) (by simpa [Attempt.failure?] using hnone)
    have hsum : Attempt.timeOf (⟨keepCold, s, .ok samples, left⟩ :: rest) =
        sampleTime samples + Attempt.timeOf rest := by
      simp [Attempt.timeOf, Attempt.samples, sampleTime, Word.exactSum_append]
    rw [time_chill hd] at hfirst
    omega
  | failed => cases hnone

theorem isSizing_of_fits (h : Repeats planned n number keepCold s attempts keepCold' s')
    (hsize : Device.FixedSize s.device) {limit : UInt64}
    (hfits : planned.pattern.maxStart (Device.size s.device) = .ok limit) {cause : PatternError}
    (hcause : attempts.findSome? (·.failure?) = some cause) : cause.isSizing = false := by
  induction h with
  | done => cases hcause
  | @kept _ _ keepCold s _ left _ _ _ made _ ih =>
    apply ih (hsize.of_reaches made.reaches)
    · rw [hsize left.device made.reaches]
      exact hfits
    · simpa [Attempt.failure?] using hcause
  | @failed _ _ keepCold s cause' _ made =>
    cases hcause
    have hsame := hsize _ (reaches_chill keepCold s)
    exact Session.isSizing_of_fits (by rw [hsame]; exact hfits) made

/-- Where the size of the device is fixed, a pattern that is refused for its size takes no time. -/
theorem time_of_sizing (h : Repeats planned n number keepCold s attempts keepCold' s')
    (hd : Device.Metered s.device) (hsize : Device.FixedSize s.device) {cause : PatternError}
    (hcause : attempts.findSome? (·.failure?) = some cause) (hsizing : cause.isSizing) :
    Device.time s'.device = Device.time s.device := by
  cases h with
  | done => cases hcause
  | @kept _ _ _ _ _ left _ _ _ made tail =>
    -- The first attempt has found enough room, so that no later one can lack it.
    obtain ⟨limit, _, _, _, hlimit, _⟩ := reads_of_run made
    have hleft := hsize left.device made.reaches
    have hchill := hsize _ (reaches_chill keepCold s)
    rw [hchill, ← hleft] at hlimit
    have hrest := tail.isSizing_of_fits (hsize.of_reaches made.reaches) hlimit
      (by simpa [Attempt.failure?] using hcause)
    rw [hrest] at hsizing
    cases hsizing
  | failed made =>
    cases hcause
    exact (Session.time_of_sizing made hsizing).trans (time_chill hd keepCold)

end Repeats

/-- A course takes at least as long as its results report, and exactly as long if the size of the
device is fixed and no operation failed. -/
theorem Course.time_le {iterations : ℕ} {plans : List PlannedPattern} {keepCold : Bool}
    {stages : List (Stage δ ο)} {s s' : Session δ ο}
    (h : Course iterations plans keepCold s stages s') (hd : Device.Metered s.device)
    (fileSize : UInt64) :
    Device.time s.device + PatternResult.timeOf (stages.filterMap (·.result? fileSize)) ≤
        Device.time s'.device ∧
      (Device.FixedSize s.device →
        (∀ st ∈ stages, ∀ cause, st.failure? = some cause → cause.isSizing) →
        Device.time s.device + PatternResult.timeOf (stages.filterMap (·.result? fileSize)) =
          Device.time s'.device) := by
  induction h with
  | done => exact ⟨Nat.le_refl _, fun _ _ => rfl⟩
  | @stage planned plans keepCold s attempts keepCold' left entries stages s' repeats tail ih =>
    have hreach : Device.Reaches s.device left.device := repeats.reaches
    obtain ⟨hle, heq⟩ := ih (hd.of_reaches hreach)
    have hsizes (hsize : Device.FixedSize s.device) := heq (hsize.of_reaches hreach)
    cases hfailure : Stage.failure? ⟨planned, attempts, entries⟩ with
    | none =>
      have htime := repeats.time_of_kept hd hfailure
      have hsum : PatternResult.timeOf (List.filterMap (·.result? fileSize)
          (⟨planned, attempts, entries⟩ :: stages)) =
          Attempt.timeOf attempts +
            PatternResult.timeOf (stages.filterMap (·.result? fileSize)) := by
        simp [PatternResult.timeOf, Attempt.timeOf, Stage.result?, hfailure, Stage.samples,
          PatternResult.extend, PatternResult.ofPlanned, sampleTime]
      simp only at hle hsizes
      rw [hsum]
      refine ⟨by omega, ?_⟩
      intro hsize hskips
      have := hsizes hsize (List.forall_mem_cons.1 hskips).2
      omega
    | some cause =>
      have htime := hd.le_of_reaches hreach
      have hsum : List.filterMap (·.result? fileSize) (⟨planned, attempts, entries⟩ :: stages) =
          stages.filterMap (·.result? fileSize) := by
        simp [Stage.result?, hfailure]
      simp only at hle hsizes
      rw [hsum]
      refine ⟨by omega, ?_⟩
      intro hsize hskips
      obtain ⟨hfirst, hrest⟩ := List.forall_mem_cons.1 hskips
      have hsame := repeats.time_of_sizing hd hsize hfailure (hfirst cause hfailure)
      have := hsizes hsize hrest
      omega

theorem sampleTime_lt {p : Pattern} {samples : Array Sample} {s s' : Session δ ο}
    (hd : Device.Metered s.device) (h : s.run p = (.ok samples, s')) :
    sampleTime samples < wordCount := by
  have htime := time_of_run hd h
  have hlt := Device.time_lt s'.device
  omega

theorem sampleTime_lt_of_repeated {planned : PlannedPattern} {n number : ℕ}
    {keepCold keepCold' : Bool} {samples : Array Sample} {s s' : Session δ ο}
    (hd : Device.Metered s.device)
    (h : s.repeated planned n number keepCold #[] = .ok (.ok samples, keepCold', s')) :
    sampleTime samples < wordCount := by
  obtain ⟨attempts, hrepeats, hnone, hall⟩ := repeats_of_repeated h
  have htime := hrepeats.time_of_kept hd hnone
  have hsum : sampleTime samples = Attempt.timeOf attempts := by
    simp [sampleTime, Attempt.timeOf, hall]
  have hlt := Device.time_lt s'.device
  omega

end Session

theorem PatternResult.sampleTime_le_timeOf {results : List PatternResult} {r : PatternResult}
    (hr : r ∈ results) : Session.sampleTime r.samples ≤ timeOf results := by
  induction results with
  | nil => cases hr
  | cons first rest ih =>
    have hsum : timeOf (first :: rest) = Session.sampleTime first.samples + timeOf rest := rfl
    rcases List.mem_cons.1 hr with rfl | hr
    · omega
    · have := ih hr
      omega

namespace Settings

variable {δ ο : Type} [Device δ] [OffsetSource ο]

theorem sampleTime_lt_of_steps {iterations fileSize : UInt64} {plans : List PlannedPattern}
    {keepCold : Bool} {s : Session δ ο} {state : RunState δ ο} (hd : Device.Metered s.device)
    (h : RunState.steps iterations fileSize plans ⟨s, keepCold, #[], #[]⟩ = .ok state) :
    ∀ r ∈ state.results.toList, Session.sampleTime r.samples < wordCount := by
  obtain ⟨stages, hcourse, hresults, _⟩ := RunState.course_of_steps h
  obtain ⟨hle, _⟩ := hcourse.time_le hd fileSize
  rw [List.nil_append] at hresults
  intro r hr
  rw [hresults] at hr
  have hpart := PatternResult.sampleTime_le_timeOf hr
  have hlt := Device.time_lt state.session.device
  omega

/-- A run on a metered device aborts inside the run of a pattern or not at all: no sum over samples
is too large, neither over one attempt nor over a whole result. -/
theorem aborts_inside (c : Settings) {s : Session δ ο} (hd : Device.Metered s.device)
    {abort : Abort} (h : c.run s = .error abort) :
    ∃ planned keepCold t, c.Begins s planned keepCold t ∧
      ((t.chill keepCold).2.run planned.pattern).1 = .error (.aborted abort) := by
  rcases run_aborted h with hsteps | ⟨state, hsteps, hcomparison⟩
  · obtain ⟨before, planned, after, middle, hsuite, hbefore, habort⟩ :=
      RunState.steps_aborted hsteps
    have hmiddle := hd.of_reaches (RunState.reaches_of_steps hbefore)
    unfold RunState.step at habort
    split at habort
    next hrepeated =>
      cases habort
      obtain ⟨j, hj, all, keepCold, t, hearlier, hinside | ⟨more, left, hrun, hsum⟩⟩ :=
        Session.repeated_aborted hrepeated
      · exact ⟨planned, keepCold, t, .intro hsuite hbefore hj hearlier, hinside⟩
      · -- The samples of a completed attempt have a sum.
        have ht := hmiddle.of_reaches (Session.reaches_of_repeated hearlier)
        obtain ⟨total, htotal⟩ := Word.sum_ok
          (Session.sampleTime_lt (ht.of_reaches (Session.reaches_chill keepCold t)) hrun)
        rw [htotal] at hsum
        cases hsum
    next => cases habort
    next samples keepCold session hrepeated =>
      have htotal : Session.sampleTime ((PatternResult.ofPlanned planned
          (Device.size s.device)).extend samples).samples < wordCount := by
        simpa [PatternResult.ofPlanned, PatternResult.extend] using
          Session.sampleTime_lt_of_repeated hmiddle hrepeated
      obtain ⟨state', hstate'⟩ :=
        RunState.complete_of_totalled { middle with session, keepCold } htotal
      rw [hstate'] at habort
      cases habort
  · -- Each result of a run has a total.
    obtain ⟨comparison, hcompared⟩ := Comparison.ofResults_ok c.groupSize c.divisor
      (sampleTime_lt_of_steps (s := c.opened s) hd hsteps)
    rw [hcompared] at hcomparison
    cases hcomparison

/-- On a metered device a run never reports more time than it took, and reports all of it if the
size of the device is fixed and no pattern failed for an operation. Every completed attempt and
every result has a total; a run that aborts does so inside a pattern. -/
theorem run_conserves_time (c : Settings) {s : Session δ ο} (hd : Device.Metered s.device) :
    (∀ report s', c.run s = .ok (report, s') →
      Device.time s.device + PatternResult.timeOf report.results ≤ Device.time s'.device ∧
      (Device.FixedSize s.device → (∀ sk ∈ report.skipped, sk.cause.isSizing) →
        Device.time s.device + PatternResult.timeOf report.results = Device.time s'.device) ∧
      ∀ r ∈ report.results, (∃ total, r.totalNanos = .ok total) ∧
        ∃ statistics, r.statistics = .ok statistics) ∧
    (∀ planned keepCold t samples left, c.Begins s planned keepCold t →
      (t.chill keepCold).2.run planned.pattern = (.ok samples, left) →
      ∃ elapsed, Word.sum (samples.toList.map (·.nanos)) = .ok elapsed) ∧
    ∀ abort, c.run s = .error abort → ∃ planned keepCold t, c.Begins s planned keepCold t ∧
      ((t.chill keepCold).2.run planned.pattern).1 = .error (.aborted abort) := by
  refine ⟨?_, ?_, fun abort => aborts_inside c hd⟩
  · intro report s' h
    obtain ⟨stages, hcourse, hresults, hskipped⟩ := course_of_run h
    obtain ⟨hle, heq⟩ := hcourse.time_le (s := c.opened s) hd report.fileSize
    rw [← hresults] at hle heq
    refine ⟨hle, ?_, ?_⟩
    · intro hsize hskips
      apply heq hsize
      intro st hst cause hcause
      exact hskips ⟨st.planned.kind, cause⟩
        (hskipped ▸ List.mem_filterMap.2 ⟨st, hst, Stage.skip_eq_some_iff.2 hcause⟩)
    · intro r hr
      have hpart := PatternResult.sampleTime_le_timeOf hr
      have hend := Device.time_lt s'.device
      have hlt : Session.sampleTime r.samples < wordCount := by omega
      exact ⟨Word.sum_ok hlt, Statistics.ofDurations_ok hlt⟩
  · intro planned keepCold t samples left hbegins hrun
    have ht := hd.of_reaches hbegins.reaches
    exact Word.sum_ok
      (Session.sampleTime_lt (ht.of_reaches (Session.reaches_chill keepCold t)) hrun)

/-- Five reads take sixty nanoseconds and report them all; if the third one fails, its seek is time
that no sample shows; close to the end of the clock the first read aborts. -/
theorem run_conserves_time_failed_read :
    let c : Settings := { path := "plots", groupSize := 1, scanElements := 524288 }
    let s (start : UInt64) (faults : List Fault) : Session FaultyStore ScriptedOffsets :=
      ⟨{ store := { data := .counting 3145728, latency := ⟨5, 7⟩, clock := ⟨start⟩ }, faults },
        ⟨#[7], 0⟩, #[]⟩
    (∀ start faults, Device.Metered (s start faults).device ∧
      Device.FixedSize (s start faults).device) ∧
    (∃ report s', c.run (s 100 []) = .ok (report, s') ∧ (∀ sk ∈ report.skipped, sk.cause.isSizing) ∧
      Device.time s'.device = 160 ∧
      100 + PatternResult.timeOf report.results = Device.time s'.device) ∧
    (∃ report s', c.run (s 100 [⟨.read, 3, .interrupted⟩]) = .ok (report, s') ∧
      Device.time s'.device = 153 ∧
      100 + PatternResult.timeOf report.results ≤ Device.time s'.device) ∧
    c.run (s 18446744073709551606 []) = .error .additionOverflow ∧
      ∃ planned keepCold t, c.Begins (s 18446744073709551606 []) planned keepCold t ∧
        ((t.chill keepCold).2.run planned.pattern).1 = .error (.aborted .additionOverflow) := by
  intro c s
  have hd (start : UInt64) (faults : List Fault) : Device.Metered (s start faults).device :=
    FaultyStore.metered _
  have hsize (start : UInt64) (faults : List Fault) : Device.FixedSize (s start faults).device := by
    intro e he
    obtain ⟨_, hdeclared, hdata⟩ :=
      FaultyStore.samePlan_of_reaches (f := (s start faults).device) he
    simp only [Device.size, hdeclared, hdata]
  have hall : (c.run (s 100 [])).map (fun (report, s') =>
      (report.skipped, Device.time s'.device)) = .ok ([], 160) := by decide +kernel
  have hfailed : (c.run (s 100 [⟨.read, 3, .interrupted⟩])).map
      (fun (_, s') => Device.time s'.device) = .ok 153 := by decide +kernel
  have habort : (c.run (s 18446744073709551606 [])).map (fun _ => ()) =
      .error .additionOverflow := by decide +kernel
  refine ⟨fun start faults => ⟨hd start faults, hsize start faults⟩, ?_, ?_, ?_⟩
  · obtain ⟨⟨report, s'⟩, hrun, hread⟩ := map_eq_ok_iff.1 hall
    obtain ⟨hskipped, htime⟩ := Prod.mk.inj hread
    have hskips : ∀ sk ∈ report.skipped, sk.cause.isSizing := by simp [hskipped]
    obtain ⟨_, hsame, _⟩ := (run_conserves_time c (hd 100 [])).1 report s' hrun
    exact ⟨report, s', hrun, hskips, htime, hsame (hsize 100 []) hskips⟩
  · obtain ⟨⟨report, s'⟩, hrun, htime⟩ := map_eq_ok_iff.1 hfailed
    obtain ⟨hle, _⟩ := (run_conserves_time c (hd 100 _)).1 report s' hrun
    exact ⟨report, s', hrun, htime, hle⟩
  · cases hrun : c.run (s 18446744073709551606 []) with
    | error abort =>
      rw [hrun] at habort
      cases habort
      exact ⟨rfl, (run_conserves_time c (hd _ _)).2.2 _ hrun⟩
    | ok outcome =>
      rw [hrun] at habort
      cases habort

end Settings
end ScanLatency
