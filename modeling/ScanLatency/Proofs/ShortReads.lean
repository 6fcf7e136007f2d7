import ScanLatency.Proofs.Naming
import ScanLatency.Proofs.SampleMemory

/-! Reads that come back short. A short read is no failure: its sample is kept and marked, and the
journal gains one warning for it, with its bytes, at its place among the reads. When a pattern is
through, one more warning counts the short reads of all its iterations, if there were any. -/
namespace ScanLatency

def DeviceCall.fetched? : DeviceCall → Option (UInt64 × Except (Halt IoError) UInt64)
  | .read length outcome => some (length, outcome)
  | _ => none

/-- The bytes that a warning about one short read tells of, and the bytes that were wanted. -/
def Notice.shortfall? : Notice → Option (UInt64 × UInt64)
  | .shortRead bytes _ _ wanted => some (bytes, wanted)
  | .shortContinuation bytes wanted => some (bytes, wanted)
  | _ => none

/-- What a warning about the short reads of a whole pattern tells: its kind, the number of short
reads, and the number of samples. -/
def Event.closing? : Event → Option (PatternKind × ℕ × ℕ)
  | .notice (.cameShort kind short total) => some (kind, short, total)
  | _ => none

/-! ### Samples and the reads behind them -/

namespace Device

variable {δ : Type} [Device δ]

theorem shortRead_sample {target : Option UInt64} {length : UInt64} {d d' : δ} {sample : Sample}
    (h : Device.sample target length d = (.ok sample, d')) :
    sample.shortRead = decide (sample.bytesRead < length) := by
  obtain ⟨_, _, _, _, rfl⟩ := sampled_ok h
  rfl

end Device

namespace Watched

variable {δ : Type} [Device δ] {w w' : Watched δ} {length : UInt64}

def fetches (w : Watched δ) : List (UInt64 × Except (Halt IoError) UInt64) :=
  w.calls.toList.filterMap (·.fetched?)

theorem fetches_seek {offset : UInt64} (h : Device.seek offset w = (.ok (), w')) :
    w'.fetches = w.fetches := by
  have hw : w' = (Device.seek offset w).2 := by rw [h]
  simp [hw, Device.seek, fetches, DeviceCall.fetched?]

theorem fetches_read {got : UInt64} (h : Device.read length w = (.ok got, w')) :
    w'.fetches = w.fetches ++ [(length, .ok got)] := by
  have hgot : (Device.read length w.device).1 = .ok got := congrArg Prod.fst h
  have hw : w' = (Device.read length w).2 := by rw [h]
  simp [hw, Device.read, fetches, DeviceCall.fetched?, hgot]

/-- A sample comes from one read, and has its bytes. -/
theorem fetches_sample {target : Option UInt64} {sample : Sample}
    (h : Device.sample target length w = (.ok sample, w')) :
    w'.fetches = w.fetches ++ [(length, .ok sample.bytesRead)] := by
  obtain ⟨got, t, haccess, rfl, rfl⟩ := sampled_ok h
  show t.fetches = (Clock.now w).2.fetches ++ [(length, .ok got)]
  cases target with
  | none => exact fetches_read haccess
  | some offset =>
    obtain ⟨e, hseek, hread⟩ := Device.access_some_ok haccess
    rw [fetches_read hread, fetches_seek hseek]

end Watched

namespace Session

section Reads

variable {δ ο : Type} [Device δ] [OffsetSource ο] {p : Pattern} {limit : UInt64}
  {start last : Option UInt64} {reads : List Read}

theorem Reads.shortRead_eq {s t : Session δ ο} (h : Reads p limit start last s reads t) :
    ∀ r ∈ reads, r.sample.shortRead = decide (r.sample.bytesRead < p.schedule.length) := by
  induction h with
  | done => nofun
  | read _ sampled _ ih => exact List.forall_mem_cons.2 ⟨Device.shortRead_sample sampled, ih⟩

theorem Reads.fetches_eq {s t : Session (Watched δ) ο} (h : Reads p limit start last s reads t) :
    t.device.fetches =
      s.device.fetches ++ reads.map fun r => (p.schedule.length, .ok r.sample.bytesRead) := by
  induction h with
  | done => simp
  | read _ sampled _ ih =>
    rw [noteShort_device, Watched.fetches_sample sampled] at ih
    simp [ih]

theorem shortfall_shortNotice (p : Pattern) (target : Option UInt64) (sample : Sample) :
    (shortNotice p target sample).map (·.shortfall?) =
      if sample.shortRead then some (some (sample.bytesRead, p.schedule.length)) else none := by
  unfold shortNotice
  split
  next => cases target <;> rfl
  next => rfl

/-- The warnings are about the marked samples, one for each, in order. -/
theorem shortfall_shortNotices (p : Pattern) (reads : List Read) :
    (shortNotices p reads).map (·.shortfall?) =
      ((reads.map (·.sample)).filter (·.shortRead)).map fun sample =>
        some (sample.bytesRead, p.schedule.length) := by
  simp only [shortNotices, List.map_filterMap, shortfall_shortNotice]
  induction reads with
  | nil => rfl
  | cons r reads ih => by_cases hshort : r.sample.shortRead <;> simp [hshort, ih]

theorem level_shortNotices (p : Pattern) (reads : List Read) :
    ∀ n ∈ shortNotices p reads, n.level = .warning := by
  simp only [shortNotices, List.mem_filterMap]
  rintro n ⟨r, _, hnotice⟩
  unfold shortNotice at hnotice
  split at hnotice
  next =>
    cases hnotice
    cases r.target <;> rfl
  next => cases hnotice

end Reads

/-! ### One run of a pattern -/

variable {δ ο : Type} [Device δ] [OffsetSource ο]

/-- A completed run of a pattern, under observation, that has kept one sample for each read, marked
the short ones, and warned of each of them. -/
structure TellsShort (p : Pattern) (s : Session δ ο) (samples : Array Sample)
    (w : Session (Watched δ) (Logged ο)) : Prop where
  expected : ∃ count, p.expectedSamples = .ok count ∧ samples.size = count.toNat
  fetched : w.device.fetches =
    samples.toList.map fun sample => (p.schedule.length, .ok sample.bytesRead)
  marked : ∀ sample ∈ samples, sample.shortRead ↔ sample.bytesRead < p.schedule.length
  warned : ∃ warnings : List Notice,
    w.journal.toList = s.journal.toList ++ warnings.map .notice ∧
    (∀ n ∈ warnings, n.level = .warning) ∧
    warnings.map (·.shortfall?) = (samples.toList.filter (·.shortRead)).map fun sample =>
      some (sample.bytesRead, p.schedule.length)

/-- On a device that answers, a pattern completes if and only if it fits and there is memory for
it; short reads do not stop it. -/
theorem run_completes_iff [LawfulOffsetSource ο] {p : Pattern} {s : Session δ ο}
    (hd : Device.Answers (Device.size s.device) s.device) :
    (∃ samples t, s.run p = (.ok samples, t)) ↔
      p.exactSpan ≤ (Device.size s.device).toNat ∧ p.Allotted := by
  constructor
  · rintro ⟨samples, t, hrun⟩
    obtain ⟨limit, hlimit, hallotted⟩ := allotted_of_run hrun
    have hspan := Pattern.toNat_add_of_maxStart hlimit
    exact ⟨by omega, hallotted⟩
  · rintro ⟨hspan, hallotted⟩
    rcases hrun : s.run p with ⟨halt | samples, t⟩
    · exfalso
      rcases halts_before_reads hd hrun with
        ⟨cause, hcause, -, -⟩ | ⟨limit, abort, source, -, hprepare, -, -⟩
      · have hlt := (Pattern.lt_exactSpan_of_maxStart hcause).1
        omega
      · have hallot := map_prepare p limit p.preparations none s.source
        rw [hprepare, hallotted] at hallot
        cases hallot
    · exact ⟨samples, t, rfl⟩

/-- A completed run of a pattern tells of its short reads. -/
theorem tellsShort_of_run {p : Pattern} {samples : Array Sample} {s : Session δ ο}
    {w : Session (Watched δ) (Logged ο)} (h : s.observed.run p = (.ok samples, w)) :
    TellsShort p s samples w := by
  obtain ⟨limit, start, source, reads, _, _, hreads, _, hall⟩ := reads_of_run h
  obtain ⟨_, _, hallotted⟩ := allotted_of_run h
  obtain ⟨count, hcount⟩ : ∃ count, p.expectedSamples = .ok count := by
    have hsamples := (p.allotted_iff.1 hallotted).2
    unfold Pattern.reserveSamples at hsamples
    split at hsamples
    next => cases hsamples
    next count hcount => exact ⟨count, hcount⟩
  exact {
    expected := by
      refine ⟨count, hcount, ?_⟩
      rw [Pattern.expectedSamples_eq_reads hcount, size_of_run h]
    fetched := by
      rw [hreads.fetches_eq, hall, List.map_map]
      simp [observed, Watched.fetches, Function.comp_def]
    marked := by
      intro sample hsample
      rw [← Array.mem_toList_iff, hall, List.mem_map] at hsample
      obtain ⟨r, hr, rfl⟩ := hsample
      simp [hreads.shortRead_eq r hr]
    warned := by
      refine ⟨shortNotices p reads, hreads.journal_eq, level_shortNotices p reads, ?_⟩
      rw [shortfall_shortNotices, hall] }

/-! ### A whole run -/

omit [Device δ] [OffsetSource ο] in
def closings (s : Session δ ο) : List (PatternKind × ℕ × ℕ) :=
  s.journal.toList.filterMap (·.closing?)

omit [Device δ] [OffsetSource ο] in
theorem closings_record (e : Event) (s : Session δ ο) :
    (RunState.record e s).closings = s.closings ++ e.closing?.toList := by
  cases he : e.closing? <;> simp [closings, RunState.record, he]

omit [Device δ] [OffsetSource ο] in
theorem closings_note (n : Notice) (s : Session δ ο) :
    (s.note n).closings = s.closings ++ (Event.notice n).closing?.toList :=
  closings_record (.notice n) s

omit [Device δ] [OffsetSource ο] in
/-- The attempts at a pattern enter no closing warning. -/
theorem Enters.closings_eq {planned : PlannedPattern} {s t : Session δ ο}
    (h : Enters (Event.OfAttempts planned) s t) : t.closings = s.closings := by
  obtain ⟨events, hevents, hall⟩ := h
  have hnone : events.filterMap (·.closing?) = [] := by
    rw [List.filterMap_eq_nil_iff]
    intro e he
    cases hall e he with
    | run h => cases h <;> rfl
    | cacheKept => rfl
    | iterationFailed => rfl
  simp [closings, hevents, hnone]

end Session

def PatternResult.closings (results : List PatternResult) : List (PatternKind × ℕ × ℕ) :=
  (results.filter (0 < ·.shortReads)).map fun r => (r.kind, r.shortReads, r.sampleCount)

namespace RunState

variable {δ ο : Type}

theorem closings_skip (kind : PatternKind) (cause : PatternError) (state : RunState δ ο) :
    (state.skip kind cause).session.closings = state.session.closings := by
  unfold skip
  split <;> simp [Session.closings_record, Session.closings_note, Event.closing?]

theorem closings_complete {result : PatternResult} {state state' : RunState δ ο}
    (h : state.complete result = .ok state') :
    state'.session.closings = state.session.closings ++ PatternResult.closings [result] ∧
      state'.results = state.results.push result := by
  unfold complete at h
  split at h
  next => cases h
  next =>
    cases h
    refine ⟨?_, rfl⟩
    by_cases hshort : result.shortReads = 0
    · simp [hshort, PatternResult.closings, Session.closings_record, Event.closing?]
    · simp [hshort, PatternResult.closings, Nat.pos_of_ne_zero hshort, Session.closings_record,
        Session.closings_note, Event.closing?]

/-- The closing warnings so far are those that the results so far deserve. -/
def Closed (earlier : List (PatternKind × ℕ × ℕ)) (state : RunState δ ο) : Prop :=
  state.session.closings = earlier ++ PatternResult.closings state.results.toList

variable [Device δ] [OffsetSource ο] {earlier : List (PatternKind × ℕ × ℕ)}
  {iterations fileSize : UInt64} {state state' : RunState δ ο}

theorem Closed.step (hclosed : state.Closed earlier) {planned : PlannedPattern}
    (h : step iterations fileSize planned state = .ok state') : state'.Closed earlier := by
  unfold RunState.step at h
  split at h
  next => cases h
  next cause keepCold session heq =>
    have hattempts := (Session.enters_repeated heq).1.closings_eq
    cases h
    unfold Closed at hclosed ⊢
    rw [closings_skip, hattempts, hclosed]
    obtain ⟨_, hskip⟩ := skip_eq planned.kind cause { state with session, keepCold }
    rw [hskip]
  next samples keepCold session heq =>
    have hattempts := (Session.enters_repeated heq).1.closings_eq
    obtain ⟨hentered, hresults⟩ := closings_complete h
    unfold Closed at hclosed ⊢
    rw [hentered, hattempts, hclosed, hresults]
    simp [PatternResult.closings]

theorem Closed.steps (hclosed : state.Closed earlier) {plans : List PlannedPattern}
    (h : steps iterations fileSize plans state = .ok state') : state'.Closed earlier := by
  induction plans generalizing state with
  | nil =>
    cases h
    exact hclosed
  | cons planned plans ih =>
    unfold RunState.steps at h
    split at h
    next => cases h
    next hstep => exact ih (hclosed.step hstep) h

end RunState

namespace Session

variable {δ ο : Type} [Device δ] [OffsetSource ο]

theorem Repeats.reached_of_mem {planned : PlannedPattern} {n number : ℕ}
    {keepCold keepCold' : Bool} {attempts : List (Attempt δ ο)} {s s' : Session δ ο}
    (h : Repeats planned n number keepCold s attempts keepCold' s') :
    ∀ a ∈ attempts, Device.Reaches s.device a.found.device := by
  induction h with
  | done => nofun
  | kept made _ ih =>
    exact List.forall_mem_cons.2 ⟨.refl, fun a ha => made.reaches.trans (ih a ha)⟩
  | failed => exact List.forall_mem_singleton.2 .refl

theorem Course.reached_of_mem {iterations : ℕ} {plans : List PlannedPattern} {keepCold : Bool}
    {stages : List (Stage δ ο)} {s s' : Session δ ο}
    (h : Course iterations plans keepCold s stages s') :
    ∀ st ∈ stages, ∀ a ∈ st.attempts, Device.Reaches s.device a.found.device := by
  induction h with
  | done => nofun
  | stage repeats _ ih =>
    refine List.forall_mem_cons.2 ⟨repeats.reached_of_mem, fun st hst a ha => ?_⟩
    exact repeats.reaches.trans (ih st hst a ha)

/-- On a device that answers and keeps its size, no attempt fails but for the size. -/
theorem Course.isSizing [LawfulOffsetSource ο] {iterations : ℕ} {plans : List PlannedPattern}
    {keepCold : Bool} {stages : List (Stage δ ο)} {s s' : Session δ ο}
    (h : Course iterations plans keepCold s stages s') (hsize : Device.FixedSize s.device)
    (hd : Device.Answers (Device.size s.device) s.device) {st : Stage δ ο} (hst : st ∈ stages)
    {cause : PatternError} (hcause : st.failure? = some cause) : cause.isSizing := by
  obtain ⟨_, _, _, _, hrepeats⟩ := h.repeats_of_mem st hst
  obtain ⟨a, ha, houtcome⟩ := (hrepeats.failure_eq_some_iff cause).1 hcause
  have hmade := hrepeats.made a ha
  rw [Attempt.Made, houtcome] at hmade
  have hreach := (h.reached_of_mem st hst a ha).trans (reaches_chill a.keepCold a.found)
  have hanswers := hd.of_reaches hreach
  rw [← hsize _ hreach] at hanswers
  rcases halts_before_reads hanswers hmade with ⟨_, hsizing, hhalt, -⟩ | ⟨_, _, _, -, -, hhalt, -⟩
  · cases hhalt
    exact (Pattern.lt_exactSpan_of_maxStart hsizing).2
  · cases hhalt

end Session

/-- The short reads of a result are those of all the attempts at its pattern. -/
theorem Stage.shortReads_eq {δ ο : Type} (st : Stage δ ο) (fileSize : UInt64) :
    ((PatternResult.ofPlanned st.planned fileSize).extend st.samples.toArray).shortReads =
      (st.attempts.map fun a => a.samples.countP (·.shortRead)).sum := by
  simp [PatternResult.shortReads, PatternResult.extend, PatternResult.ofPlanned, Stage.samples,
    List.countP_flatMap, Function.comp_def]

namespace Settings

variable {δ ο : Type} [Device δ] [OffsetSource ο]

theorem closings_of_run {c : Settings} {s s' : Session δ ο} {report : RunReport}
    (h : c.run s = .ok (report, s')) :
    s'.closings = s.closings ++ PatternResult.closings report.results := by
  obtain ⟨_, _, hsteps, _, rfl, rfl⟩ := run_ok_iff.1 h
  have hopened : RunState.Closed s.closings
      (⟨c.opened s, c.noCache, #[], #[]⟩ : RunState δ ο) := by
    simp [RunState.Closed, PatternResult.closings, opened, Session.closings_note, Event.closing?]
  exact hopened.steps hsteps

variable [LawfulOffsetSource ο]

/-- Short reads are never fatal and always told. On a device that answers its calls, with as many
bytes as it likes for each read, a pattern completes if and only if it fits and its memory is there,
and what halts it comes before its first read. A completed pattern has one sample for each read,
with the bytes of that read, marked if and only if they are fewer than were wanted, and has entered
one warning for each marked sample, in order and with its bytes, and nothing else. A whole run gives
a report if its clock and its memory allow, and skips no kind but for its size. Each completed kind
with a marked sample gets one closing warning, with the number of its marked samples over all
iterations and the number of its samples; no other kind gets one. -/
theorem short_reads_told :
    (∀ (p : Pattern) (s : Session δ ο), Device.Answers (Device.size s.device) s.device →
      ((∃ samples t, s.run p = (.ok samples, t)) ↔
        p.exactSpan ≤ (Device.size s.device).toNat ∧ p.Allotted) ∧
      (∀ halt t, s.run p = (.error halt, t) → t.device = s.device ∧ t.journal = s.journal) ∧
      ∀ samples t, s.run p = (.ok samples, t) → ∃ w, s.observed.run p = (.ok samples, w) ∧
        w.plain = t ∧ Session.TellsShort p s samples w) ∧
    ∀ (c : Settings) (s : Session δ ο),
      (Device.Dependable s.device → Abort.Yields (fun _ => True) (c.run s)) ∧
      ∀ report s', c.run s = .ok (report, s') →
        (Device.FixedSize s.device → Device.Answers (Device.size s.device) s.device →
          ∀ skipped ∈ report.skipped, skipped.cause.isSizing) ∧
        s'.closings = s.closings ++ (report.results.filter (0 < ·.shortReads)).map
          (fun r => (r.kind, r.shortReads, r.sampleCount)) ∧
        ∃ stages,
          Session.Course c.iterations.toNat c.layout.suite c.noCache (c.opened s) stages s' ∧
          report.Accounts c stages ∧
          ∀ st ∈ stages, ∀ r ∈ report.results, r.kind = st.planned.kind →
            r.shortReads = (st.attempts.map fun a => a.samples.countP (·.shortRead)).sum := by
  refine ⟨fun p s hd => ⟨Session.run_completes_iff hd, ?_, ?_⟩,
    fun c s => ⟨c.run_yields, fun report s' h => ?_⟩⟩
  · intro halt t hrun
    rcases Session.halts_before_reads hd hrun with ⟨_, _, _, rfl⟩ | ⟨_, _, _, _, _, _, rfl⟩
    · exact ⟨rfl, rfl⟩
    · exact ⟨rfl, rfl⟩
  · intro samples t hrun
    obtain ⟨w, hw, hplain⟩ := Session.observed_of_run hrun
    exact ⟨w, hw, hplain, Session.tellsShort_of_run hw⟩
  · obtain ⟨stages, hcourse, hresults, hskipped⟩ := course_of_run h
    have haccounts := accounts_of_course hcourse hresults hskipped
    refine ⟨?_, closings_of_run h, stages, hcourse, haccounts, ?_⟩
    · intro hsize hd skipped hmem
      rw [hskipped, List.mem_filterMap] at hmem
      obtain ⟨st, hst, hskip⟩ := hmem
      obtain ⟨cause, hfailure, rfl⟩ := Option.map_eq_some_iff.1 hskip
      exact hcourse.isSizing hsize hd hst hfailure
    · intro st hst r hr hkind
      rw [haccounts.result_eq st hst r hr hkind, st.shortReads_eq]

/-- A store that gives seven bytes at a time: all reads come back short. -/
theorem short_reads_told_capped :
    let c : Settings := { path := "plots", groupSize := 1, scanElements := 524288 }
    let s : Session MemoryStore ScriptedOffsets :=
      ⟨{ data := .counting 3145728, maxRead := some 7 }, ⟨#[50], 0⟩, #[]⟩
    Device.FixedSize s.device ∧ Device.Answers (Device.size s.device) s.device ∧
      (∃ samples w, s.run (.groupedScan 3 10) = (.ok samples, w.plain) ∧
        Session.TellsShort (.groupedScan 3 10) s samples w) ∧
      ∃ report s', c.run s = .ok (report, s') ∧
        (∀ skipped ∈ report.skipped, skipped.cause.isSizing) ∧
        s'.closings = [(.groupedScan, 1, 1), (.singlesScan, 1, 1), (.strideScan, 1, 1),
          (.largeSequential, 1, 1), (.singleSequential, 1, 1)] := by
  intro c s
  have hstill : s.device.Still s.device.clock := ⟨rfl, rfl, rfl⟩
  have hanswers : Device.Answers (Device.size s.device) s.device := hstill.answers _
  have hsize : Device.FixedSize s.device :=
    fun _ he => congrArg Bytes.size (MemoryStore.data_of_reaches he)
  obtain ⟨hpatterns, hruns⟩ := short_reads_told (δ := MemoryStore) (ο := ScriptedOffsets)
  obtain ⟨hcompletes, -, htold⟩ := hpatterns (.groupedScan 3 10) s hanswers
  have hallotted : (Pattern.groupedScan 3 10).Allotted := by
    rw [Pattern.allotted_iff, Pattern.reserveSamples_eq, if_neg (by decide)]
    exact ⟨fun _ => Pattern.reserve_of_le (by decide), rfl⟩
  obtain ⟨samples, t, hrun⟩ := hcompletes.2 ⟨by decide, hallotted⟩
  obtain ⟨w, -, rfl, htells⟩ := htold samples t hrun
  have hclosings : (c.run s).map (PatternResult.closings ·.1.results) =
      .ok [(.groupedScan, 1, 1), (.singlesScan, 1, 1), (.strideScan, 1, 1),
        (.largeSequential, 1, 1), (.singleSequential, 1, 1)] := by decide +kernel
  obtain ⟨⟨report, s'⟩, hreport, hresults⟩ := map_eq_ok_iff.1 hclosings
  obtain ⟨hskipped, hclosed, -⟩ := (hruns c s).2 report s' hreport
  exact ⟨hsize, hanswers, ⟨samples, w, hrun, htells⟩, report, s', hreport,
    hskipped hsize hanswers, hclosed.trans hresults⟩

end Settings
end ScanLatency
