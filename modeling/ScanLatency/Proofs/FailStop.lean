import ScanLatency.Proofs.Lockstep
import ScanLatency.Proofs.Script

/-! What is left of a run in which a call fails. Everything that is recorded up to the failed call is
the beginning of what the run without the failure records, and nothing comes after it: no seek, no
read and no draw. -/
namespace ScanLatency

/-- How many offsets a pattern has drawn once it makes a call, the calls being numbered from zero.
Reads with an offset of their own draw it before they seek it. -/
def Pattern.drawsBefore (p : Pattern) (call : ℕ) : ℕ :=
  match p.schedule.later with
  | .redrawn => call / 2 + 1
  | _ => 1

/-- A sample with a target seeks and may read. -/
theorem Watched.size_calls_sample {δ : Type} [Device δ] (offset length : UInt64) (w : Watched δ) :
    (Device.sample (some offset) length w).2.calls.size = w.calls.size + 1 ∨
      (Device.sample (some offset) length w).2.calls.size = w.calls.size + 2 := by
  have haccess : (Device.sample (some offset) length w).2.calls =
      (Device.access (some offset) length (Clock.now w).2).2.calls := by
    simp only [Device.sample, sampled]
    rcases Device.access (some offset) length (Clock.now w).2 with ⟨(cause | abort) | got, e⟩
    all_goals rfl
  rw [haccess]
  simp only [Device.access]
  rcases hseek : Device.seek offset (Clock.now w).2 with ⟨halt | _, e⟩
  all_goals
    have hsought : e.calls.size = w.calls.size + 1 := by
      rw [show e = (Device.seek offset (Clock.now w).2).2 by rw [hseek]]
      exact Array.size_push _
  · exact .inl hsought
  · right
    rw [show w.calls.size + 2 = e.calls.size + 1 by omega]
    exact Array.size_push _

namespace Session

variable {δ ο : Type} [Device δ] [OffsetSource ο]

omit [Device δ] in
/-- The preparations of a pattern with something to read. They draw its start, unless every read has
an offset of its own. -/
theorem prepare_ok {p : Pattern} {limit : UInt64} {start : Option UInt64} {source source' : ο}
    (h : prepare p limit p.preparations none source = (.ok start, source'))
    (hreads : 0 < p.schedule.reads) :
    (start, source') = if p.schedule.later = .redrawn then (none, source)
      else (some (OffsetSource.draw limit source).1, (OffsetSource.draw limit source).2) := by
  cases p with
  | randomSeeks count length | singlesScan count length =>
    obtain ⟨rfl, rfl⟩ := prepare_idle [.buffer, .samples] (by decide) h
    rfl
  | strideSeeks jumps stride length =>
    obtain ⟨rfl, rfl⟩ := prepare_drawn [] [.buffer, .samples] (by decide) (by decide) h
    rfl
  | sequentialLarge length =>
    obtain ⟨rfl, rfl⟩ := prepare_drawn [] [.buffer, .samples] (by decide) (by decide) h
    rfl
  | groupedScan n length =>
    have hn : n ≠ 0 := by
      rintro rfl
      exact absurd hreads (Nat.lt_irrefl 0)
    rw [Pattern.preparations_groupedScan hn] at h
    obtain ⟨rfl, rfl⟩ := prepare_drawn [.samples] [.buffer] (by decide) (by decide) h
    rfl

omit [Device δ] in
theorem nextTarget_redrawn (limit : UInt64) (last : Option UInt64) (source : ο) :
    nextTarget limit .redrawn none last source =
      (.ok (some (OffsetSource.draw limit source).1), (OffsetSource.draw limit source).2) := by
  cases last <;> rfl

omit [Device δ] in
/-- After a start that was drawn ahead, only reads with an offset of their own draw. -/
theorem nextTarget_idle (limit offset : UInt64) {later : Placement} (hlater : later ≠ .redrawn)
    (last : Option UInt64) (source : ο) :
    (nextTarget limit later (some offset) last source).2 = source := by
  cases last with
  | none => rfl
  | some previous =>
    cases later with
    | redrawn => exact absurd rfl hlater
    | spaced stride => rfl
    | contiguous => rfl

section Draws

variable {p : Pattern} {limit : UInt64} {last : Option UInt64} {reads : List Read}
  {s t : Session (Watched δ) (Logged ο)}

/-- Reads with an offset of their own make one draw and two calls each. -/
theorem Reads.size_redrawn (h : Reads p limit none last s reads t)
    (hlater : p.schedule.later = .redrawn) :
    t.source.draws.size = s.source.draws.size + reads.length ∧
      t.device.calls.size = s.device.calls.size + 2 * reads.length := by
  induction h with
  | done => exact ⟨rfl, rfl⟩
  | @read last target sample source device rest s _ targeted sampled _ ih =>
    rw [hlater, nextTarget_redrawn] at targeted
    obtain ⟨htarget, rfl⟩ := Prod.mk.inj targeted
    cases htarget
    have hdrawn : (OffsetSource.draw limit s.source).2.draws.size = s.source.draws.size + 1 :=
      Array.size_push _
    have hcalls : device.calls.size = s.device.calls.size + 1 + 1 :=
      Watched.size_calls (.sample sampled)
    obtain ⟨hdraws, hrest⟩ := ih
    rw [noteShort_source, hdrawn] at hdraws
    rw [noteShort_device, hcalls] at hrest
    rw [hdraws, hrest, List.length_cons]
    omega

theorem Reads.source_eq {offset : UInt64} (h : Reads p limit (some offset) last s reads t)
    (hlater : p.schedule.later ≠ .redrawn) : t.source = s.source := by
  induction h with
  | done => rfl
  | @read last _ _ source _ _ s _ targeted _ _ ih =>
    have hidle := nextTarget_idle limit offset hlater last s.source
    rw [targeted] at hidle
    rw [ih, noteShort_source]
    exact hidle

/-- What a pattern has drawn when one of its calls fails. -/
theorem size_draws_of_run_io {s : Session δ ο} {name : String} {cause : IoError}
    {w : Session (Watched δ) (Logged ο)}
    (h : s.observed.run p = (.error (.failed (.io name cause)), w)) :
    w.source.draws.size = p.drawsBefore (w.device.calls.size - 1) := by
  generalize hhalt : Halt.failed (PatternError.io name cause) = halt at h
  rcases stops_of_run h with ⟨cause', hmax, rfl, _⟩ |
    ⟨limit, _, ⟨_, _, _, rfl, _⟩ | ⟨start, source, reads, t, hprepare, hreads, hlength, hstops⟩⟩
  · have hsizing := (Pattern.lt_exactSpan_of_maxStart hmax).2
    cases hhalt
    cases hsizing
  · cases hhalt
  · cases hstops with
    | target => cases hhalt
    | @access target source' halt' device htarget hsample =>
      have hprepared := prepare_ok hprepare (Nat.zero_lt_of_lt hlength)
      unfold Pattern.drawsBefore
      dsimp only
      by_cases hlater : p.schedule.later = .redrawn
      · rw [if_pos hlater] at hprepared
        cases hprepared
        rw [hlater, nextTarget_redrawn] at htarget
        obtain ⟨htarget, rfl⟩ := Prod.mk.inj htarget
        cases htarget
        obtain ⟨hdraws, hcalls⟩ := hreads.size_redrawn hlater
        have hlast := Watched.size_calls_sample (OffsetSource.draw limit t.source).1
          p.schedule.length t.device
        have hdrawn : (OffsetSource.draw limit t.source).2.draws.size = t.source.draws.size + 1 :=
          Array.size_push _
        rw [hsample] at hlast
        rw [hlater]
        have hnone : t.source.draws.size = reads.length := hdraws.trans (Nat.zero_add _)
        have hmade : t.device.calls.size = 2 * reads.length := hcalls.trans (Nat.zero_add _)
        dsimp only at hlast ⊢
        omega
      · rw [if_neg hlater] at hprepared
        cases hprepared
        have hidle := nextTarget_idle limit (OffsetSource.draw limit s.observed.source).1 hlater
          (lastSought none reads) t.source
        rw [htarget, hreads.source_eq hlater] at hidle
        have hdrawn : source'.draws.size = 1 := by
          rw [show source' = _ from hidle]
          rfl
        split
        next heq => exact absurd heq hlater
        next => exact hdrawn

end Draws

/-! ### Runs on a store in memory -/

section Store

variable {schedule : ℕ → Option IoError} {p : Pattern} {s : Session MemoryStore ο}

/-- On a store in memory no pattern fails for a call. -/
theorem observed_run_ne_io (name : String) (cause : IoError) :
    (s.observed.run p).1 ≠ .error (.failed (.io name cause)) := by
  intro h
  have hreliable : Device.Reliable s.device.data.size s.observed.device :=
    .of_map Watched.morphism s.device.reliable
  obtain ⟨hmax, _⟩ := maxStart_of_run_failed hreliable
    (show s.observed.run p = (_, (s.observed.run p).2) from Prod.ext h rfl)
  have hsizing := (Pattern.lt_exactSpan_of_maxStart hmax).2
  cases hsizing

/-- What is on record when a call has been struck. -/
theorem recorded_of_struck {found : Watched MemoryStore} {call : DeviceCall} {cause : IoError}
    (hstruck : Watched.Struck schedule s.observed.device found (s.observed.run p).2.device call
      cause ((s.scheduled schedule).observed.run p).2.device)
    (hfailed : ((s.scheduled schedule).observed.run p).1 = .error (.failed (.io p.runName cause)))
    (hdraws : ((s.scheduled schedule).observed.run p).2.source.draws.toList <+:
      (s.observed.run p).2.source.draws.toList) :
    let free := (s.observed.run p).2
    let real := ((s.scheduled schedule).observed.run p).2
    let calls := free.device.calls.toList
    let k := found.calls.size
    ∃ hk : k < calls.length,
      real.device.calls.toList = calls.take k ++ [calls[k].struck cause] ∧
      real.plain.device.device.operations.toList =
        free.plain.device.operations.toList.take (s.device.operations.size + k) ∧
      real.source.draws.toList = free.source.draws.toList.take (p.drawsBefore k) := by
  intro free real calls k
  have hlength : found.calls.toList.length = k := Array.length_toList
  have hbefore : found.calls.toList <+: calls := (List.prefix_append _ _).trans hstruck.recorded
  have hk : k < calls.length := by
    have hle := hstruck.recorded.length_le
    rw [List.length_append, hlength] at hle
    exact hle
  refine ⟨hk, ?_, ?_, ?_⟩
  · have hcall : calls[k] = call := by
      have hlast := hstruck.recorded.getElem (i := k) (by simp [← hlength])
      rw [← hlast]
      simp [← hlength]
    rw [hstruck.calls_eq, hcall, ← hlength, ← List.prefix_iff_eq_take.1 hbefore]
  · obtain ⟨i, j, hanswered⟩ := hstruck.answered
    have hfound : k = 0 + i + j := Watched.size_calls hanswered
    have hsize : found.device.operations.size = s.device.operations.size + k := by
      rw [hfound, MemoryStore.size_operations (hanswered.map Watched.morphism)]
      show s.device.operations.size + i + j = _
      omega
    have hleft := MemoryStore.operations_isPrefix (Watched.morphism.reaches hstruck.reaches)
    have hidle := (MemoryStore.operations_isPrefix hstruck.idle.reaches).eq_of_length
      (by simpa using (MemoryStore.size_operations hstruck.idle).symm)
    have htaken := List.prefix_iff_eq_take.1 hleft
    rw [Array.length_toList, hsize] at htaken
    exact hidle.symm.trans htaken
  · have hsize : real.source.draws.size = p.drawsBefore (real.device.calls.size - 1) :=
      size_draws_of_run_io (Prod.ext hfailed rfl)
    have hmade : real.device.calls.size = k + 1 := by
      rw [← Array.length_toList, hstruck.calls_eq, List.length_append, hlength]
      rfl
    rw [List.prefix_iff_eq_take.1 hdraws, Array.length_toList, hsize, hmade]
    rfl

end Store

/-- Up to the first call that a schedule strikes, a pattern does what it does without the schedule.
If there is such a call, it is the last one and the pattern fails for its cause, with the operations
and draws before it on record and nothing else. If there is none, the schedule changes nothing. -/
theorem run_scheduled (schedule : ℕ → Option IoError) (p : Pattern) (s : Session MemoryStore ο) :
    let free := s.observed.run p
    let real := (s.scheduled schedule).observed.run p
    let calls := free.2.device.calls.toList
    (Spares schedule 0 calls.length → real = Prod.map id (map (Watched.under schedule) id) free) ∧
    (∀ k cause, ∀ hk : k < calls.length, Spares schedule 0 k → schedule k = some cause →
      real.1 = .error (.failed (.io p.runName cause)) ∧
      real.2.device.calls.toList = calls.take k ++ [calls[k].struck cause] ∧
      real.2.plain.device.device.operations.toList =
        free.2.plain.device.operations.toList.take (s.device.operations.size + k) ∧
      real.2.source.draws.toList = free.2.source.draws.toList.take (p.drawsBefore k)) ∧
    ∀ name cause, real.1 = .error (.failed (.io name cause)) ↔
      name = p.runName ∧ ∃ k < calls.length, Spares schedule 0 k ∧ schedule k = some cause := by
  intro free real calls
  have hlockstep : Lockstep schedule p s.observed free real := lockstep_run schedule p s.observed
  cases hlockstep with
  | spared hnone hsame =>
    have hspared : Spares schedule 0 calls.length := by
      rw [Array.length_toList]
      exact hnone
    refine ⟨fun _ => hsame, ?_, ?_⟩
    · intro k cause hk _ hcause
      rw [hspared k (Nat.zero_le k) hk] at hcause
      cases hcause
    · intro name cause
      constructor
      · intro hreal
        rw [hsame] at hreal
        exact absurd hreal (observed_run_ne_io name cause)
      · rintro ⟨_, k, hk, _, hcause⟩
        rw [hspared k (Nat.zero_le k) hk] at hcause
        cases hcause
  | @struck found call cause hstruck hfailed hdraws =>
    have hrecorded := recorded_of_struck hstruck hfailed hdraws
    refine ⟨?_, ?_, ?_⟩
    · intro hspared
      have hcause := hstruck.scheduled
      rw [hspared _ (Nat.zero_le _) hrecorded.1] at hcause
      cases hcause
    · intro k cause' hk hspared hcause
      obtain ⟨rfl, rfl⟩ := hstruck.spared.first_unique hstruck.scheduled hspared hcause
      obtain ⟨_, hcalls, hoperations, hdraws⟩ := hrecorded
      exact ⟨hfailed, hcalls, hoperations, hdraws⟩
    · intro name cause'
      constructor
      · intro hreal
        rw [hfailed] at hreal
        cases hreal
        exact ⟨rfl, _, hrecorded.1, hstruck.spared, hstruck.scheduled⟩
      · rintro ⟨rfl, k, hk, hspared, hcause⟩
        obtain ⟨rfl, rfl⟩ := hstruck.spared.first_unique hstruck.scheduled hspared hcause
        exact hfailed

/-- The second read of a grouped scan fails, which is its third call and seeks nothing. -/
theorem run_scheduled_second_read :
    let s : Session MemoryStore ScriptedOffsets := ⟨.ofBytes (.counting 100), ⟨#[7], 0⟩, #[]⟩
    let p : Pattern := .groupedScan 3 4
    let real := (s.scheduled fun k => if k = 2 then some .interrupted else none).observed.run p
    real.1 = .error (.failed (.io p.runName .interrupted)) ∧
      real.2.plain.device.device.operations.toList = [.seek 7, .read 7 4] ∧
      real.2.source.draws.toList = [⟨88, 7⟩] := by
  intro s p real
  obtain ⟨_, hstruck, _⟩ := run_scheduled (fun k => if k = 2 then some .interrupted else none) p s
  have hspared : Spares (fun k => if k = 2 then some .interrupted else none) 0 2 :=
    fun k _ hlt => if_neg (Nat.ne_of_lt hlt)
  obtain ⟨hfailed, _, hoperations, hdraws⟩ := hstruck 2 .interrupted (by decide +kernel) hspared rfl
  refine ⟨hfailed, hoperations.trans ?_, hdraws.trans ?_⟩
  · decide +kernel
  · decide +kernel

end Session
end ScanLatency
