import ScanLatency.Proofs.Accounting
import ScanLatency.Proofs.OffsetRange
import ScanLatency.Proofs.Percentile
import ScanLatency.Proofs.Room

/-! A run comes to its end. On a dependable device, with offsets inside their range, nothing can
abort a run but an allocation of impossible size: no target overflows, and the samples of a pattern
never add up to more than the clock can show. -/
namespace ScanLatency

/-- A computation that returns a value with a property, or else ends early for an allocation of
impossible size. -/
def Abort.Yields {α : Type} (post : α → Prop) : Except Abort α → Prop
  | .ok a => post a
  | .error abort => abort = .capacityOverflow

namespace Abort.Yields

variable {α β : Type} {post goal : α → Prop} {x : Except Abort α}

theorem mono (h : Yields post x) (hgoal : ∀ a, post a → goal a) : Yields goal x := by
  cases x with
  | error abort => exact h
  | ok a => exact hgoal a h

theorem bind {goal : β → Prop} {f : α → Except Abort β} (h : Yields post x)
    (hf : ∀ a, post a → Yields goal (f a)) : Yields goal (x >>= f) := by
  cases x with
  | error abort => exact h
  | ok a => exact hf a h

end Abort.Yields

theorem reserve_yields (bytes : ℕ) : Abort.Yields (fun _ => True) (reserve bytes) := by
  unfold reserve
  split
  · exact rfl
  · exact trivial

theorem Pattern.reserveSamples_yields {p : Pattern} {count : UInt64}
    (hcount : p.expectedSamples = .ok count) :
    Abort.Yields (fun _ => True) p.reserveSamples := by
  unfold reserveSamples
  rw [hcount]
  exact reserve_yields _

namespace Session

variable {δ ο : Type} [Device δ] [OffsetSource ο]

theorem prepare_yields {p : Pattern} {count : UInt64} (hcount : p.expectedSamples = .ok count)
    (limit : UInt64) (prs : List Pattern.Preparation) (start : Option UInt64) (source : ο) :
    Abort.Yields (fun _ => True) (prepare p limit prs start source).1 := by
  induction prs generalizing start source with
  | nil => exact trivial
  | cons pr prs ih =>
    cases pr with
    | start => exact ih _ _
    | buffer =>
      have hreserve : Abort.Yields (fun _ => True) p.reserveBuffer := reserve_yields _
      unfold prepare
      split
      next heq => rwa [heq] at hreserve
      next => exact ih _ _
    | samples =>
      have hreserve := Pattern.reserveSamples_yields hcount
      unfold prepare
      split
      next heq => rwa [heq] at hreserve
      next => exact ih _ _

/-- A pattern that has begun to read is not stopped by an abort: its next read has a target, since
there is room for it, and the access does not abort. -/
theorem Reads.isAborted_of_stops [LawfulOffsetSource ο] {p : Pattern} {limit size : UInt64}
    {start : Option UInt64} {reads : List Read} {s t s' : Session δ ο} {halt : Halt PatternError}
    (hreads : Reads p limit start none s reads t) (hlimit : p.maxStart size = .ok limit)
    (hstart : ∀ offset ∈ start, offset ≤ limit) (hlength : reads.length < p.schedule.reads)
    (hd : Device.Avoids Halt.isAborted s.device)
    (hstops : Stops p limit start (lastSought none reads) t halt s') : halt.isAborted = false := by
  obtain ⟨target, _, htarget, _⟩ := hreads.exists_target hlimit hstart hlength
  cases hstops with
  | target heq =>
    rw [heq] at htarget
    cases htarget
  | @access _ _ halt _ _ hsample =>
    have hbad := (hd.of_reaches hreads.reaches).sample (by rw [hsample])
    cases halt with
    | failed e => rfl
    | aborted a => exact absurd rfl hbad

/-- A pattern with a number of samples aborts for nothing but an allocation. -/
theorem run_aborted [LawfulOffsetSource ο] {p : Pattern} {count : UInt64}
    (hcount : p.expectedSamples = .ok count) {s s' : Session δ ο}
    (hd : Device.Dependable s.device) {abort : Abort}
    (h : s.run p = (.error (.aborted abort), s')) : abort = .capacityOverflow := by
  rcases stops_of_run h with ⟨_, _, hhalt, _⟩ | ⟨limit, hlimit, ⟨abort', source, hprepare, hhalt, _⟩ |
    ⟨start, source, reads, t, hprepare, hreads, hlength, hstops⟩⟩
  · cases hhalt
  · cases hhalt
    have hprepared := prepare_yields hcount limit p.preparations none s.source
    rwa [hprepare] at hprepared
  · have hnot := hreads.isAborted_of_stops hlimit (start_le_of_prepare (by simp) hprepare) hlength
      hd.avoids hstops
    cases hnot

def sampleTime (samples : Array Sample) : ℕ := Word.exactSum (samples.toList.map (·.nanos))

theorem sampleTime_append (samples more : Array Sample) :
    sampleTime (samples ++ more) = sampleTime samples + sampleTime more := by
  simp [sampleTime, Word.exactSum_append]

theorem sampleTime_eq_readTime {samples : Array Sample} {reads : List Read}
    (h : samples.toList = reads.map (·.sample)) : sampleTime samples = readTime reads := by
  rw [sampleTime, readTime, h, List.map_map]
  rfl

/-- The samples of a completed run follow one another on the clock. -/
theorem notBefore_of_run {p : Pattern} {samples : Array Sample} {s s' : Session δ ο}
    (h : s.run p = (.ok samples, s')) (hd : Device.Dependable s.device) {time : ℕ}
    (ht : Device.NotBefore time s.device) :
    Device.NotBefore (time + sampleTime samples) s'.device := by
  obtain ⟨_, _, _, reads, _, _, hreads, _, hall⟩ := reads_of_run h
  rw [sampleTime_eq_readTime hall]
  exact hreads.notBefore hd ht

/-- Repetitions of a pattern abort for nothing but an allocation, and the samples that they give
together last no longer than the clock can show. -/
theorem repeated_yields [LawfulOffsetSource ο] {planned : PlannedPattern} {count : UInt64}
    (hcount : planned.pattern.expectedSamples = .ok count) (n number : ℕ) (keepCold : Bool)
    (samples : Array Sample) {s : Session δ ο} (hd : Device.Dependable s.device)
    (ht : Device.NotBefore (sampleTime samples) s.device) :
    Abort.Yields (fun outcome => Device.Reaches s.device outcome.2.2.device ∧
        ∀ all, outcome.1 = .ok all → sampleTime all < wordCount)
      (s.repeated planned n number keepCold samples) := by
  induction n generalizing number keepCold samples s with
  | zero =>
    refine ⟨.refl, ?_⟩
    intro all hall
    cases hall
    exact ht.lt
  | succ n ih =>
    have hchill := reaches_chill keepCold s
    have hd' := hd.of_reaches hchill
    simp only [repeated]
    split
    next heq => exact run_aborted hcount hd' heq
    next cause left heq =>
      have hrun := reaches_of_run heq
      refine ⟨hchill.trans hrun, ?_⟩
      intro all hall
      cases hall
    next more left heq =>
      -- The samples so far and those of this run still end before the clock does.
      have htime := notBefore_of_run heq hd' (ht.of_reaches hchill)
      rw [← sampleTime_append] at htime
      have hrun := reaches_of_run heq
      have hmore : Word.exactSum (more.toList.map (·.nanos)) < wordCount := by
        have hall := htime.lt
        rw [sampleTime_append] at hall
        exact lt_of_le_of_lt (Nat.le_add_left _ _) hall
      obtain ⟨total, htotal⟩ := Word.sum_ok hmore
      rw [htotal]
      apply (ih (number + 1) _ (samples ++ more) (hd'.of_reaches hrun) htime).mono
      rintro outcome ⟨hreach, htimes⟩
      exact ⟨(hchill.trans hrun).trans hreach, htimes⟩

end Session

namespace RunState

variable {δ ο : Type} [Device δ] [OffsetSource ο]

/-- Between two patterns the device is still dependable, and each result has a total. -/
structure Sound (state : RunState δ ο) : Prop where
  dependable : Device.Dependable state.session.device
  totalled : ∀ r ∈ state.results, Session.sampleTime r.samples < wordCount

omit [Device δ] [OffsetSource ο] in
/-- A completion returns when the samples of the result have a total. -/
theorem complete_of_totalled {result : PatternResult} (state : RunState δ ο)
    (h : Session.sampleTime result.samples < wordCount) :
    ∃ state', state.complete result = .ok state' := by
  obtain ⟨statistics, hstatistics⟩ := Statistics.ofDurations_ok h
  unfold complete
  rw [show result.statistics = .ok statistics from hstatistics]
  exact ⟨_, rfl⟩

variable [LawfulOffsetSource ο]

theorem step_yields (iterations fileSize : UInt64) {planned : PlannedPattern} {count : UInt64}
    (hcount : planned.pattern.expectedSamples = .ok count) {state : RunState δ ο}
    (hs : state.Sound) : Abort.Yields Sound (step iterations fileSize planned state) := by
  have hrepeated := Session.repeated_yields hcount iterations.toNat 1 state.keepCold #[]
    hs.dependable (Device.notBefore_zero _)
  unfold step
  split
  next heq => rwa [heq] at hrepeated
  next cause keepCold session heq =>
    rw [heq] at hrepeated
    obtain ⟨hreach, _⟩ := hrepeated
    obtain ⟨entries, hskip⟩ := skip_eq planned.kind cause { state with session, keepCold }
    rw [hskip]
    exact ⟨hs.dependable.of_reaches hreach, hs.totalled⟩
  next samples keepCold session heq =>
    rw [heq] at hrepeated
    obtain ⟨hreach, htime⟩ := hrepeated
    have htotal : Session.sampleTime
        ((PatternResult.ofPlanned planned fileSize).extend samples).samples < wordCount := by
      simpa [PatternResult.ofPlanned, PatternResult.extend] using htime samples rfl
    obtain ⟨state', hstate'⟩ := complete_of_totalled { state with session, keepCold } htotal
    rw [hstate']
    obtain ⟨entries, rfl⟩ := complete_ok hstate'
    refine ⟨hs.dependable.of_reaches hreach, ?_⟩
    intro r hr
    rcases Array.mem_push.1 hr with hr | rfl
    · exact hs.totalled r hr
    · exact htotal

theorem steps_yields (iterations fileSize : UInt64) {plans : List PlannedPattern}
    (hplans : ∀ planned ∈ plans, ∃ count, planned.pattern.expectedSamples = .ok count)
    {state : RunState δ ο} (hs : state.Sound) :
    Abort.Yields Sound (steps iterations fileSize plans state) := by
  induction plans generalizing state with
  | nil => exact hs
  | cons planned plans ih =>
    obtain ⟨⟨count, hcount⟩, hrest⟩ := List.forall_mem_cons.1 hplans
    have hstep := step_yields iterations fileSize hcount hs
    unfold steps
    split
    next heq => rwa [heq] at hstep
    next heq =>
      rw [heq] at hstep
      exact ih hrest hstep

end RunState

/-- Results with totals can be compared. -/
theorem Comparison.ofResults_ok (groupSize : UInt64) (divisor : Number.Binary64)
    {results : List PatternResult}
    (h : ∀ r ∈ results, Session.sampleTime r.samples < wordCount) :
    ∃ comparison, ofResults groupSize divisor results = .ok comparison := by
  have total (kind : PatternKind) : ∃ ms, totalMs results kind = .ok ms := by
    unfold totalMs
    split
    next => exact ⟨0, rfl⟩
    next r hr =>
      obtain ⟨total, htotal⟩ := Word.sum_ok (h r (List.mem_of_find?_eq_some hr))
      rw [show r.totalNanos = .ok total from htotal]
      exact ⟨_, rfl⟩
  obtain ⟨groupedScan, hgrouped⟩ := total .groupedScan
  obtain ⟨singlesScan, hsingles⟩ := total .singlesScan
  obtain ⟨large, hlarge⟩ := total .largeSequential
  obtain ⟨single, hsingle⟩ := total .singleSequential
  refine ⟨ofTotals groupSize divisor groupedScan singlesScan large single, ?_⟩
  simp only [ofResults, hgrouped, hsingles, hlarge, hsingle]
  rfl

namespace Settings

variable {δ ο : Type} [Device δ] [OffsetSource ο]

/-- On a dependable device a run aborts for nothing but an allocation of impossible size. -/
theorem run_yields [LawfulOffsetSource ο] (c : Settings) {s : Session δ ο}
    (hd : Device.Dependable s.device) : Abort.Yields (fun _ => True) (c.run s) := by
  have hsound : RunState.Sound ⟨c.opened s, c.noCache, #[], #[]⟩ := ⟨hd, by simp⟩
  unfold run
  apply (RunState.steps_yields c.iterations (Device.size s.device) c.layout.expectedSamples_suite
    hsound).bind
  intro state hstate
  have htotalled : ∀ r ∈ state.results.toList, Session.sampleTime r.samples < wordCount := by
    simpa using hstate.totalled
  obtain ⟨comparison, hcomparison⟩ := Comparison.ofResults_ok c.groupSize c.divisor htotalled
  simp only [hcomparison]
  exact trivial

/-- Every report of a run accounts for the stages that the run went through, whatever fails on the
way; and where the clock never runs backwards, every run whose allocations succeed gives a
report. -/
theorem run_accounts (c : Settings) (s : Session δ ο) :
    (∀ report s', c.run s = .ok (report, s') → ∃ stages,
      Session.Course c.iterations.toNat c.layout.suite c.noCache (c.opened s) stages s' ∧
        report.Accounts c stages) ∧
    (LawfulOffsetSource ο → Device.Dependable s.device → c.run s ≠ .error .capacityOverflow →
      ∃ report s', c.run s = .ok (report, s')) := by
  constructor
  · intro report s' h
    obtain ⟨stages, hcourse, hresults, hskipped⟩ := course_of_run h
    exact ⟨stages, hcourse, accounts_of_course hcourse hresults hskipped⟩
  · intro _ hd hcapacity
    have hyields := c.run_yields hd
    cases hrun : c.run s with
    | ok outcome => exact ⟨outcome.1, outcome.2, rfl⟩
    | error abort =>
      rw [hrun] at hyields
      cases hyields
      exact absurd hrun hcapacity

/-- The stride scan fails at its only read; the patterns after it are run all the same. -/
theorem run_accounts_failed_read :
    let c : Settings := { path := "plots", groupSize := 1, scanElements := 524288, noCache := true }
    let s : Session FaultyStore ScriptedOffsets :=
      ⟨{ store := .ofBytes (.counting 3145728), faults := [⟨.read, 3, .interrupted⟩] },
        ⟨#[7, 9000000], 0⟩, #[]⟩
    Device.Dependable s.device ∧ c.run s ≠ .error .capacityOverflow ∧
      ∃ report s' stages, c.run s = .ok (report, s') ∧
        Session.Course 1 c.layout.suite true (c.opened s) stages s' ∧ report.Accounts c stages ∧
        report.skipped = [⟨.strideScan, .io "stride pattern" .interrupted⟩] := by
  intro c s
  have hd : Device.Dependable s.device := FaultyStore.Still.dependable (f := s.device)
    (show s.device.Still {} from ⟨⟨rfl, rfl, rfl⟩, rfl⟩)
  have hskipped : (c.run s).map (·.1.skipped) =
      .ok [⟨.strideScan, .io "stride pattern" .interrupted⟩] := by decide +kernel
  have hcapacity : c.run s ≠ .error .capacityOverflow := by
    intro h
    rw [h] at hskipped
    cases hskipped
  obtain ⟨report, s', hrun⟩ := (run_accounts c s).2 inferInstance hd hcapacity
  obtain ⟨stages, hcourse, haccounts⟩ := (run_accounts c s).1 report s' hrun
  refine ⟨hd, hcapacity, report, s', stages, hrun, hcourse, haccounts, ?_⟩
  rw [hrun] at hskipped
  exact Except.ok.inj hskipped

end Settings
end ScanLatency
