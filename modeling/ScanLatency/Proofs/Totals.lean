import Mathlib.Algebra.Order.BigOperators.Group.List
import ScanLatency.Proofs.Charges
import ScanLatency.Proofs.Interchange
import ScanLatency.Proofs.SampleCount
import ScanLatency.Proofs.SampleMemory

/-! The totals of a run. Where every seek takes one time and every read another, a pattern takes as
many of each as it makes, and so do its samples together. A run whose patterns fit, on a clock that
can show its end, completes with exact totals; a grouped scan saves all its seeks but one. -/
namespace ScanLatency

namespace Device

variable {δ : Type} [Device δ]

/-- The second device is what calls have made of the first, and they have taken so much time. -/
structure Spends (spent : ℕ) (d e : δ) : Prop where
  reaches : Reaches d e
  time_eq : time e = time d + spent

theorem Spends.trans {a b : ℕ} {d e f : δ} (h : Spends a d e) (h' : Spends b e f) :
    Spends (a + b) d f :=
  ⟨h.reaches.trans h'.reaches, by rw [h'.time_eq, h.time_eq, Nat.add_assoc]⟩

/-- A device on which every seek takes one time and every read another, and nothing else takes any.
Seeks to its inside succeed, and so do reads, as long as the clock can show the time after them. -/
structure Costs (latency : Latency) (size : UInt64) (d : δ) : Prop where
  size_eq {e} (h : Reaches d e) : Device.size e = size
  now {e} (h : Reaches d e) : time (Clock.now e).2 = time e
  dropCache {e} (h : Reaches d e) : time (Device.dropCache e).2 = time e
  seek {e} (h : Reaches d e) {offset : UInt64} (inside : offset ≤ size)
    (room : time e + latency.seek.toNat < wordCount) :
    ∃ e', Device.seek offset e = (.ok (), e') ∧ time e' = time e + latency.seek.toNat
  read {e} (h : Reaches d e) (length : UInt64)
    (room : time e + latency.read.toNat < wordCount) :
    ∃ got e', Device.read length e = (.ok got, e') ∧ time e' = time e + latency.read.toNat

namespace Costs

variable {latency : Latency} {size : UInt64} {d e : δ}

theorem of_reaches (hd : Costs latency size d) (hreach : Reaches d e) : Costs latency size e where
  size_eq h := hd.size_eq (hreach.trans h)
  now h := hd.now (hreach.trans h)
  dropCache h := hd.dropCache (hreach.trans h)
  seek h := hd.seek (hreach.trans h)
  read h := hd.read (hreach.trans h)

theorem exists_seek (hd : Costs latency size d) {offset : UInt64} (inside : offset ≤ size)
    (room : time d + latency.seek.toNat < wordCount) :
    ∃ e, Device.seek offset d = (.ok (), e) ∧ Spends latency.seek.toNat d e := by
  obtain ⟨e, hseek, htime⟩ := hd.seek .refl inside room
  have hreach : Reaches d (Device.seek offset d).2 := .seek offset .refl
  rw [hseek] at hreach
  exact ⟨e, hseek, hreach, htime⟩

theorem exists_read (hd : Costs latency size d) (length : UInt64)
    (room : time d + latency.read.toNat < wordCount) :
    ∃ got e, Device.read length d = (.ok got, e) ∧ Spends latency.read.toNat d e := by
  obtain ⟨got, e, hread, htime⟩ := hd.read .refl length room
  have hreach : Reaches d (Device.read length d).2 := .read length .refl
  rw [hread] at hreach
  exact ⟨got, e, hread, hreach, htime⟩

theorem access (hd : Costs latency size d) {target : Option UInt64}
    (htarget : ∀ offset ∈ target, offset ≤ size) (length : UInt64)
    (room : time d + latency.access target < wordCount) :
    ∃ got e, Device.access target length d = (.ok got, e) ∧ Spends (latency.access target) d e := by
  cases target with
  | none => exact hd.exists_read length room
  | some offset =>
    rw [Latency.access] at room ⊢
    obtain ⟨mid, hseek, hsought⟩ := hd.exists_seek (htarget offset rfl) (by omega)
    have htime := hsought.time_eq
    obtain ⟨got, e, hread, hfetched⟩ :=
      (hd.of_reaches hsought.reaches).exists_read length (by omega)
    exact ⟨got, e, by simp only [Device.access, hseek, hread], hsought.trans hfetched⟩

/-- A sample lasts as long as its access. -/
theorem sample (hd : Costs latency size d) {target : Option UInt64}
    (htarget : ∀ offset ∈ target, offset ≤ size) (length : UInt64)
    (room : time d + latency.access target < wordCount) :
    ∃ sample e, Device.sample target length d = (.ok sample, e) ∧
      sample.nanos.toNat = latency.access target ∧ Spends (latency.access target) d e := by
  have hopened : Spends 0 d (Clock.now d).2 := ⟨.now .refl, hd.now .refl⟩
  have htime := hopened.time_eq
  obtain ⟨got, t, haccess, hspent⟩ :=
    (hd.of_reaches hopened.reaches).access htarget length (by omega)
  have hclosed : Spends 0 t (Clock.now t).2 :=
    ⟨.now .refl, hd.now (hopened.reaches.trans hspent.reaches)⟩
  have htotal := (hopened.trans hspent).trans hclosed
  rw [Nat.zero_add, Nat.add_zero] at htotal
  refine ⟨_, _, by simp only [Device.sample, sampled, haccess]; rfl, ?_, htotal⟩
  have hnanos : (Word.saturatingSub (Clock.now t).1 (Clock.now d).1).toNat = time t - time d :=
    Word.toNat_saturatingSub _ _
  have hafter := hspent.time_eq
  show (Word.saturatingSub (Clock.now t).1 (Clock.now d).1).toNat = _
  omega

end Costs
end Device

/-- The pattern fits a device, and its samples fit memory. -/
structure Pattern.Fits (size : UInt64) (p : Pattern) : Prop where
  span : p.exactSpan ≤ size.toNat
  samples : p.schedule.reads * Pattern.sampleSize ≤ allocationLimit

namespace MemoryStore

/-- A store in memory has its latencies for costs, whatever its data and its cap. -/
theorem costs (m : MemoryStore) : Device.Costs m.latency m.data.size m where
  size_eq h := congrArg Bytes.size (data_of_reaches h)
  now _ := rfl
  dropCache _ := rfl
  seek {e} h offset _ room := by
    rw [← latency_of_reaches h] at room ⊢
    obtain ⟨clock, hclock⟩ := ManualClock.advance_of_lt room
    refine ⟨({ e with clock, position := offset } : MemoryStore).record (.seek offset), ?_,
      ManualClock.toNat_time_advance hclock⟩
    simp only [Device.seek, MemoryStore.seek, advance, hclock]
  read {e} h length room := by
    rw [← latency_of_reaches h] at room ⊢
    obtain ⟨clock, hclock⟩ := ManualClock.advance_of_lt room
    refine ⟨e.yield length, ({ e with clock, position := e.position + e.yield length } :
      MemoryStore).record (.read e.position (e.yield length)), ?_,
      ManualClock.toNat_time_advance hclock⟩
    simp only [Device.read, skim, advance, hclock]
    rfl

end MemoryStore

theorem Schedule.timeLeft_zero (sch : Schedule) (latency : Latency) (last : Option UInt64) :
    sch.timeLeft latency last 0 = 0 := by
  have hnone : sch.seeksLeft last 0 = 0 := by
    obtain ⟨reads, length, later⟩ := sch
    cases later <;> cases last <;> rfl
  rw [timeLeft, hnone, Nat.zero_mul, Nat.zero_mul]

namespace Session

variable {δ ο : Type} [Device δ] [OffsetSource ο] [LawfulOffsetSource ο] {latency : Latency}
  {size : UInt64} {p : Pattern} {limit : UInt64} {start last : Option UInt64}

omit [Device δ] [OffsetSource ο] [LawfulOffsetSource ο] in
theorem sampleTime_push (samples : Array Sample) (sample : Sample) :
    sampleTime (samples.push sample) = sampleTime samples + sample.nanos.toNat := by
  rw [Array.push_eq_append, sampleTime_append]
  exact congrArg (sampleTime samples + ·) (Nat.zero_add _)

/-- The reads that remain take the time that they should, and their samples show it. -/
theorem exists_readAll {n : ℕ} (samples : Array Sample) {s : Session δ ο}
    (hd : Device.Costs latency size s.device)
    (hlimit : ∀ k < n, limit.toNat + p.schedule.extent k ≤ size.toNat)
    (hstart : ∀ offset ∈ start, offset ≤ limit) (hlast : p.schedule.RoomAfter size.toNat n last)
    (room : Device.time s.device + p.schedule.timeLeft latency last n < wordCount) :
    ∃ all t, readAll p limit start n last samples s = (.ok all, t) ∧
      sampleTime all = sampleTime samples + p.schedule.timeLeft latency last n ∧
      Device.Spends (p.schedule.timeLeft latency last n) s.device t.device := by
  induction n generalizing last samples s with
  | zero =>
    rw [Schedule.timeLeft_zero]
    exact ⟨samples, s, rfl, rfl, .refl, rfl⟩
  | succ n ih =>
    obtain ⟨target, hfound, hplaced⟩ :=
      nextTarget_ok s.source (hlimit n (Nat.lt_succ_self n)) hstart hlast
    obtain ⟨source, htarget⟩ : ∃ source, nextTarget limit p.schedule.later start last s.source =
        (.ok target, source) := ⟨_, Prod.ext hfound rfl⟩
    have hinside : ∀ offset ∈ target, offset ≤ size := by
      intro offset hoffset
      have hroom := hplaced.room offset hoffset
      exact UInt64.le_iff_toNat_le.2 (by omega)
    rw [Schedule.timeLeft_succ htarget] at room ⊢
    obtain ⟨sample, device, hsample, hnanos, hspent⟩ :=
      hd.sample hinside p.schedule.length (by omega)
    have htime := hspent.time_eq
    have hdevice := noteShort_device p target sample { s with device, source }
    obtain ⟨all, t, hall, hsum, hrest⟩ := ih (samples.push sample)
      (s := noteShort p target sample { s with device, source })
      (by rw [hdevice]; exact hd.of_reaches hspent.reaches)
      (fun k hk => hlimit k (Nat.lt_succ_of_lt hk)) hplaced.roomAfter
      (by rw [hdevice]; show Device.time device + _ < _; omega)
    rw [hdevice] at hrest
    refine ⟨all, t, by simp only [readAll, htarget, hsample, hall], ?_, hspent.trans hrest⟩
    rw [hsum, sampleTime_push, hnanos, Nat.add_assoc]

theorem exists_run {s : Session δ ο} (hd : Device.Costs latency size s.device)
    (hsize : size.toNat ≤ allocationLimit) (hfits : p.Fits size)
    (room : Device.time s.device + p.schedule.duration latency < wordCount) :
    ∃ samples t, s.run p = (.ok samples, t) ∧
      sampleTime samples = p.schedule.duration latency ∧
      Device.Spends (p.schedule.duration latency) s.device t.device := by
  unfold run
  rw [hd.size_eq .refl]
  cases hlimit : p.maxStart size with
  | error cause =>
    have hlt := (Pattern.lt_exactSpan_of_maxStart hlimit).1
    exact absurd hfits.span (Nat.not_le.2 hlt)
  | ok limit =>
    obtain ⟨start, source, hprepare⟩ :=
      prepare_of_fits (hfits.span.trans hsize) hfits.samples limit s.source
    obtain ⟨all, t, hall, hsum, hspent⟩ := exists_readAll #[] (s := { s with source }) hd
      (Pattern.limit_add_extent_le hlimit) (start_le_of_prepare (by simp) hprepare)
      (p.schedule.roomAfter_none _ _) room
    refine ⟨all, t, by simp only [hprepare, hall], ?_, hspent⟩
    rw [hsum]
    exact Nat.zero_add _

omit [OffsetSource ο] [LawfulOffsetSource ο] in
theorem spends_chill {s : Session δ ο} (hd : Device.Costs latency size s.device) (keepCold : Bool) :
    Device.Spends 0 s.device (s.chill keepCold).2.device := by
  refine ⟨reaches_chill keepCold s, ?_⟩
  have hdrop := hd.dropCache .refl
  unfold chill
  split
  next =>
    split
    next heq => rwa [heq] at hdrop
    next heq => rwa [heq] at hdrop
  next => rfl

theorem exists_repeated {planned : PlannedPattern} {n : ℕ} (number : ℕ) (keepCold : Bool)
    (samples : Array Sample) {s : Session δ ο} (hd : Device.Costs latency size s.device)
    (hsize : size.toNat ≤ allocationLimit) (hfits : planned.pattern.Fits size)
    (room : Device.time s.device + n * planned.pattern.schedule.duration latency < wordCount) :
    ∃ all keepCold' t, s.repeated planned n number keepCold samples = .ok (.ok all, keepCold', t) ∧
      sampleTime all = sampleTime samples + n * planned.pattern.schedule.duration latency ∧
      Device.Spends (n * planned.pattern.schedule.duration latency) s.device t.device := by
  induction n generalizing number keepCold samples s with
  | zero =>
    rw [Nat.zero_mul]
    exact ⟨samples, keepCold, s, rfl, rfl, .refl, rfl⟩
  | succ n ih =>
    rw [Nat.succ_mul, Nat.add_comm (n * _)] at room ⊢
    have hchill := spends_chill hd keepCold
    obtain ⟨more, left, hrun, hmore, hspent⟩ :=
      exists_run (hd.of_reaches hchill.reaches) hsize hfits (by rw [hchill.time_eq]; omega)
    have hfirst := hchill.trans hspent
    rw [Nat.zero_add] at hfirst
    have htime := hfirst.time_eq
    obtain ⟨all, keepCold', t, hall, hsum, hrest⟩ := ih (number + 1) (s.chill keepCold).1
      (samples ++ more) (hd.of_reaches hfirst.reaches) (by omega)
    have hword : Word.exactSum (more.toList.map (·.nanos)) < wordCount := by
      show sampleTime more < _
      omega
    obtain ⟨total, htotal⟩ := Word.sum_ok hword
    refine ⟨all, keepCold', t, by simp only [repeated, hrun, htotal, hall], ?_, hfirst.trans hrest⟩
    rw [hsum, sampleTime_append, hmore, Nat.add_assoc]

end Session

namespace RunState

variable {δ ο : Type} [Device δ] [OffsetSource ο] [LawfulOffsetSource ο] {latency : Latency}
  {size : UInt64}

/-- The result belongs to the planned pattern, and its samples took as long as so many iterations
of it take. -/
structure Shows (latency : Latency) (iterations : ℕ) (planned : PlannedPattern)
    (r : PatternResult) : Prop where
  kind_eq : r.kind = planned.kind
  time_eq : Session.sampleTime r.samples = iterations * planned.pattern.schedule.duration latency

theorem exists_step (iterations fileSize : UInt64) {planned : PlannedPattern}
    {state : RunState δ ο} (hd : Device.Costs latency size state.session.device)
    (hsize : size.toNat ≤ allocationLimit) (hfits : planned.pattern.Fits size)
    (room : Device.time state.session.device +
      iterations.toNat * planned.pattern.schedule.duration latency < wordCount) :
    ∃ r state', step iterations fileSize planned state = .ok state' ∧
      Shows latency iterations.toNat planned r ∧
      state'.results = state.results.push r ∧ state'.skipped = state.skipped ∧
      Device.Spends (iterations.toNat * planned.pattern.schedule.duration latency)
        state.session.device state'.session.device := by
  obtain ⟨all, keepCold, session, hrepeated, hsum, hspent⟩ :=
    Session.exists_repeated 1 state.keepCold #[] hd hsize hfits room
  obtain ⟨r, hr⟩ : ∃ r, r = (PatternResult.ofPlanned planned fileSize).extend all := ⟨_, rfl⟩
  have hshows : Shows latency iterations.toNat planned r := by
    rw [hr]
    refine ⟨rfl, ?_⟩
    rw [PatternResult.extend, PatternResult.ofPlanned, Session.sampleTime_append, hsum]
    simp [Session.sampleTime]
  obtain ⟨state', hcomplete⟩ := complete_of_totalled { state with session, keepCold }
    (show Session.sampleTime r.samples < wordCount by rw [hshows.time_eq]; omega)
  obtain ⟨entries, hstate'⟩ := complete_ok hcomplete
  refine ⟨r, state', by simp only [step, hrepeated, ← hr, hcomplete], hshows, ?_, ?_, ?_⟩
  all_goals rw [hstate']
  exact hspent

theorem exists_steps (iterations fileSize : UInt64) {plans : List PlannedPattern}
    (state : RunState δ ο) (hd : Device.Costs latency size state.session.device)
    (hsize : size.toNat ≤ allocationLimit) (hfits : ∀ planned ∈ plans, planned.pattern.Fits size)
    (room : Device.time state.session.device + iterations.toNat *
      (plans.map fun planned => planned.pattern.schedule.duration latency).sum < wordCount) :
    ∃ results state', steps iterations fileSize plans state = .ok state' ∧
      List.Forall₂ (Shows latency iterations.toNat) plans results ∧
      state'.results.toList = state.results.toList ++ results ∧
      state'.skipped = state.skipped := by
  induction plans generalizing state with
  | nil => exact ⟨[], state, rfl, .nil, (List.append_nil _).symm, rfl⟩
  | cons planned plans ih =>
    obtain ⟨hfirst, hrest⟩ := List.forall_mem_cons.1 hfits
    rw [List.map_cons, List.sum_cons, Nat.mul_add] at room
    obtain ⟨r, middle, hstep, hshows, hpushed, hskipped, hspent⟩ :=
      exists_step iterations fileSize hd hsize hfirst (by omega)
    have htime := hspent.time_eq
    obtain ⟨results, state', hsteps, hall, hresults, hskipped'⟩ :=
      ih middle (hd.of_reaches hspent.reaches) hrest (by omega)
    refine ⟨r :: results, state', by simp only [steps, hstep, hsteps], .cons hshows hall, ?_, ?_⟩
    · rw [hresults, hpushed, Array.toList_push, List.append_assoc]
      rfl
    · rw [hskipped', hskipped]

omit [Device δ] [OffsetSource ο] [LawfulOffsetSource ο] in
theorem shows_of_mem {iterations : ℕ} {plans : List PlannedPattern} {results : List PatternResult}
    (h : List.Forall₂ (Shows latency iterations) plans results) {r : PatternResult}
    (hr : r ∈ results) : ∃ planned ∈ plans, Shows latency iterations planned r := by
  induction h with
  | nil => cases hr
  | cons hfirst _ ih =>
    rcases List.mem_cons.1 hr with rfl | hr
    · exact ⟨_, List.mem_cons_self, hfirst⟩
    · obtain ⟨planned, hplanned, hshows⟩ := ih hr
      exact ⟨planned, List.mem_cons_of_mem _ hplanned, hshows⟩

omit [Device δ] [OffsetSource ο] [LawfulOffsetSource ο] in
/-- The first result of a kind belongs to the first planned pattern of that kind. -/
theorem find?_shows {iterations : ℕ} {plans : List PlannedPattern} {results : List PatternResult}
    (h : List.Forall₂ (Shows latency iterations) plans results) {kind : PatternKind}
    {planned : PlannedPattern} (hplanned : plans.find? (·.kind = kind) = some planned) :
    ∃ r, results.find? (·.kind = kind) = some r ∧ Shows latency iterations planned r := by
  induction h with
  | nil => cases hplanned
  | @cons first r plans results hfirst _ ih =>
    rw [List.find?_cons] at hplanned ⊢
    rw [hfirst.kind_eq]
    split at hplanned
    next =>
      cases hplanned
      exact ⟨r, rfl, hfirst⟩
    next => exact ih hplanned

end RunState

/-- The exact time that one iteration at a kind takes where costs are constant. A grouped scan seeks
once. -/
def Layout.exactTime (l : Layout) (latency : Latency) : PatternKind → ℕ
  | .groupedScan => latency.seek.toNat + l.groupSize.toNat * latency.read.toNat
  | .singlesScan => l.groupSize.toNat * (latency.seek.toNat + latency.read.toNat)
  | .strideScan => l.exactJumps * (latency.seek.toNat + latency.read.toNat)
  | .largeSequential | .singleSequential => latency.seek.toNat + latency.read.toNat

theorem Layout.duration_suite (l : Layout) (latency : Latency) (hgroup : 1 ≤ l.groupSize.toNat)
    {planned : PlannedPattern} (h : planned ∈ l.suite) :
    planned.pattern.schedule.duration latency = l.exactTime latency planned.kind := by
  have hreads := l.reads_suite h
  rw [Schedule.duration, hreads]
  simp only [suite, List.mem_cons, List.not_mem_nil, or_false] at h
  rcases h with rfl | rfl | rfl | rfl | rfl
  · show min l.groupSize.toNat 1 * latency.seek.toNat + l.groupSize.toNat * latency.read.toNat =
      latency.seek.toNat + l.groupSize.toNat * latency.read.toNat
    rw [min_eq_right hgroup, Nat.one_mul]
  · exact (Nat.mul_add _ _ _).symm
  · exact (Nat.mul_add _ _ _).symm
  · exact congrArg₂ (· + ·) (Nat.one_mul _) (Nat.one_mul _)
  · exact congrArg₂ (· + ·) (Nat.one_mul _) (Nat.one_mul _)

theorem Layout.exists_find?_suite (l : Layout) (kind : PatternKind) :
    ∃ planned, l.suite.find? (·.kind = kind) = some planned := by
  have hmem : kind ∈ l.suite.map (·.kind) := l.map_kind_suite ▸ kind.mem_all
  obtain ⟨planned, hplanned, hkind⟩ := List.mem_map.1 hmem
  exact Option.isSome_iff_exists.1 (List.find?_isSome.2 ⟨planned, hplanned, decide_eq_true hkind⟩)

/-- The report has a result for the kind, whose samples add up to a time. -/
def RunReport.Totals (report : RunReport) (kind : PatternKind) (time : ℕ) : Prop :=
  ∃ r total, report.result? kind = some r ∧ r.totalNanos = .ok total ∧ total.toNat = time

namespace Settings

variable {δ ο : Type} [Device δ] [OffsetSource ο]

/-- On a device with constant costs, a run of patterns that all fit returns if the clock can show
its end, skips nothing, and its totals are exact. -/
theorem exists_run [LawfulOffsetSource ο] {latency : Latency} {size : UInt64} (c : Settings)
    {s : Session δ ο} (hd : Device.Costs latency size s.device)
    (hsize : size.toNat ≤ allocationLimit) (hgroup : 1 ≤ c.groupSize.toNat)
    (hfits : ∀ planned ∈ c.layout.suite, planned.pattern.Fits size)
    (room : Device.time s.device + c.iterations.toNat *
      (PatternKind.all.map (c.layout.exactTime latency)).sum < wordCount) :
    ∃ report s', c.run s = .ok (report, s') ∧ report.skipped = [] ∧
      ∀ kind, report.Totals kind (c.iterations.toNat * c.layout.exactTime latency kind) := by
  have hdurations : c.layout.suite.map (fun planned => planned.pattern.schedule.duration latency) =
      PatternKind.all.map (c.layout.exactTime latency) := by
    rw [← c.layout.map_kind_suite, List.map_map]
    exact List.map_congr_left fun planned h => c.layout.duration_suite latency hgroup h
  obtain ⟨results, state, hsteps, hall, hresults, hskipped⟩ :=
    RunState.exists_steps c.iterations (Device.size s.device) ⟨c.opened s, c.noCache, #[], #[]⟩ hd
      hsize hfits (by rw [hdurations]; exact room)
  have hbound (kind : PatternKind) :
      c.iterations.toNat * c.layout.exactTime latency kind < wordCount := by
    have hle := List.le_sum_of_mem
      (List.mem_map_of_mem (f := c.layout.exactTime latency) kind.mem_all)
    have hmul := Nat.mul_le_mul_left c.iterations.toNat hle
    omega
  have hshown {planned : PlannedPattern} (h : planned ∈ c.layout.suite) {r : PatternResult}
      (hr : RunState.Shows latency c.iterations.toNat planned r) :
      Session.sampleTime r.samples =
        c.iterations.toNat * c.layout.exactTime latency planned.kind := by
    rw [hr.time_eq, c.layout.duration_suite latency hgroup h]
  have htotalled : ∀ r ∈ state.results.toList, Session.sampleTime r.samples < wordCount := by
    intro r hr
    rw [hresults] at hr
    obtain ⟨planned, hplanned, hr⟩ := RunState.shows_of_mem hall hr
    rw [hshown hplanned hr]
    exact hbound planned.kind
  obtain ⟨comparison, hcomparison⟩ := Comparison.ofResults_ok c.groupSize c.divisor htotalled
  refine ⟨_, _, run_ok_iff.2 ⟨state, comparison, hsteps, hcomparison, rfl, rfl⟩, ?_, ?_⟩
  · simp [hskipped]
  · intro kind
    obtain ⟨planned, hfound⟩ := c.layout.exists_find?_suite kind
    obtain ⟨r, hr, hshows⟩ := RunState.find?_shows hall hfound
    have htime := hshown (List.mem_of_find?_eq_some hfound) hshows
    rw [show planned.kind = kind by simpa using List.find?_some hfound] at htime
    obtain ⟨total, htotal⟩ := Word.sum_ok (htime.trans_lt (hbound kind))
    refine ⟨r, total, ?_, htotal, (Word.toNat_sum htotal).trans htime⟩
    rw [RunReport.result?, hresults]
    exact hr

end Settings

theorem RunReport.totals_unique {report : RunReport} {kind : PatternKind} {a b : ℕ}
    (ha : report.Totals kind a) (hb : report.Totals kind b) : a = b := by
  obtain ⟨r, total, hr, htotal, rfl⟩ := ha
  obtain ⟨r', total', hr', htotal', rfl⟩ := hb
  rw [hr] at hr'
  cases hr'
  rw [htotal] at htotal'
  cases htotal'
  rfl

/-- However long each call takes, the samples of a pattern that completes last as long as their own
calls: the sample with a number has the read with that number, and the seek with that number unless
it is a read in place; a grouped scan seeks for its first sample only. Where all seeks take one time
and all reads another, a run whose patterns fit returns if the clock can show its end. It skips
nothing, its totals are exact, and a grouped scan takes less than singles by all its seeks but one.
-/
theorem Settings.run_charges {δ ο : Type} [Device δ] [OffsetSource ο] :
    (∀ (p : Pattern) (s s' : Session δ ο) (samples : Array Sample) (seekTime readTime : ℕ → ℕ),
      Device.Timed seekTime readTime s.device → s.run p = (.ok samples, s') →
      samples.size = p.schedule.reads ∧
      (∀ i, ∀ hi : i < samples.size, samples[i].nanos.toNat =
        (if i = 0 ∨ p.schedule.later ≠ .contiguous then seekTime i else 0) + readTime i) ∧
      ∀ n length, p = .groupedScan n length → ∀ i, ∀ hi : i < samples.size,
        samples[i].nanos.toNat = (if i = 0 then seekTime 0 else 0) + readTime i) ∧
    ∀ [LawfulOffsetSource ο] (c : Settings) (s : Session δ ο) (latency : Latency) (size : UInt64),
      Device.Costs latency size s.device → size.toNat < 2 ^ 63 → 1 ≤ c.groupSize.toNat →
      (∀ planned ∈ c.layout.suite, planned.pattern.Fits size) →
      Device.time s.device + c.iterations.toNat *
        (PatternKind.all.map (c.layout.exactTime latency)).sum < wordCount →
      ∃ report s', c.run s = .ok (report, s') ∧ report.skipped = [] ∧
        (∀ kind, report.Totals kind (c.iterations.toNat * c.layout.exactTime latency kind)) ∧
        ∀ grouped singles, report.Totals .groupedScan grouped →
          report.Totals .singlesScan singles → singles = grouped +
            c.iterations.toNat * ((c.groupSize.toNat - 1) * latency.seek.toNat) := by
  refine ⟨?samples, ?totals⟩
  case samples =>
    intro p s s' samples seekTime readTime ht h
    have hcharged := Session.charged_of_run ht h
    refine ⟨?_, hcharged, ?_⟩
    · obtain ⟨_, _, _, reads, _, _, _, hlength, hall⟩ := Session.reads_of_run h
      rw [← hlength, ← Array.length_toList, hall, List.length_map]
    · rintro n length rfl i hi
      rw [hcharged i hi]
      congr 1
      by_cases hfirst : i = 0
      · rw [if_pos (.inl hfirst), if_pos hfirst, hfirst]
      · rw [if_neg hfirst, if_neg]
        rintro (hzero | hlater)
        · exact hfirst hzero
        · exact hlater rfl
  case totals =>
    intro _ c s latency size hd hsize hgroup hfits room
    obtain ⟨report, s', hrun, hskipped, htotals⟩ :=
      c.exists_run hd (Nat.le_of_lt_succ hsize) hgroup hfits room
    refine ⟨report, s', hrun, hskipped, htotals, ?_⟩
    intro grouped singles hgrouped hsingles
    rw [RunReport.totals_unique hsingles (htotals .singlesScan),
      RunReport.totals_unique hgrouped (htotals .groupedScan), ← Nat.mul_add]
    obtain ⟨n, hn⟩ : ∃ n, c.groupSize.toNat = n + 1 :=
      ⟨c.groupSize.toNat - 1, (Nat.sub_add_cancel hgroup).symm⟩
    simp only [Layout.exactTime, Settings.layout, hn, Nat.add_sub_cancel]
    ring

/-- A grouped scan whose first seek takes a hundred and whose reads take seven, one and thirty; and
three iterations of a run where every seek takes five and every read ten. -/
theorem Settings.run_charges_three_iterations :
    let f : PacedStore := ⟨.ofBytes (.counting 100), fun _ => 100, ([7, 1, 30].getD · 0), 0, 0⟩
    let m : MemoryStore := { data := .counting 5000000, latency := ⟨5, 10⟩ }
    let source : ScriptedOffsets := ⟨#[7], 0⟩
    let c : Settings := { path := "plots", groupSize := 2, scanElements := 524288, iterations := 3 }
    (∃ samples s', Session.run (.groupedScan 3 4) ⟨f, source, #[]⟩ = (.ok samples, s') ∧
      samples.size = 3 ∧ ∀ i, ∀ hi : i < samples.size, samples[i].nanos.toNat =
        (if i = 0 then 100 else 0) + ([7, 1, 30].getD i 0 : UInt64).toNat) ∧
    ∃ report s', c.run ⟨m, source, #[]⟩ = .ok (report, s') ∧
      report.Totals .groupedScan 75 ∧ report.Totals .singlesScan 90 := by
  intro f m source c
  refine ⟨?_, ?_⟩
  · have hcompletes : (Session.run (.groupedScan 3 4) ⟨f, source, #[]⟩).1.isOk := by decide +kernel
    rcases hrun : Session.run (.groupedScan 3 4) ⟨f, source, #[]⟩ with ⟨halt | samples, s'⟩
    · rw [hrun] at hcompletes
      cases hcompletes
    · obtain ⟨hsize, -, hgrouped⟩ := Settings.run_charges.1 _ _ _ _ _ _ f.timed hrun
      refine ⟨samples, s', rfl, hsize, ?_⟩
      intro i hi
      rw [hgrouped 3 4 rfl i hi, show f.reads + i = i from Nat.zero_add i]
      rfl
  · have hfits : ∀ planned ∈ c.layout.suite, planned.pattern.Fits 5000000 := by
      have hall : ∀ planned ∈ c.layout.suite, planned.pattern.exactSpan ≤ 5000000 ∧
          planned.pattern.schedule.reads * Pattern.sampleSize ≤ allocationLimit := by
        decide +kernel
      exact fun planned h => ⟨(hall planned h).1, (hall planned h).2⟩
    obtain ⟨report, s', hrun, -, htotals, -⟩ := Settings.run_charges.2 c ⟨m, source, #[]⟩ ⟨5, 10⟩
      5000000 m.costs (by decide) (by decide) hfits (by decide +kernel)
    exact ⟨report, s', hrun, htotals .groupedScan, htotals .singlesScan⟩

end ScanLatency
