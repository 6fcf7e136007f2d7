import ScanLatency.Proofs.Containment
import ScanLatency.Proofs.Deadline
import ScanLatency.Proofs.Naming

/-! Patterns that overlap. Five patterns come down to one read at a random offset, and a grouped
scan reads what a strided walk without gaps reads. On a store in memory without a cap such patterns
are refused together, draw the same start and make the same reads; a walk differs by its seeks, and
by the time that they take. -/
namespace ScanLatency

def PatternError.renamed (name : String) : PatternError → PatternError
  | .sizing _ required fileSize => .sizing name required fileSize
  | .spanOverflow _ => .spanOverflow name
  | .io _ cause => .io name cause

namespace Pattern

variable {p q : Pattern} {m : MemoryStore}

/-- Patterns of one span are refused together, and by one error but for the name. -/
theorem maxStart_congr (hspan : q.exactSpan = p.exactSpan) (size : UInt64) :
    q.maxStart size = (p.maxStart size).mapError (·.renamed q.runName) := by
  unfold maxStart
  rw [requiredSpan_eq, requiredSpan_eq, hspan]
  cases Word.ofNat? p.exactSpan with
  | none => rfl
  | some required =>
    cases h : Word.checkedSub size required <;> simp [h, Except.mapError, PatternError.renamed]

/-- Patterns of one span, one demand for memory and one duration have one fate but for the name. -/
theorem fate_congr (hspan : q.exactSpan = p.exactSpan)
    (hallot : q.allot q.preparations = p.allot p.preparations)
    (hduration : q.schedule.duration m.latency = p.schedule.duration m.latency) :
    q.fate m = (p.fate m).mapError (Halt.restate (·.renamed q.runName)) := by
  unfold fate
  rw [maxStart_congr hspan, hallot, hduration]
  cases p.maxStart m.data.size with
  | error cause => rfl
  | ok limit =>
    cases p.allot p.preparations with
    | error abort => rfl
    | ok =>
      dsimp only [Except.mapError]
      split <;> rfl

end Pattern

/-- A completed run has drawn one offset, told nothing, and operated on the store as stated, from
that offset. -/
structure Session.Swept {ο : Type} [OffsetSource ο] (limit : UInt64)
    (operations : UInt64 → List Operation) (s t : Session MemoryStore ο) : Prop where
  source_eq : t.source = (OffsetSource.draw limit s.source).2
  journal_eq : t.journal = s.journal
  operations_eq : t.device.operations.toList =
    s.device.operations.toList ++ operations (OffsetSource.draw limit s.source).1

/-! ### One read -/

theorem Schedule.timeLeft_one (sch : Schedule) (latency : Latency) :
    sch.timeLeft latency none 1 = latency.seek.toNat + latency.read.toNat := by
  have hone : sch.seeksLeft none 1 = 1 := by
    obtain ⟨reads, length, later⟩ := sch
    cases later <;> rfl
  rw [timeLeft, hone, Nat.one_mul, Nat.one_mul]

/-- The patterns that come down to one read at a random offset. -/
inductive Pattern.ReadsOnce (length : UInt64) : Pattern → Prop
  | randomSeeks : ReadsOnce length (.randomSeeks 1 length)
  | strideSeeks (stride : UInt64) : ReadsOnce length (.strideSeeks 0 stride length)
  | sequentialLarge : ReadsOnce length (.sequentialLarge length)
  | groupedScan : ReadsOnce length (.groupedScan 1 length)
  | singlesScan : ReadsOnce length (.singlesScan 1 length)

namespace Pattern.ReadsOnce

variable {p : Pattern} {length : UInt64}

theorem reads_eq (h : p.ReadsOnce length) : p.schedule.reads = 1 := by cases h <;> rfl

theorem length_eq (h : p.ReadsOnce length) : p.schedule.length = length := by cases h <;> rfl

theorem exactSpan_eq (h : p.ReadsOnce length) : p.exactSpan = length.toNat := by
  cases h <;> simp [exactSpan]

theorem reserveSamples_eq (h : p.ReadsOnce length) : p.reserveSamples = .ok () := by
  rw [Pattern.reserveSamples_eq, h.reads_eq]
  rfl

theorem allot_eq (h : p.ReadsOnce length) : p.allot p.preparations = reserve length.toNat := by
  have hbuffer : p.reserveBuffer = reserve length.toNat := by rw [reserveBuffer, h.length_eq]
  have hsamples := h.reserveSamples_eq
  cases h with
  | groupedScan =>
    rw [preparations_groupedScan (by decide)]
    cases hreserve : reserve length.toNat <;> simp [allot, hbuffer, hsamples, hreserve, Except.bind]
  | _ =>
    cases hreserve : reserve length.toNat <;>
      simp [preparations, allot, hbuffer, hsamples, hreserve, Except.bind]

theorem duration_eq (h : p.ReadsOnce length) (latency : Latency) :
    p.schedule.duration latency = latency.seek.toNat + latency.read.toNat := by
  rw [Schedule.duration, h.reads_eq, Schedule.timeLeft_one]

end Pattern.ReadsOnce

namespace Session

section Once

variable {δ ο : Type} [Device δ] [OffsetSource ο] {p : Pattern} {length limit : UInt64}

omit [Device δ] in
/-- The one read goes to the one offset that is drawn, before the memory is set aside or after. -/
theorem nextTarget_of_readsOnce (h : p.ReadsOnce length) {start : Option UInt64}
    {source source' : ο}
    (hprepare : prepare p limit p.preparations none source = (.ok start, source')) :
    nextTarget limit p.schedule.later start none source' =
      (.ok (some (OffsetSource.draw limit source).1), (OffsetSource.draw limit source).2) := by
  cases h with
  | randomSeeks | singlesScan =>
    obtain ⟨rfl, rfl⟩ := prepare_idle [.buffer, .samples] (by decide) hprepare
    rfl
  | strideSeeks | sequentialLarge =>
    obtain ⟨rfl, rfl⟩ := prepare_drawn [] [.buffer, .samples] (by decide) (by decide) hprepare
    rfl
  | groupedScan =>
    rw [Pattern.preparations_groupedScan (by decide)] at hprepare
    obtain ⟨rfl, rfl⟩ := prepare_drawn [.samples] [.buffer] (by decide) (by decide) hprepare
    rfl

/-- A pattern that reads once, fits and finds its memory is one sample. -/
theorem run_of_readsOnce (h : p.ReadsOnce length) {s : Session δ ο}
    (hlimit : p.maxStart (Device.size s.device) = .ok limit)
    (hmemory : reserve length.toNat = .ok ()) :
    s.run p =
      let (offset, source) := OffsetSource.draw limit s.source
      match Device.sample (some offset) length s.device with
      | (.error halt, device) => (.error (halt.restate (.io p.runName)), { s with device, source })
      | (.ok sample, device) =>
        (.ok #[sample], noteShort p (some offset) sample { s with device, source }) := by
  have hallot := map_prepare p limit p.preparations none s.source
  rw [h.allot_eq, hmemory] at hallot
  rcases hprepare : prepare p limit p.preparations none s.source with ⟨abort | start, source⟩
  · rw [hprepare] at hallot
    cases hallot
  · simp only [run, hlimit, hprepare, h.reads_eq, readAll, nextTarget_of_readsOnce h hprepare,
      h.length_eq]
    rcases Device.sample (some (OffsetSource.draw limit s.source).1) length s.device with
      ⟨halt | sample, device⟩ <;> rfl

end Once

variable {ο : Type} [OffsetSource ο] [LawfulOffsetSource ο] {p q : Pattern} {length : UInt64}
  {s t : Session MemoryStore ο} {samples : Array Sample}

/-- Where one of two patterns that read once completes, so does the other, with the same sample and
the same session. -/
theorem run_of_readsOnce_ok (hp : p.ReadsOnce length) (hq : q.ReadsOnce length)
    (hcap : s.device.maxRead = none) (h : s.run p = (.ok samples, t)) :
    s.run q = (.ok samples, t) ∧ ∃ limit sample,
      limit.toNat + length.toNat = s.device.data.size.toNat ∧ samples = #[sample] ∧
      sample.bytesRead = length ∧ sample.shortRead = false ∧
      Swept limit (fun offset => [.seek offset, .read offset length]) s t := by
  obtain ⟨limit, hlimit, hallotted⟩ := allotted_of_run h
  rw [show Device.size s.device = s.device.data.size from rfl] at hlimit
  have hmemory : reserve length.toNat = .ok () := hp.allot_eq.symm.trans hallotted
  have hlimit' : q.maxStart s.device.data.size = .ok limit := by
    rw [Pattern.maxStart_congr (hq.exactSpan_eq.trans hp.exactSpan_eq.symm), hlimit]
    rfl
  have hroom := Pattern.toNat_add_of_maxStart hlimit
  rw [hp.exactSpan_eq] at hroom
  have hstart := UInt64.le_iff_toNat_le.1 (LawfulOffsetSource.draw_le limit s.source)
  have hrun := run_of_readsOnce hp (s := s) hlimit hmemory
  have hrun' := run_of_readsOnce hq (s := s) hlimit' hmemory
  rw [h] at hrun
  rcases hsample : Device.sample (some (OffsetSource.draw limit s.source).1) length s.device with
    ⟨halt | sample, device⟩
  · simp [hsample] at hrun
  · obtain ⟨hbytes, hshort, -, -, -, hops⟩ := MemoryStore.sample_inside hsample hcap
      (by simp only [Option.getD_some]; omega)
    simp only [hsample, noteShort, shortNotice, hshort] at hrun hrun'
    obtain ⟨hsamples, rfl⟩ := Prod.mk.inj hrun
    obtain rfl := Except.ok.inj hsamples
    exact ⟨hrun', limit, sample, hroom, rfl, hbytes, hshort, rfl, rfl, by simpa using hops⟩

/-- Two patterns that read once end alike, but for the name in their errors. -/
theorem run_of_readsOnce_congr (hp : p.ReadsOnce length) (hq : q.ReadsOnce length)
    (hcap : s.device.maxRead = none) :
    (s.run q).1 = (s.run p).1.mapError (Halt.restate (·.renamed q.runName)) := by
  have hfate : q.fate s.device = (p.fate s.device).mapError (Halt.restate (·.renamed q.runName)) :=
    Pattern.fate_congr (hq.exactSpan_eq.trans hp.exactSpan_eq.symm)
      (hq.allot_eq.trans hp.allot_eq.symm)
      ((hq.duration_eq _).trans (hp.duration_eq _).symm)
  rcases hrun : s.run p with ⟨halt | samples, t⟩
  · have hhalts : p.fate s.device = .error halt := by
      rw [← map_run, hrun]
      rfl
    rw [hhalts] at hfate
    exact run_halts_of_fate hfate
  · rw [(run_of_readsOnce_ok hp hq hcap hrun).1]
    rfl

end Session

/-! ### Reads one after the other -/

/-- The offsets of `n` reads of some length, each of which starts where the one before it ends. -/
def consecutive (start : ℕ) (length : UInt64) (n : ℕ) : List UInt64 :=
  (List.range n).map fun i => .ofNat (start + i * length.toNat)

theorem consecutive_succ (start : ℕ) (length : UInt64) (n : ℕ) :
    consecutive start length (n + 1) =
      .ofNat start :: consecutive (start + length.toNat) length n := by
  rw [consecutive, List.range_succ_eq_map, List.map_cons, List.map_map, Nat.zero_mul, Nat.add_zero]
  refine congrArg (UInt64.ofNat start :: ·) (List.map_congr_left fun i _ => ?_)
  show UInt64.ofNat (start + (i + 1) * length.toNat) =
    UInt64.ofNat (start + length.toNat + i * length.toNat)
  congr 1
  ring

namespace Step

def operation? : Step → Option Operation
  | .draw .. => none
  | .seek offset => some (.seek offset)
  | .read place _ got => some (.read (.ofNat place) got)

variable {length : UInt64} {fetched : List Fetched}

/-- Reads in place are one after the other, as long as each is complete. -/
theorem operations_readOf {position : ℕ} (h : Placed position (fetched.map (readOf length)))
    (hgot : ∀ r ∈ fetched, r.got = length) :
    (fetched.map (readOf length)).filterMap (·.operation?) =
      (consecutive position length fetched.length).map (.read · length) := by
  induction fetched generalizing position with
  | nil => rfl
  | cons r fetched ih =>
    obtain ⟨hfirst, hrest⟩ := List.forall_mem_cons.1 hgot
    obtain ⟨hplace, htail⟩ := h
    rw [hfirst] at htail
    rw [List.map_cons, List.length_cons, consecutive_succ, List.map_cons, ← ih htail hrest,
      ← hplace]
    simp [readOf, operation?, hfirst]

/-- Seeks and reads draw nothing. -/
theorem draw?_of_mem_soughtRead (length : UInt64) (offsets : List UInt64) (fetched : List Fetched) :
    ∀ step ∈ (List.zipWith (soughtRead length) offsets fetched).flatten, step.draw? = none := by
  induction offsets generalizing fetched with
  | nil => simp
  | cons offset offsets ih =>
    cases fetched with
    | nil => simp
    | cons r fetched =>
      rw [List.zipWith_cons_cons, List.flatten_cons, List.forall_mem_append]
      exact ⟨by simp [soughtRead, readOf, draw?], ih fetched⟩

/-- A read after a seek is at the offset that was sought. -/
theorem operations_soughtRead {offsets : List UInt64} (hlength : offsets.length = fetched.length)
    {position : ℕ} (h : Placed position (List.zipWith (soughtRead length) offsets fetched).flatten)
    (hgot : ∀ r ∈ fetched, r.got = length) :
    (List.zipWith (soughtRead length) offsets fetched).flatten.filterMap (·.operation?) =
      offsets.flatMap fun offset => [.seek offset, .read offset length] := by
  induction offsets generalizing fetched position with
  | nil => simp
  | cons offset offsets ih =>
    cases fetched with
    | nil => cases hlength
    | cons r fetched =>
      obtain ⟨hfirst, hrest⟩ := List.forall_mem_cons.1 hgot
      obtain ⟨hplace, htail⟩ := h
      have hplaced : UInt64.ofNat r.place = offset := by
        rw [show r.place = offset.toNat from hplace]
        exact UInt64.ofNat_toNat
      rw [List.zipWith_cons_cons, List.flatten_cons, List.filterMap_append, List.flatMap_cons,
        ih (Nat.succ.inj hlength) htail hrest]
      simp [soughtRead, readOf, operation?, hplaced, hfirst]

end Step

namespace Session

variable {ο : Type} [OffsetSource ο] {s t : Session MemoryStore ο} {steps : List Step}

/-- A store records the steps that were made on it. -/
theorem Traced.operations (h : Traced (fun m : MemoryStore => m.position.toNat) s steps t) :
    t.device.operations.toList = s.device.operations.toList ++ steps.filterMap (·.operation?) := by
  induction h with
  | done => simp
  | draw _ _ ih => simpa [Step.operation?] using ih
  | seek sought _ ih =>
    simp only [Device.seek] at sought
    split at sought
    next hseek =>
      cases sought
      obtain ⟨_, _, rfl⟩ := MemoryStore.seek_ok hseek
      rw [ih]
      simp [MemoryStore.record, Step.operation?]
    next => cases sought
  | read fetched _ ih =>
    simp only [Device.read] at fetched
    split at fetched
    next hskim =>
      cases fetched
      obtain ⟨_, _, rfl, rfl⟩ := MemoryStore.skim_ok hskim
      rw [ih]
      simp [MemoryStore.record, Step.operation?]
    next => cases fetched
  | clock _ ih => exact ih
  | note _ ih => exact ih

/-- Steps without a draw leave the source alone. -/
theorem Traced.source_eq {δ : Type} [Device δ] {position : δ → ℕ} {s t : Session δ ο}
    (h : Traced position s steps t) (hsteps : ∀ step ∈ steps, step.draw? = none) :
    t.source = s.source := by
  induction h with
  | done => rfl
  | draw => exact absurd (hsteps _ List.mem_cons_self) (by simp [Step.draw?])
  | seek _ _ ih => exact ih fun step hstep => hsteps step (List.mem_cons_of_mem _ hstep)
  | read _ _ ih => exact ih fun step hstep => hsteps step (List.mem_cons_of_mem _ hstep)
  | clock _ ih => exact ih hsteps
  | note _ ih => exact ih hsteps

/-- Steps that begin with their only draw have drawn it from the source as it was. -/
theorem Traced.source_of_draw {δ : Type} [Device δ] {position : δ → ℕ} {s t : Session δ ο}
    {limit start : UInt64} (h : Traced position s (.draw limit start :: steps) t)
    (hsteps : ∀ step ∈ steps, step.draw? = none) :
    start = (OffsetSource.draw limit s.source).1 ∧
      t.source = (OffsetSource.draw limit s.source).2 := by
  generalize hall : Step.draw limit start :: steps = all at h
  induction h with
  | done => cases hall
  | draw _ tail =>
    cases hall
    exact ⟨rfl, tail.source_eq hsteps⟩
  | seek => cases hall
  | read => cases hall
  | clock _ ih => exact ih hall
  | note _ ih => exact ih hall

variable [LawfulOffsetSource ο] {p : Pattern} {samples : Array Sample}

/-- On a store without a cap no sample of a completed run is short, so that there is nothing to
tell. -/
theorem complete_of_run (hcap : s.device.maxRead = none) (h : s.run p = (.ok samples, t)) :
    (∀ sample ∈ samples, sample.bytesRead = p.schedule.length) ∧ t.journal = s.journal := by
  obtain ⟨limit, start, source, reads, hlimit, hprepare, hreads, hlength, hall⟩ := reads_of_run h
  have hroom := Pattern.limit_add_extent_le hlimit
  rw [← hlength] at hroom
  have hready : s.device.Ready p.schedule s.device.data.size reads.length none :=
    ⟨hcap, rfl, p.schedule.roomAfter_none _ _, fun hnone => absurd rfl hnone⟩
  obtain ⟨-, hsamples⟩ := reads_inside s.device.data.size hreads hroom
    (start_le_of_prepare (by simp) hprepare) hready
  constructor
  · intro sample hsample
    rw [← Array.mem_toList_iff, hall] at hsample
    obtain ⟨r, hr, rfl⟩ := List.mem_map.1 hsample
    exact (hsamples r hr).1
  · have hnone : shortNotices p reads = [] := by
      rw [shortNotices, List.filterMap_eq_nil_iff]
      intro r hr
      simp [shortNotice, (hsamples r hr).2]
    have hjournal := hreads.journal_eq
    rw [hnone] at hjournal
    exact Array.toList_inj.1 (by simpa using hjournal)

/-- A completed run on a store without a cap has followed its script with complete reads. -/
theorem scripted_of_run (hcap : s.device.maxRead = none) (h : s.run p = (.ok samples, t)) :
    ∃ (limit : UInt64) (fetched : List Fetched) (steps : List Step),
      limit.toNat + p.exactSpan = s.device.data.size.toNat ∧ p.Script limit fetched steps ∧
      Traced (fun m : MemoryStore => m.position.toNat) s steps t ∧
      fetched.length = p.schedule.reads ∧ ∀ r ∈ fetched, r.got = p.schedule.length := by
  obtain ⟨limit, fetched, steps, hlimit, hscript, hyields, htraced⟩ :=
    script_of_run (fun m : MemoryStore => m.position.toNat) h
  obtain ⟨hcomplete, -⟩ := complete_of_run hcap h
  refine ⟨limit, fetched, steps, hlimit, hscript, htraced, ?_, ?_⟩
  · have hlength := congrArg List.length hyields
    rw [List.length_map, List.length_map, Array.length_toList, size_of_run h] at hlength
    exact hlength.symm
  · intro r hr
    have hmem : r.got ∈ samples.toList.map (·.bytesRead) := hyields ▸ List.mem_map_of_mem hr
    obtain ⟨sample, hsample, hbytes⟩ := List.mem_map.1 hmem
    rw [← hbytes]
    exact hcomplete sample (Array.mem_toList_iff.1 hsample)

variable {n length : UInt64}

theorem swept_of_groupedScan (hn : n ≠ 0) (hcap : s.device.maxRead = none)
    (h : s.run (.groupedScan n length) = (.ok samples, t)) :
    ∃ limit : UInt64, limit.toNat + n.toNat * length.toNat = s.device.data.size.toNat ∧
      Swept limit (fun start => .seek start ::
        (consecutive start.toNat length n.toNat).map (.read · length)) s t := by
  obtain ⟨limit, fetched, steps, hlimit, hscript, htraced, hlength, hgot⟩ := scripted_of_run hcap h
  rw [Pattern.Script, if_neg hn] at hscript
  obtain ⟨start, -, rfl⟩ := hscript
  obtain ⟨hstart, hsource⟩ := htraced.source_of_draw (by simp [Step.draw?, Step.readOf])
  have hplaced : Step.Placed start.toNat (fetched.map (Step.readOf length)) :=
    htraced.placed s.device.positioned
  refine ⟨limit, hlimit, hsource, (complete_of_run hcap h).2, ?_⟩
  rw [htraced.operations, ← hstart, show n.toNat = fetched.length from hlength.symm,
    ← Step.operations_readOf hplaced hgot]
  simp [Step.operation?]

/-- A walk without gaps. -/
theorem swept_of_strideSeeks (hcap : s.device.maxRead = none)
    (h : s.run (.strideSeeks n length length) = (.ok samples, t)) :
    ∃ limit : UInt64, limit.toNat + (n.toNat + 1) * length.toNat = s.device.data.size.toNat ∧
      Swept limit (fun start => (consecutive start.toNat length (n.toNat + 1)).flatMap fun offset =>
        [.seek offset, .read offset length]) s t := by
  obtain ⟨limit, fetched, steps, hlimit, hscript, htraced, hlength, hgot⟩ := scripted_of_run hcap h
  obtain ⟨start, -, offsets, hoffsets, rfl⟩ := hscript
  have hcount : offsets.length = fetched.length := by simpa using congrArg List.length hoffsets
  obtain ⟨hstart, hsource⟩ :=
    htraced.source_of_draw (Step.draw?_of_mem_soughtRead length offsets fetched)
  have hplaced : Step.Placed s.device.position.toNat
      (List.zipWith (Step.soughtRead length) offsets fetched).flatten :=
    htraced.placed s.device.positioned
  have hconsecutive : offsets = consecutive start.toNat length (n.toNat + 1) := by
    rw [consecutive, show n.toNat + 1 = fetched.length from hlength.symm]
    have hwords := congrArg (List.map UInt64.ofNat) hoffsets
    simpa [List.map_map, Function.comp_def] using hwords
  refine ⟨limit, ?_, hsource, (complete_of_run hcap h).2, ?_⟩
  · rw [Nat.succ_mul]
    exact hlimit
  · rw [htraced.operations, ← hstart, ← hconsecutive,
      ← Step.operations_soughtRead hcount hplaced hgot]
    simp [Step.operation?]

end Session

/-! ### Walks without gaps -/

namespace Pattern

variable {n : UInt64}

theorem toNat_sub_one_add_one (hn : n ≠ 0) : (n - 1).toNat + 1 = n.toNat := by
  have hpos : 0 < n.toNat := Nat.pos_of_ne_zero fun hzero => hn (UInt64.toNat_inj.1 hzero)
  have hone : 1 ≤ n := UInt64.le_iff_toNat_le.2 hpos
  rw [UInt64.toNat_sub_of_le _ _ hone]
  exact Nat.sub_add_cancel hpos

theorem exactSpan_gapless (hn : n ≠ 0) (length : UInt64) :
    (strideSeeks (n - 1) length length).exactSpan = (groupedScan n length).exactSpan := by
  rw [exactSpan, exactSpan, ← toNat_sub_one_add_one hn, Nat.succ_mul]

/-- A walk asks for the memory of a grouped scan, in another order, and aborts alike where it finds
none. -/
theorem allot_gapless (hn : n ≠ 0) (length : UInt64) :
    let walk := strideSeeks (n - 1) length length
    let grouped := groupedScan n length
    walk.allot walk.preparations = grouped.allot grouped.preparations := by
  intro walk grouped
  have hreads : walk.schedule.reads = grouped.schedule.reads := toNat_sub_one_add_one hn
  have hword : grouped.schedule.reads < wordCount := UInt64.toNat_lt n
  have hsamples : walk.reserveSamples = grouped.reserveSamples := by
    rw [reserveSamples_eq, reserveSamples_eq, sampleAbort, sampleAbort, hreads]
  have hbuffer : walk.reserveBuffer = grouped.reserveBuffer := rfl
  rw [show walk.preparations = [.start, .buffer, .samples] from rfl,
    show grouped.preparations = _ from preparations_groupedScan hn]
  simp only [allot, hbuffer, hsamples]
  rw [reserveBuffer, reserve, reserveSamples_eq, sampleAbort, if_pos hword]
  split <;> split <;> rfl

theorem duration_grouped (hn : n ≠ 0) (length : UInt64) (latency : Latency) :
    (groupedScan n length).schedule.duration latency =
      latency.seek.toNat + n.toNat * latency.read.toNat := by
  have hpos := toNat_sub_one_add_one hn
  show min n.toNat 1 * latency.seek.toNat + n.toNat * latency.read.toNat = _
  rw [min_eq_right (by omega), Nat.one_mul]

theorem duration_walk (hn : n ≠ 0) (length : UInt64) (latency : Latency) :
    (strideSeeks (n - 1) length length).schedule.duration latency =
      n.toNat * (latency.seek.toNat + latency.read.toNat) := by
  show ((n - 1).toNat + 1) * latency.seek.toNat + ((n - 1).toNat + 1) * latency.read.toNat = _
  rw [toNat_sub_one_add_one hn, Nat.mul_add]

/-- A walk ends as the grouped scan does, unless its additional seeks outlast the clock. -/
theorem fate_gapless (hn : n ≠ 0) (length : UInt64) (m : MemoryStore) :
    let walk := strideSeeks (n - 1) length length
    let grouped := groupedScan n length
    walk.fate m = (grouped.fate m).mapError (Halt.restate (·.renamed walk.runName)) ∨
      grouped.fate m = .ok () ∧ walk.fate m = .error (.aborted .additionOverflow) ∧
        wordCount ≤
          m.clock.time.toNat + n.toNat * (m.latency.seek.toNat + m.latency.read.toNat) := by
  intro walk grouped
  have hlonger : grouped.schedule.duration m.latency ≤ walk.schedule.duration m.latency := by
    rw [duration_grouped hn, duration_walk hn, Nat.mul_add]
    have hpos := toNat_sub_one_add_one hn
    exact Nat.add_le_add_right (Nat.le_mul_of_pos_left _ (by omega)) _
  unfold fate
  rw [maxStart_congr (exactSpan_gapless hn length), allot_gapless hn length]
  cases grouped.maxStart m.data.size with
  | error cause => exact .inl rfl
  | ok limit =>
    cases grouped.allot grouped.preparations with
    | error abort => exact .inl rfl
    | ok =>
      -- The walk takes no less time, so that the clock can part the two in one way only.
      dsimp only [Except.mapError]
      by_cases hwalk : m.clock.time.toNat + walk.schedule.duration m.latency < wordCount
      · rw [if_pos hwalk, if_pos (by omega)]
        exact .inl rfl
      · rw [if_neg hwalk]
        by_cases hgrouped : m.clock.time.toNat + grouped.schedule.duration m.latency < wordCount
        · rw [if_pos hgrouped, ← duration_walk hn length]
          exact .inr ⟨rfl, rfl, Nat.not_lt.1 hwalk⟩
        · rw [if_neg hgrouped]
          exact .inl rfl

end Pattern

namespace Session

variable {ο : Type} [OffsetSource ο] [LawfulOffsetSource ο] {n length : UInt64}
  {s t t' : Session MemoryStore ο}

/-- A grouped scan and a walk without gaps that both complete draw one start and read one sequence;
the walk seeks before each read, the scan before the first. -/
theorem swept_gapless (hn : n ≠ 0) (hcap : s.device.maxRead = none)
    {samples samples' : Array Sample}
    (h : s.run (.groupedScan n length) = (.ok samples, t))
    (h' : s.run (.strideSeeks (n - 1) length length) = (.ok samples', t')) :
    ∃ limit : UInt64, limit.toNat + n.toNat * length.toNat = s.device.data.size.toNat ∧
      Swept limit (fun start => .seek start ::
        (consecutive start.toNat length n.toNat).map (.read · length)) s t ∧
      Swept limit (fun start => (consecutive start.toNat length n.toNat).flatMap fun offset =>
        [.seek offset, .read offset length]) s t' := by
  obtain ⟨limit, hlimit, hswept⟩ := swept_of_groupedScan hn hcap h
  obtain ⟨limit', hlimit', hswept'⟩ := swept_of_strideSeeks hcap h'
  rw [Pattern.toNat_sub_one_add_one hn] at hlimit' hswept'
  -- Both spans are those of `n` reads, and so the two starts are drawn below one limit.
  obtain rfl : limit' = limit := UInt64.toNat_inj.1 (by omega)
  exact ⟨limit', hlimit, hswept, hswept'⟩

/-- Patterns agree where they overlap, on every store in memory without a cap. How a pattern ends is
decided by its span, its memory and its clock. Patterns that read once end alike, but for the name
in their errors; where one completes the others do so with its sample, its draw and its operations.
So do a grouped scan and a walk without gaps end alike, unless the walk alone takes longer than the
clock can show; where both complete they make the same draw and the same reads, and differ by the
further seeks of the walk. -/
theorem patterns_agree (length : UInt64) (hcap : s.device.maxRead = none) :
    (∀ p : Pattern, ((s.run p).1.map fun _ => ()) = p.fate s.device) ∧
    (∀ p q : Pattern, p.ReadsOnce length → q.ReadsOnce length →
      (s.run q).1 = (s.run p).1.mapError (Halt.restate (·.renamed q.runName)) ∧
      ∀ samples t, s.run p = (.ok samples, t) → s.run q = (.ok samples, t) ∧
        ∃ limit sample, limit.toNat + length.toNat = s.device.data.size.toNat ∧
          samples = #[sample] ∧ sample.bytesRead = length ∧ sample.shortRead = false ∧
          Swept limit (fun offset => [.seek offset, .read offset length]) s t) ∧
    ∀ n : UInt64, n ≠ 0 →
      let grouped : Pattern := .groupedScan n length
      let walk : Pattern := .strideSeeks (n - 1) length length
      (((s.run walk).1.map fun _ => ()) =
          ((s.run grouped).1.map fun _ => ()).mapError (Halt.restate (·.renamed walk.runName)) ∨
        (∃ samples t, s.run grouped = (.ok samples, t)) ∧
          (s.run walk).1 = .error (.aborted .additionOverflow) ∧
          wordCount ≤ s.device.clock.time.toNat +
            n.toNat * (s.device.latency.seek.toNat + s.device.latency.read.toNat)) ∧
      ∀ samples t samples' t', s.run grouped = (.ok samples, t) → s.run walk = (.ok samples', t') →
        ∃ limit : UInt64, limit.toNat + n.toNat * length.toNat = s.device.data.size.toNat ∧
          Swept limit (fun start => .seek start ::
            (consecutive start.toNat length n.toNat).map (.read · length)) s t ∧
          Swept limit (fun start => (consecutive start.toNat length n.toNat).flatMap fun offset =>
            [.seek offset, .read offset length]) s t' := by
  refine ⟨fun p => map_run p s, ?_, ?_⟩
  · intro p q hp hq
    exact ⟨run_of_readsOnce_congr hp hq hcap, fun samples t h => run_of_readsOnce_ok hp hq hcap h⟩
  · intro n hn
    refine ⟨?_, fun samples t samples' t' h h' => swept_gapless hn hcap h h'⟩
    rw [map_run, map_run]
    rcases Pattern.fate_gapless hn length s.device with halike | ⟨hgrouped, hwalk, hlate⟩
    · exact .inl halike
    · exact .inr ⟨exists_run_of_fate hgrouped, run_halts_of_fate hwalk, hlate⟩

/-- Reads of ten bytes in a hundred, one and then three. -/
theorem patterns_agree_tens :
    let s : Session MemoryStore ScriptedOffsets :=
      ⟨{ MemoryStore.ofBytes (.counting 100) with latency := ⟨5, 1⟩ }, ⟨#[3], 0⟩, #[]⟩
    s.device.maxRead = none ∧
      ((s.run (.groupedScan 3 50)).1.map fun _ => ()) =
        .error (.failed (.sizing "grouped sequential read" 150 100)) ∧
      (∃ samples t, s.run (.groupedScan 1 10) = (.ok samples, t) ∧
        s.run (.strideSeeks 0 7 10) = (.ok samples, t)) ∧
      ∃ samples t samples' t', s.run (.groupedScan 3 10) = (.ok samples, t) ∧
        s.run (.strideSeeks 2 10 10) = (.ok samples', t') ∧
        t.device.operations.toList = [.seek 3, .read 3 10, .read 13 10, .read 23 10] ∧
        t'.device.operations.toList =
          [.seek 3, .read 3 10, .seek 13, .read 13 10, .seek 23, .read 23 10] := by
  intro s
  have hcap : s.device.maxRead = none := rfl
  obtain ⟨hends, honce, hgapless⟩ := patterns_agree 10 hcap
  refine ⟨hcap, hends _, ?_, ?_⟩
  · obtain ⟨samples, t, h⟩ : ∃ samples t, s.run (.groupedScan 1 10) = (.ok samples, t) :=
      exists_run_of_fate (by decide +kernel)
    exact ⟨samples, t, h, ((honce _ _ .groupedScan (.strideSeeks 7)).2 samples t h).1⟩
  · obtain ⟨samples, t, h⟩ : ∃ samples t, s.run (.groupedScan 3 10) = (.ok samples, t) :=
      exists_run_of_fate (by decide +kernel)
    obtain ⟨samples', t', h'⟩ : ∃ samples t, s.run (.strideSeeks 2 10 10) = (.ok samples, t) :=
      exists_run_of_fate (by decide +kernel)
    obtain ⟨limit, hlimit, hgrouped, hwalk⟩ := (hgapless 3 (by decide)).2 samples t samples' t' h h'
    obtain rfl : limit = 70 := UInt64.toNat_inj.1 (Nat.add_right_cancel hlimit)
    refine ⟨samples, t, samples', t', h, h', ?_, ?_⟩
    · rw [hgrouped.operations_eq]
      decide +kernel
    · rw [hwalk.operations_eq]
      decide +kernel

/-- On a clock that can show the end of one slow seek but not of two, only the grouped scan
completes. -/
theorem not_forall_gapless_complete :
    ¬∀ (n length : UInt64) (s : Session MemoryStore ScriptedOffsets), n ≠ 0 →
      s.device.maxRead = none → (Pattern.groupedScan n length).Allotted →
      (Pattern.strideSeeks (n - 1) length length).Allotted →
      ((∃ samples t, s.run (.groupedScan n length) = (.ok samples, t)) ↔
        ∃ samples t, s.run (.strideSeeks (n - 1) length length) = (.ok samples, t)) := by
  intro h
  let s : Session MemoryStore ScriptedOffsets :=
    ⟨{ MemoryStore.ofBytes (.counting 100) with latency := ⟨9223372036854775808, 0⟩ }, ⟨#[3], 0⟩,
      #[]⟩
  have hgrouped : (Pattern.groupedScan 2 1).fate s.device = .ok () := by decide +kernel
  have hwalk : (Pattern.strideSeeks 1 1 1).fate s.device = .error (.aborted .additionOverflow) := by
    decide +kernel
  obtain ⟨samples, t, hrun⟩ := (h 2 1 s (by decide) rfl
    (by unfold Pattern.Allotted; decide +kernel) (by unfold Pattern.Allotted; decide +kernel)).1
    (exists_run_of_fate hgrouped)
  have haborts := run_halts_of_fate (s := s) hwalk
  rw [show (Pattern.strideSeeks 1 1 1) = .strideSeeks (2 - 1) 1 1 from rfl, hrun] at haborts
  cases haborts

end Session
end ScanLatency
