import ScanLatency.Memory.Store
import ScanLatency.OpenFile
import ScanLatency.Proofs.OffsetRange
import ScanLatency.Proofs.Room

/-! An open file and a store in memory that hold the same bytes are interchangeable, as long as no
call asks for more than the system grants in one: whatever sequence of seeks and reads is made, both
give the same answers and fill buffers alike, and no pattern can tell one from the other. Only clocks
differ. The clock of a store stops the program when it runs out, so that the store must be able to
afford what is asked of it. -/
namespace ScanLatency

/-- A call of a reader. A read brings the buffer that it is to fill. -/
inductive BufferedCall
  | seek (offset : UInt64)
  | read (buffer : Array UInt8)

inductive Answer
  | sought
  | filled (count : UInt64) (buffer : Array UInt8)
  | failed (cause : IoError)
  deriving DecidableEq

namespace BufferedCall

/-- The call keeps to the positions and the lengths that the system takes. -/
def Moderate : BufferedCall → Prop
  | .seek offset => offset < positionLimit
  | .read buffer => buffer.size ≤ transferLimit.toNat

instance : DecidablePred Moderate
  | .seek offset => inferInstanceAs (Decidable (offset < positionLimit))
  | .read buffer => inferInstanceAs (Decidable (buffer.size ≤ transferLimit.toNat))

def duration (latency : Latency) : BufferedCall → ℕ
  | .seek _ => latency.seek.toNat
  | .read _ => latency.read.toNat

def onStore (m : MemoryStore) : BufferedCall → Except Abort (Answer × MemoryStore)
  | .seek offset => (m.seek offset).map fun m => (.sought, m)
  | .read buffer => (m.readInto buffer).map fun (count, buffer, m) => (.filled count buffer, m)

def onFile (f : OpenFile) : BufferedCall → Answer × OpenFile
  | .seek offset =>
    match f.seek offset with
    | (.ok (), f) => (.sought, f)
    | (.error cause, f) => (.failed cause, f)
  | .read buffer =>
    match f.readInto buffer with
    | (.ok (count, buffer), f) => (.filled count buffer, f)
    | (.error cause, f) => (.failed cause, f)

end BufferedCall

/-- Makes calls one after the other; the answers come in their order. -/
def MemoryStore.answers : List BufferedCall → MemoryStore → Except Abort (List Answer × MemoryStore)
  | [], m => .ok ([], m)
  | call :: calls, m =>
    match call.onStore m with
    | .error abort => .error abort
    | .ok (answer, m) => (m.answers calls).map fun (rest, m) => (answer :: rest, m)

@[inherit_doc MemoryStore.answers]
def OpenFile.answers : List BufferedCall → OpenFile → List Answer × OpenFile
  | [], f => ([], f)
  | call :: calls, f =>
    let (answer, f) := call.onFile f
    let (rest, f) := f.answers calls
    (answer :: rest, f)

def totalDuration (latency : Latency) (calls : List BufferedCall) : ℕ :=
  (calls.map (·.duration latency)).sum

/-- A store without a cap and an open regular file, with the same bytes and at the same position. The
clock of the store has `time` left. -/
structure Alike (data : Bytes) (latency : Latency) (time : ℕ) (m : MemoryStore) (f : OpenFile) :
    Prop where
  store_data : m.data = data
  file_kind : f.file.kind = .regular data
  position_eq : f.position = m.position
  uncapped : m.maxRead = none
  latency_eq : m.latency = latency
  affords : m.clock.time.toNat + time < wordCount

namespace Alike

variable {data : Bytes} {latency : Latency} {time : ℕ} {m : MemoryStore} {f : OpenFile}

theorem mono (h : Alike data latency time m f) {less : ℕ} (hle : less ≤ time) :
    Alike data latency less m f :=
  { h with affords := by have := h.affords; omega }

theorem size_store (h : Alike data latency time m f) : Device.size m = data.size := by
  rw [← h.store_data]
  rfl

theorem size_file (h : Alike data latency time m f) : Device.size f = data.size := by
  show f.file.kind.size = _
  rw [h.file_kind]
  rfl

/-- The store spends part of the time that it has left. -/
theorem advance {nanos : UInt64} (h : Alike data latency (nanos.toNat + time) m f) :
    ∃ clock, m.advance nanos = .ok { m with clock } ∧ Alike data latency time { m with clock } f := by
  have haffords := h.affords
  have hfits : m.clock.time.toNat + nanos.toNat < wordCount := by omega
  obtain ⟨clock, hclock⟩ := ManualClock.advance_of_lt hfits
  have htime := ManualClock.toNat_time_advance hclock
  refine ⟨clock, by simp [MemoryStore.advance, hclock], { h with affords := ?_ }⟩
  show clock.time.toNat + time < wordCount
  omega

theorem seek {offset : UInt64} (h : Alike data latency (latency.seek.toNat + time) m f)
    (hoffset : offset < positionLimit) :
    ∃ m', m.seek offset = .ok m' ∧ f.seek offset = (.ok (), { f with position := offset }) ∧
      Alike data latency time m' { f with position := offset } := by
  obtain rfl := h.latency_eq
  obtain ⟨clock, hclock, hspent⟩ := h.advance
  refine ⟨_, by rw [MemoryStore.seek, hclock], ?_, ?_⟩
  · simp [OpenFile.seek, h.file_kind, hoffset]
  · exact { hspent with position_eq := rfl }

/-- Both give what is left of the data from the position on, and nothing beyond its end. -/
theorem skim {wanted : UInt64} (h : Alike data latency (latency.read.toNat + time) m f)
    (hwanted : wanted ≤ transferLimit) :
    ∃ m' f', m.skim wanted = .ok (data.available m.position wanted, m') ∧
      f.skim wanted = (.ok (data.available m.position wanted), f') ∧
      Alike data latency time m' f' := by
  obtain rfl := h.latency_eq
  obtain ⟨clock, hclock, hspent⟩ := h.advance
  have hyield : ({ m with clock } : MemoryStore).yield wanted = data.available m.position wanted := by
    simp only [MemoryStore.yield, h.uncapped, h.store_data]
  have hgranted : min wanted transferLimit = wanted := if_pos hwanted
  refine ⟨({ m with clock, position := m.position + data.available m.position wanted } :
      MemoryStore).record (.read m.position (data.available m.position wanted)),
    { f with position := f.position + data.available m.position wanted }, ?_, ?_, ?_⟩
  · simp only [MemoryStore.skim, hclock, hyield]
  · simp [OpenFile.skim, h.file_kind, h.position_eq, hgranted]
  · refine { hspent with position_eq := ?_ }
    simp [MemoryStore.record, h.position_eq]

/-- One call gets one answer, with the same bytes in its buffer. -/
theorem answer {call : BufferedCall} (h : Alike data latency (call.duration latency + time) m f)
    (hmoderate : call.Moderate) :
    ∃ m', call.onStore m = .ok ((call.onFile f).1, m') ∧
      Alike data latency time m' (call.onFile f).2 := by
  cases call with
  | seek offset =>
    obtain ⟨m', hstore, hfile, halike⟩ := h.seek hmoderate
    simp only [BufferedCall.onStore, BufferedCall.onFile, hstore, hfile]
    exact ⟨m', rfl, halike⟩
  | read buffer =>
    have hsize : UInt64.ofNat buffer.size ≤ transferLimit := by
      have hlt : buffer.size < wordCount := Nat.lt_of_le_of_lt hmoderate (UInt64.toNat_lt _)
      have hexact : (UInt64.ofNat buffer.size).toNat = buffer.size := UInt64.toNat_ofNat_of_lt hlt
      exact UInt64.le_iff_toNat_le.2 (hexact.trans_le hmoderate)
    obtain ⟨m', f', hstore, hfile, halike⟩ := h.skim hsize
    simp only [BufferedCall.onStore, BufferedCall.onFile, MemoryStore.readInto, OpenFile.readInto,
      hstore, hfile, h.store_data, h.file_kind, h.position_eq]
    exact ⟨m', rfl, halike⟩

theorem answers {calls : List BufferedCall}
    (h : Alike data latency (totalDuration latency calls + time) m f)
    (hmoderate : ∀ call ∈ calls, call.Moderate) :
    ∃ m', m.answers calls = .ok ((f.answers calls).1, m') ∧
      Alike data latency time m' (f.answers calls).2 := by
  induction calls generalizing m f with
  | nil => exact ⟨m, rfl, h.mono (Nat.le_add_left _ _)⟩
  | cons call calls ih =>
    rw [totalDuration, List.map_cons, List.sum_cons, Nat.add_assoc] at h
    obtain ⟨m₁, hfirst, hnext⟩ := h.answer (hmoderate call List.mem_cons_self)
    obtain ⟨m', hrest, hlast⟩ := ih hnext fun c hc => hmoderate c (List.mem_cons_of_mem _ hc)
    refine ⟨m', ?_, hlast⟩
    simp only [MemoryStore.answers, hfirst, hrest]
    rfl

end Alike

def Latency.access (latency : Latency) : Option UInt64 → ℕ
  | none => latency.read.toNat
  | some _ => latency.seek.toNat + latency.read.toNat

/-- What a sample tells about the bytes, its duration left out. -/
def Sample.yielded (sample : Sample) : UInt64 × Bool := (sample.bytesRead, sample.shortRead)

namespace Schedule

/-- The seeks among the `n` reads that remain. Reads in place have none but the first. -/
def seeksLeft (sch : Schedule) (last : Option UInt64) (n : ℕ) : ℕ :=
  match sch.later, last with
  | .contiguous, some _ => 0
  | .contiguous, none => min n 1
  | _, _ => n

def timeLeft (sch : Schedule) (latency : Latency) (last : Option UInt64) (n : ℕ) : ℕ :=
  sch.seeksLeft last n * latency.seek.toNat + n * latency.read.toNat

def duration (sch : Schedule) (latency : Latency) : ℕ := sch.timeLeft latency none sch.reads

/-- A read with a target takes one of the seeks that are left, a read in place none. -/
theorem seeksLeft_succ {ο : Type} [OffsetSource ο] {sch : Schedule} {limit : UInt64}
    {start last target : Option UInt64} {source source' : ο}
    (h : Session.nextTarget limit sch.later start last source = (.ok target, source')) (n : ℕ) :
    sch.seeksLeft last (n + 1) = target.toList.length + sch.seeksLeft (target.or last) n := by
  unfold seeksLeft
  cases last with
  | none =>
    obtain ⟨offset, rfl⟩ : ∃ offset, target = some offset := by
      cases start with
      | none =>
        cases h
        exact ⟨_, rfl⟩
      | some offset =>
        cases h
        exact ⟨offset, rfl⟩
    cases sch.later with
    | contiguous => simp
    | _ => exact Nat.add_comm n 1
  | some offset =>
    cases hlater : sch.later with
    | contiguous =>
      rw [hlater] at h
      cases h
      rfl
    | redrawn =>
      rw [hlater] at h
      cases h
      exact Nat.add_comm n 1
    | spaced stride =>
      rw [hlater] at h
      obtain ⟨sum, -, rfl⟩ := map_eq_ok_iff.1 (congrArg Prod.fst h)
      exact Nat.add_comm n 1

/-- Each read takes the time of its access. -/
theorem timeLeft_succ {ο : Type} [OffsetSource ο] {sch : Schedule} {limit : UInt64}
    {start last target : Option UInt64} {source source' : ο}
    (h : Session.nextTarget limit sch.later start last source = (.ok target, source'))
    (latency : Latency) (n : ℕ) :
    sch.timeLeft latency last (n + 1) =
      latency.access target + sch.timeLeft latency (target.or last) n := by
  rw [timeLeft, timeLeft, seeksLeft_succ h]
  cases target with
  | none =>
    simp only [Latency.access, Option.toList_none, List.length_nil]
    ring
  | some offset =>
    simp only [Latency.access, Option.toList_some, List.length_singleton]
    ring

end Schedule

namespace Alike

variable {data : Bytes} {latency : Latency} {time : ℕ} {m : MemoryStore} {f : OpenFile}

/-- The clock that times an open file plays no part. -/
theorem read_clock (h : Alike data latency time m f) :
    Alike data latency time (Clock.now m).2 (Clock.now f).2 :=
  ⟨h.store_data, h.file_kind, h.position_eq, h.uncapped, h.latency_eq, h.affords⟩

theorem read {length : UInt64} (h : Alike data latency (latency.read.toNat + time) m f)
    (hlength : length ≤ transferLimit) :
    ∃ got m' f', Device.read length m = (.ok got, m') ∧ Device.read length f = (.ok got, f') ∧
      Alike data latency time m' f' := by
  obtain ⟨m', f', hstore, hfile, hnext⟩ := h.skim hlength
  simp only [Device.read, hstore, hfile]
  exact ⟨_, _, _, rfl, rfl, hnext⟩

theorem access {target : Option UInt64} {length : UInt64}
    (h : Alike data latency (latency.access target + time) m f)
    (htarget : ∀ offset ∈ target, offset < positionLimit) (hlength : length ≤ transferLimit) :
    ∃ got m' f', Device.access target length m = (.ok got, m') ∧
      Device.access target length f = (.ok got, f') ∧ Alike data latency time m' f' := by
  cases target with
  | none => exact h.read hlength
  | some offset =>
    rw [Latency.access, Nat.add_assoc] at h
    obtain ⟨m₁, hstore, hfile, hsought⟩ := h.seek (htarget offset rfl)
    obtain ⟨got, m', f', hread, hread', hnext⟩ := hsought.read hlength
    refine ⟨got, m', f', ?_, ?_, hnext⟩
    · simp only [Device.access, Device.seek, hstore, hread]
    · simp only [Device.access, Device.seek, hfile, Except.mapError, hread']

/-- Both samples tell the same about the bytes. How long they lasted is up to the clocks. -/
theorem sample {target : Option UInt64} {length : UInt64}
    (h : Alike data latency (latency.access target + time) m f)
    (htarget : ∀ offset ∈ target, offset < positionLimit) (hlength : length ≤ transferLimit) :
    ∃ a b m' f', Device.sample target length m = (.ok a, m') ∧
      Device.sample target length f = (.ok b, f') ∧ a.yielded = b.yielded ∧
      Alike data latency time m' f' := by
  obtain ⟨got, m', f', hstore, hfile, hnext⟩ := h.read_clock.access htarget hlength
  simp only [Device.sample, sampled, hstore, hfile]
  exact ⟨_, _, _, _, rfl, rfl, rfl, hnext.read_clock⟩

end Alike

namespace Session

variable {ο : Type} [OffsetSource ο]

theorem shortNotice_congr {a b : Sample} (h : a.yielded = b.yielded) (p : Pattern)
    (target : Option UInt64) : shortNotice p target a = shortNotice p target b := by
  obtain ⟨hbytes, hshort⟩ := Prod.mk.inj h
  simp only [shortNotice, hbytes, hshort]

variable [LawfulOffsetSource ο] {data : Bytes} {latency : Latency} {time : ℕ}

/-- The reads that remain give the same bytes on both, with the same draws and the same notices. -/
theorem readAll_alike {p : Pattern} {limit : UInt64} {start last : Option UInt64} {n : ℕ}
    {as bs : Array Sample} {m : MemoryStore} {f : OpenFile}
    (h : Alike data latency (p.schedule.timeLeft latency last n + time) m f)
    (hsize : data.size < positionLimit) (hlength : 0 < n → p.schedule.length ≤ transferLimit)
    (hlimit : ∀ k < n, limit.toNat + p.schedule.extent k ≤ data.size.toNat)
    (hstart : ∀ offset ∈ start, offset ≤ limit)
    (hlast : p.schedule.RoomAfter data.size.toNat n last)
    (hsame : as.map (·.yielded) = bs.map (·.yielded)) (source : ο) (journal : Array Event) :
    ∃ as' bs' m' f' source' journal',
      readAll p limit start n last as ⟨m, source, journal⟩ = (.ok as', ⟨m', source', journal'⟩) ∧
      readAll p limit start n last bs ⟨f, source, journal⟩ = (.ok bs', ⟨f', source', journal'⟩) ∧
      as'.map (·.yielded) = bs'.map (·.yielded) ∧ Alike data latency time m' f' := by
  induction n generalizing last as bs m f source journal with
  | zero => exact ⟨as, bs, m, f, source, journal, rfl, rfl, hsame, h.mono (Nat.le_add_left _ _)⟩
  | succ n ih =>
    obtain ⟨target, hfound, hplaced⟩ :=
      nextTarget_ok source (hlimit n (Nat.lt_succ_self n)) hstart hlast
    obtain ⟨source', htarget⟩ : ∃ source', nextTarget limit p.schedule.later start last source =
        (.ok target, source') := ⟨_, Prod.ext hfound rfl⟩
    have hgranted : p.schedule.length ≤ transferLimit := hlength (Nat.succ_pos n)
    have hbelow := UInt64.lt_iff_toNat_lt.1 hsize
    have hinside : ∀ offset ∈ target, offset < positionLimit := by
      intro offset hoffset
      have hroom := hplaced.room offset hoffset
      exact UInt64.lt_iff_toNat_lt.2 (by omega)
    rw [Schedule.timeLeft_succ htarget, Nat.add_assoc] at h
    obtain ⟨a, b, m', f', hstore, hfile, hyielded, hnext⟩ := h.sample hinside hgranted
    have hpushed : (as.push a).map (·.yielded) = (bs.push b).map (·.yielded) := by
      rw [Array.map_push, Array.map_push, hsame, hyielded]
    have hrest : ∀ k < n, limit.toNat + p.schedule.extent k ≤ data.size.toNat :=
      fun k hk => hlimit k (Nat.lt_succ_of_lt hk)
    simp only [readAll, htarget, hstore, hfile, noteShort, shortNotice_congr hyielded]
    cases shortNotice p target b with
    | none => exact ih hnext (fun _ => hgranted) hrest hplaced.roomAfter hpushed _ _
    | some notice => exact ih hnext (fun _ => hgranted) hrest hplaced.roomAfter hpushed _ _

/-- A run of a pattern has one outcome on both. -/
theorem run_alike {p : Pattern} {m : MemoryStore} {f : OpenFile}
    (h : Alike data latency (p.schedule.duration latency + time) m f)
    (hsize : data.size < positionLimit)
    (hlength : 0 < p.schedule.reads → p.schedule.length ≤ transferLimit) (source : ο)
    (journal : Array Event) :
    ∃ x y m' f' source' journal',
      run p ⟨m, source, journal⟩ = (x, ⟨m', source', journal'⟩) ∧
      run p ⟨f, source, journal⟩ = (y, ⟨f', source', journal'⟩) ∧
      x.map (·.map (·.yielded)) = y.map (·.map (·.yielded)) ∧ Alike data latency time m' f' := by
  have hspared : Alike data latency time m f := h.mono (Nat.le_add_left _ _)
  have hnone : (#[] : Array Sample).map (·.yielded) = (#[] : Array Sample).map (·.yielded) := rfl
  unfold run
  simp only [h.size_store, h.size_file]
  cases hlimit : p.maxStart data.size with
  | error cause => exact ⟨_, _, m, f, source, journal, rfl, rfl, rfl, hspared⟩
  | ok limit =>
    dsimp only
    rcases hprepare : prepare p limit p.preparations none source with ⟨abort | start, source'⟩
    · exact ⟨_, _, m, f, source', journal, rfl, rfl, rfl, hspared⟩
    · obtain ⟨as, bs, m', f', source'', journal', hstore, hfile, hsame, hlast⟩ :=
        readAll_alike h hsize hlength (Pattern.limit_add_extent_le hlimit)
          (start_le_of_prepare (by simp) hprepare) (p.schedule.roomAfter_none _ _) hnone source'
          journal
      exact ⟨_, _, m', f', source'', journal', hstore, hfile, congrArg Except.ok hsame, hlast⟩

end Session

/-- A store in memory without a cap and an open file with the same bytes cannot be told apart: not by
seeks and reads, each within what the system takes in one call, and not by the run of a pattern
whose reads are, whatever the state of its source. All buffers are filled alike; the samples of a
pattern differ in their durations only. A store without latencies can afford it all. -/
theorem MemoryStore.interchangeable (ο : Type) [OffsetSource ο] [LawfulOffsetSource ο] (data : Bytes)
    (latency : Latency) (time : ℕ) (m : MemoryStore) (f : OpenFile) :
    (∀ calls : List BufferedCall, Alike data latency (totalDuration latency calls + time) m f →
      (∀ call ∈ calls, call.Moderate) →
      ∃ m', m.answers calls = .ok ((f.answers calls).1, m') ∧
        Alike data latency time m' (f.answers calls).2) ∧
    ∀ p : Pattern, Alike data latency (p.schedule.duration latency + time) m f →
      data.size < positionLimit → (0 < p.schedule.reads → p.schedule.length ≤ transferLimit) →
      ∀ (source : ο) (journal : Array Event), ∃ x y m' f' source' journal',
        Session.run p ⟨m, source, journal⟩ = (x, ⟨m', source', journal'⟩) ∧
        Session.run p ⟨f, source, journal⟩ = (y, ⟨f', source', journal'⟩) ∧
        x.map (·.map (·.yielded)) = y.map (·.map (·.yielded)) ∧ Alike data latency time m' f' := by
  refine ⟨?calls, ?patterns⟩
  case calls =>
    intro calls h hmoderate
    exact h.answers hmoderate
  case patterns =>
    intro p h hsize hlength source journal
    exact Session.run_alike h hsize hlength source journal

/-- Reads across the end of the data, beyond it and of no bytes at all, and a pattern. -/
theorem MemoryStore.interchangeable_at_end :
    let data := Bytes.counting 1000
    let m : MemoryStore := { data, latency := ⟨5, 10⟩ }
    let f : OpenFile := { file := { kind := .regular data } }
    let calls : List BufferedCall :=
      [.seek 997, .read #[1, 2, 3, 4], .read #[], .seek 1500, .read #[7]]
    (∃ m', m.answers calls =
      .ok ([.sought, .filled 3 #[244, 245, 246, 4], .filled 0 #[], .sought, .filled 0 #[7]], m')) ∧
    ∃ x y s t, Session.run (.groupedScan 3 300) ⟨m, (⟨#[50], 0⟩ : ScriptedOffsets), #[]⟩ = (x, s) ∧
      Session.run (.groupedScan 3 300) ⟨f, (⟨#[50], 0⟩ : ScriptedOffsets), #[]⟩ = (y, t) ∧
      x.map (·.map (·.yielded)) = y.map (·.map (·.yielded)) ∧
      x.map (·.map (·.yielded)) = .ok #[(300, false), (300, false), (300, false)] := by
  intro data m f calls
  have hcalls : Alike data ⟨5, 10⟩ (totalDuration ⟨5, 10⟩ calls + 0) m f :=
    ⟨rfl, rfl, rfl, rfl, rfl, by decide⟩
  have hpattern :
      Alike data ⟨5, 10⟩ ((Pattern.groupedScan 3 300).schedule.duration ⟨5, 10⟩ + 0) m f :=
    ⟨rfl, rfl, rfl, rfl, rfl, by decide⟩
  have hfile : (f.answers calls).1 =
      [.sought, .filled 3 #[244, 245, 246, 4], .filled 0 #[], .sought, .filled 0 #[7]] := by
    decide +kernel
  obtain ⟨hanswers, hruns⟩ := MemoryStore.interchangeable ScriptedOffsets data ⟨5, 10⟩ 0 m f
  obtain ⟨m', hstore, -⟩ := hanswers calls hcalls (by decide)
  rw [hfile] at hstore
  obtain ⟨x, y, _, _, _, _, hx, hy, hsame, -⟩ :=
    hruns (.groupedScan 3 300) hpattern (by decide) (by decide) ⟨#[50], 0⟩ #[]
  have hyielded : (Session.run (.groupedScan 3 300) ⟨m, (⟨#[50], 0⟩ : ScriptedOffsets), #[]⟩).1.map
      (·.map (·.yielded)) = .ok #[(300, false), (300, false), (300, false)] := by
    decide +kernel
  rw [hx] at hyielded
  exact ⟨⟨m', hstore⟩, x, y, _, _, hx, hy, hsame, hyielded⟩

end ScanLatency
