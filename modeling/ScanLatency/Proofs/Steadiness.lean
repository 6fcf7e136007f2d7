import ScanLatency.Memory.Faulty
import ScanLatency.Proofs.Reads
import ScanLatency.Run

/-! Devices through all the calls that can be made of them. A dependable device answers or fails,
but never aborts, and its clock never runs backwards. Samples taken on such a device follow one
another on its clock, so that their durations together never exceed what the clock shows. -/
namespace ScanLatency

namespace Device

variable {δ : Type} [Device δ]

/-- The second device is what calls have made of the first, whichever and however many. -/
inductive Reaches (d : δ) : δ → Prop
  | refl : Reaches d d
  | now {e} (h : Reaches d e) : Reaches d (Clock.now e).2
  | seek {e} (offset : UInt64) (h : Reaches d e) : Reaches d (seek offset e).2
  | read {e} (length : UInt64) (h : Reaches d e) : Reaches d (read length e).2
  | dropCache {e} (h : Reaches d e) : Reaches d (dropCache e).2

theorem Reaches.trans {d e f : δ} (h : Reaches d e) (h' : Reaches e f) : Reaches d f := by
  induction h' with
  | refl => exact h
  | now _ ih => exact .now ih
  | seek offset _ ih => exact .seek offset ih
  | read length _ ih => exact .read length ih
  | dropCache _ ih => exact .dropCache ih

/-- A property of devices that reading the clock, seeks and reads keep. -/
structure Kept (property : δ → Prop) : Prop where
  now {d : δ} (h : property d) : property (Clock.now d).2
  seek {d : δ} (h : property d) (offset : UInt64) : property (Device.seek offset d).2
  read {d : δ} (h : property d) (length : UInt64) : property (Device.read length d).2

namespace Kept

variable {property : δ → Prop} {d : δ}

theorem access (hk : Kept property) (h : property d) (target : Option UInt64) (length : UInt64) :
    property (Device.access target length d).2 := by
  unfold Device.access
  split
  · exact hk.read h length
  next offset =>
    have hseek := hk.seek h offset
    split
    next heq => rwa [heq] at hseek
    next heq =>
      rw [heq] at hseek
      exact hk.read hseek length

theorem sample (hk : Kept property) (h : property d) (target : Option UInt64) (length : UInt64) :
    property (Device.sample target length d).2 := by
  have haccess := hk.access (hk.now h) target length
  unfold Device.sample sampled
  simp only
  split
  next heq => rwa [heq] at haccess
  next heq =>
    rw [heq] at haccess
    exact hk.now haccess
  next heq =>
    rw [heq] at haccess
    exact hk.now haccess

end Kept

theorem kept_reaches (d : δ) : Kept (Reaches d) :=
  ⟨.now, fun h offset => .seek offset h, fun h length => .read length h⟩

theorem reaches_access (target : Option UInt64) (length : UInt64) (d : δ) :
    Reaches d (access target length d).2 := (kept_reaches d).access .refl target length

theorem reaches_sample (target : Option UInt64) (length : UInt64) (d : δ) :
    Reaches d (sample target length d).2 := (kept_reaches d).sample .refl target length

/-- No seek and no read ends in a halt of some sort, whatever is called before. -/
def Avoids (bad : Halt IoError → Bool) (d : δ) : Prop :=
  ∀ e, Reaches d e → (∀ offset halt, (seek offset e).1 = .error halt → ¬bad halt) ∧
    ∀ length halt, (read length e).1 = .error halt → ¬bad halt

namespace Avoids

variable {bad : Halt IoError → Bool} {d : δ}

theorem of_reaches (h : Avoids bad d) {e : δ} (hreach : Reaches d e) : Avoids bad e :=
  fun f hf => h f (hreach.trans hf)

theorem access (h : Avoids bad d) {target : Option UInt64} {length : UInt64} {halt : Halt IoError}
    (haccess : (Device.access target length d).1 = .error halt) : ¬bad halt := by
  unfold Device.access at haccess
  split at haccess
  · exact (h d .refl).2 length halt haccess
  next offset =>
    have hseek : Reaches d (Device.seek offset d).2 := .seek offset .refl
    split at haccess
    next heq =>
      cases haccess
      exact (h d .refl).1 offset halt (by rw [heq])
    next heq =>
      rw [heq] at hseek
      exact (h _ hseek).2 length halt haccess

/-- A sample halts only as its access does. -/
theorem sample (h : Avoids bad d) {target : Option UInt64} {length : UInt64} {halt : Halt IoError}
    (hsample : (Device.sample target length d).1 = .error halt) : ¬bad halt := by
  unfold Device.sample sampled at hsample
  simp only at hsample
  split at hsample
  next heq =>
    cases hsample
    exact (h.of_reaches (.now .refl)).access (by rw [heq])
  next heq =>
    cases hsample
    exact (h.of_reaches (.now .refl)).access (by rw [heq])
  next => cases hsample

end Avoids

/-- No later reading of the clock is below an earlier one, whatever is called in between, and no
call aborts. -/
structure Dependable (d : δ) : Prop where
  steady : ∀ {e f}, Reaches d e → Reaches (Clock.now e).2 f → (Clock.now e).1 ≤ (Clock.now f).1
  avoids : Avoids Halt.isAborted d

theorem Dependable.of_reaches {d e : δ} (h : Dependable d) (hreach : Reaches d e) : Dependable e where
  steady hf hg := h.steady (hreach.trans hf) hg
  avoids := h.avoids.of_reaches hreach

/-- No reading of the clock from now on is below a time. -/
def NotBefore (time : ℕ) (d : δ) : Prop := ∀ e, Reaches d e → time ≤ (Clock.now e).1.toNat

theorem notBefore_zero (d : δ) : NotBefore 0 d := fun _ _ => Nat.zero_le _

theorem NotBefore.lt {time : ℕ} {d : δ} (h : NotBefore time d) : time < wordCount :=
  Nat.lt_of_le_of_lt (h d .refl) (UInt64.toNat_lt _)

theorem NotBefore.of_reaches {time : ℕ} {d e : δ} (h : NotBefore time d) (hreach : Reaches d e) :
    NotBefore time e := fun f hf => h f (hreach.trans hf)

/-- A sample moves the time by what it lasted. -/
theorem NotBefore.sample {time : ℕ} {d d' : δ} (h : NotBefore time d) (hd : Dependable d)
    {target : Option UInt64} {length : UInt64} {s : Sample}
    (hs : Device.sample target length d = (.ok s, d')) : NotBefore (time + s.nanos.toNat) d' := by
  obtain ⟨got, t, haccess, rfl, rfl⟩ := sampled_ok hs
  have hreach : Reaches (Clock.now d).2 t := by
    have := reaches_access target length (Clock.now d).2
    rwa [haccess] at this
  have hopen : Reaches d (Clock.now d).2 := .now .refl
  intro e he
  have hstart := h d .refl
  have hduring := UInt64.le_iff_toNat_le.1 (hd.steady .refl hreach)
  have hafter := UInt64.le_iff_toNat_le.1 (hd.steady (hopen.trans hreach) he)
  rw [Word.toNat_saturatingSub]
  omega

end Device

namespace ManualClock

theorem advance_zero (c : ManualClock) : c.advance 0 = .ok c := by
  have hsum : Word.checkedAdd c.time 0 = some c.time := Word.ofNat?_eq_some_iff.2 rfl
  simp [advance, Word.add, hsum]

end ManualClock

namespace MemoryStore

/-- The store has no latencies, and its clock shows a given time. -/
def Still (clock : ManualClock) (m : MemoryStore) : Prop :=
  m.latency.seek = 0 ∧ m.latency.read = 0 ∧ m.clock = clock

variable {clock : ManualClock} {m : MemoryStore}

theorem Still.seek (h : m.Still clock) (offset : UInt64) :
    ∃ m', m.seek offset = .ok m' ∧ m'.Still clock := by
  obtain ⟨hseek, hread, hclock⟩ := h
  refine ⟨({ m with position := offset } : MemoryStore).record (.seek offset), ?_,
    hseek, hread, hclock⟩
  simp [MemoryStore.seek, advance, hseek, ManualClock.advance_zero]

theorem Still.skim (h : m.Still clock) (wanted : UInt64) :
    ∃ got m', m.skim wanted = .ok (got, m') ∧ m'.Still clock := by
  obtain ⟨hseek, hread, hclock⟩ := h
  refine ⟨m.yield wanted, ({ m with position := m.position + m.yield wanted } : MemoryStore).record
    (.read m.position (m.yield wanted)), ?_, hseek, hread, hclock⟩
  simp [MemoryStore.skim, advance, hread, ManualClock.advance_zero]

end MemoryStore

namespace FaultyStore

/-- The store has no latencies, planned faults aside, and its clock shows a given time. -/
def Still (clock : ManualClock) (f : FaultyStore) : Prop :=
  f.store.Still clock ∧ f.extraReadTimes = #[]

variable {clock : ManualClock} {f : FaultyStore}

theorem Still.seek (h : f.Still clock) (offset : UInt64) :
    (f.seek offset).2.Still clock ∧ ∀ halt, (f.seek offset).1 = .error halt → ¬halt.isAborted := by
  obtain ⟨store, hstore, hstill⟩ := h.1.seek offset
  unfold FaultyStore.seek
  simp only [hstore]
  split
  next => exact ⟨h, nofun⟩
  next => exact ⟨⟨hstill, h.2⟩, nofun⟩

theorem Still.read (h : f.Still clock) (wanted : UInt64) :
    (f.read wanted).2.Still clock ∧ ∀ halt, (f.read wanted).1 = .error halt → ¬halt.isAborted := by
  have hwaited : f.store.advance (f.extraReadTime (f.reads + 1)) = .ok f.store := by
    simp [extraReadTime, h.2, MemoryStore.advance, ManualClock.advance_zero]
  obtain ⟨got, store, hskim, hstill⟩ := h.1.skim wanted
  unfold FaultyStore.read
  simp only [hwaited, hskim]
  split
  next => exact ⟨h, nofun⟩
  next => exact ⟨⟨hstill, h.2⟩, nofun⟩

theorem Still.dropCache (h : f.Still clock) : f.dropCache.2.Still clock := by
  unfold FaultyStore.dropCache
  split
  · exact h
  · simp only
    split <;> exact h

theorem Still.of_reaches (h : f.Still clock) {g : FaultyStore} (hg : Device.Reaches f g) :
    g.Still clock := by
  induction hg with
  | refl => exact h
  | now _ ih => exact ih
  | seek offset _ ih => exact (ih.seek offset).1
  | read length _ ih => exact (ih.read length).1
  | dropCache _ ih => exact ih.dropCache

/-- A store whose clock stands still is dependable, whatever faults are planned. -/
theorem Still.dependable (h : f.Still clock) : Device.Dependable f where
  steady hd he := by
    have hd' := h.of_reaches hd
    have he' := hd'.of_reaches he
    exact UInt64.le_of_eq (congrArg ManualClock.time (hd'.1.2.2.trans he'.1.2.2.symm))
  avoids e he := ⟨fun offset => ((h.of_reaches he).seek offset).2,
    fun length => ((h.of_reaches he).read length).2⟩

end FaultyStore

namespace Session

variable {δ ο : Type} [Device δ] [OffsetSource ο]

omit [OffsetSource ο] in
theorem stable_reaches (d : δ) (p : Pattern) :
    Stable p fun s : Session δ ο => Device.Reaches d s.device where
  drawn h _ := h
  sampled h target := h.trans (Device.reaches_sample target p.schedule.length _)
  noted h target sample := by rwa [noteShort_device]

theorem Reads.reaches {p : Pattern} {limit : UInt64} {start last : Option UInt64}
    {reads : List Read} {s s' : Session δ ο} (h : Reads p limit start last s reads s') :
    Device.Reaches s.device s'.device := (stable_reaches s.device p).reads h .refl

theorem reaches_of_run {p : Pattern} {s s' : Session δ ο}
    {outcome : Except (Halt PatternError) (Array Sample)} (h : s.run p = (outcome, s')) :
    Device.Reaches s.device s'.device := by
  have hrun : Device.Reaches s.device (s.run p).2.device := (stable_reaches s.device p).run .refl
  rwa [h] at hrun

omit [OffsetSource ο] in
theorem reaches_chill (keepCold : Bool) (s : Session δ ο) :
    Device.Reaches s.device (s.chill keepCold).2.device := by
  have hdrop : Device.Reaches s.device (Device.dropCache s.device).2 := .dropCache .refl
  unfold chill
  split
  next =>
    split
    next heq => rwa [heq] at hdrop
    next heq => rwa [heq] at hdrop
  next => exact .refl

def readTime (reads : List Read) : ℕ := Word.exactSum (reads.map (·.sample.nanos))

@[simp] theorem readTime_cons (r : Read) (reads : List Read) :
    readTime (r :: reads) = r.sample.nanos.toNat + readTime reads := by simp [readTime]

/-- The reads of a pattern follow one another on the clock. -/
theorem Reads.notBefore {p : Pattern} {limit : UInt64} {start last : Option UInt64}
    {reads : List Read} {s s' : Session δ ο} (h : Reads p limit start last s reads s')
    (hd : Device.Dependable s.device) {time : ℕ} (ht : Device.NotBefore time s.device) :
    Device.NotBefore (time + readTime reads) s'.device := by
  induction h generalizing time with
  | done => simpa [readTime] using ht
  | @read last target sample source device rest s s' _ hsample _ ih =>
    have hreach := Device.reaches_sample target p.schedule.length s.device
    rw [hsample] at hreach
    have hrest := ih (by rw [noteShort_device]; exact hd.of_reaches hreach)
      (by rw [noteShort_device]; exact ht.sample hd hsample)
    rwa [readTime_cons, ← Nat.add_assoc]

end Session
end ScanLatency
