import ScanLatency.Proofs.Answered
import ScanLatency.Proofs.Conservation

/-! Which sample a call is charged to. Each sample lasts as long as its own seek, if it has one, and
its own read, to the nanosecond, however long each single call takes. -/
namespace ScanLatency

namespace Device

variable {δ : Type} [Device δ]

/-- Seeks and reads take times that depend on their numbers, counted from zero; looking at the clock
takes none. -/
structure Timed (seekTime readTime : ℕ → ℕ) (d : δ) : Prop where
  now {i j e} (h : Answered d i j e) : time (Clock.now e).2 = time e
  seek {i j e e'} {offset : UInt64} (h : Answered d i j e)
    (sought : Device.seek offset e = (.ok (), e')) : time e' = time e + seekTime i
  read {i j e e'} {length got : UInt64} (h : Answered d i j e)
    (fetched : Device.read length e = (.ok got, e')) : time e' = time e + readTime j

namespace Timed

variable {seekTime readTime : ℕ → ℕ} {d e : δ}

theorem of_answered (ht : Timed seekTime readTime d) {i j : ℕ} (h : Answered d i j e) :
    Timed (fun k => seekTime (i + k)) (fun k => readTime (j + k)) e where
  now he := ht.now (h.trans he)
  seek he := ht.seek (h.trans he)
  read he := ht.read (h.trans he)

/-- An access takes the time of the next seek, if it has a target, and of the next read. -/
theorem access (ht : Timed seekTime readTime d) {target : Option UInt64} {length got : UInt64}
    (h : Device.access target length d = (.ok got, e)) :
    time e = time d + ((if target.isSome then seekTime 0 else 0) + readTime 0) := by
  cases target with
  | none =>
    rw [ht.read .refl h]
    exact congrArg (time d + ·) (Nat.zero_add _).symm
  | some offset =>
    obtain ⟨mid, hseek, hread⟩ := access_some_ok h
    rw [ht.read (.seek .refl hseek) hread, ht.seek .refl hseek, Nat.add_assoc]
    rfl

theorem sample (ht : Timed seekTime readTime d) {target : Option UInt64} {length : UInt64}
    {sample : Sample} (h : Device.sample target length d = (.ok sample, e)) :
    sample.nanos.toNat = (if target.isSome then seekTime 0 else 0) + readTime 0 := by
  obtain ⟨got, t, haccess, -, rfl⟩ := sampled_ok h
  have hopen : Answered d 0 0 (Clock.now d).2 := .now .refl
  have hspent := (ht.of_answered hopen).access haccess
  simp only [Nat.zero_add, ht.now .refl] at hspent
  have hnanos : (Word.saturatingSub (Clock.now t).1 (Clock.now d).1).toNat = time t - time d :=
    Word.toNat_saturatingSub _ _
  show (Word.saturatingSub (Clock.now t).1 (Clock.now d).1).toNat = _
  omega

end Timed
end Device

namespace Session

variable {δ ο : Type} [Device δ] [OffsetSource ο] {p : Pattern} {limit : UInt64}
  {start last : Option UInt64} {s t : Session δ ο}

omit [Device δ] in
/-- The reads that have a target: all of them, but for the reads in place after a first one. -/
theorem isSome_target {later : Placement} {target : Option UInt64} {source source' : ο}
    (h : nextTarget limit later start last source = (.ok target, source')) :
    target.isSome ↔ later ≠ .contiguous ∨ last = none := by
  cases last with
  | none =>
    cases start <;> cases h <;> simp
  | some offset =>
    cases later with
    | redrawn =>
      cases h
      simp
    | contiguous =>
      cases h
      simp
    | spaced stride =>
      obtain ⟨sum, -, rfl⟩ := map_eq_ok_iff.1 (congrArg Prod.fst h)
      simp

/-- Each read is charged for its own calls and no others. -/
theorem Reads.charged {reads : List Read} (h : Reads p limit start last s reads t)
    {seekTime readTime : ℕ → ℕ} (ht : Device.Timed seekTime readTime s.device) (k : ℕ)
    (hk : k < reads.length) : reads[k].sample.nanos.toNat =
      (if p.schedule.later ≠ .contiguous ∨ (last = none ∧ k = 0) then seekTime k else 0) +
        readTime k := by
  induction h generalizing seekTime readTime k with
  | done => cases hk
  | @read last target sample source device rest s _ targeted sampled _ ih =>
    have htarget := isSome_target targeted
    cases k with
    | zero =>
      rw [List.getElem_cons_zero, ht.sample sampled]
      simp only [and_true, ← htarget]
    | succ k =>
      have hafter : Device.Timed (fun k => seekTime (target.toList.length + k))
          (fun k => readTime (1 + k))
          (noteShort p target sample { s with device, source }).device := by
        rw [noteShort_device]
        exact ht.of_answered (.sample sampled)
      have hrest := ih hafter k (Nat.lt_of_succ_lt_succ hk)
      rw [List.getElem_cons_succ, hrest, Nat.add_comm 1 k]
      congr 1
      by_cases hlater : p.schedule.later = .contiguous
      · have hsought : target.or last ≠ none := by
          cases target with
          | none => exact fun hnone => absurd (htarget.2 (.inr hnone)) (by simp)
          | some offset => nofun
        simp [hlater, hsought]
      · obtain ⟨offset, rfl⟩ := Option.isSome_iff_exists.1 (htarget.2 (.inl hlater))
        rw [if_pos (.inl hlater), if_pos (.inl hlater)]
        exact congrArg seekTime (Nat.add_comm 1 k)

/-- A pattern that completes has charged the seek and the read with one number to the sample with
that number. Reads in place, after a first one, have no seek. -/
theorem charged_of_run {samples : Array Sample} {s s' : Session δ ο} {seekTime readTime : ℕ → ℕ}
    (ht : Device.Timed seekTime readTime s.device) (h : s.run p = (.ok samples, s')) (i : ℕ)
    (hi : i < samples.size) : samples[i].nanos.toNat =
      (if i = 0 ∨ p.schedule.later ≠ .contiguous then seekTime i else 0) + readTime i := by
  obtain ⟨_, _, _, reads, _, _, hreads, _, hall⟩ := reads_of_run h
  have hlength : samples.size = reads.length := by
    rw [← Array.length_toList, hall, List.length_map]
  have hsample : samples[i] = reads[i].sample := by
    simp only [← Array.getElem_toList, hall, List.getElem_map]
  rw [hsample, hreads.charged ht i (hlength ▸ hi)]
  simp only [true_and, or_comm]

end Session

/-- A store in memory whose every seek and every read takes a time of its own. -/
structure PacedStore where
  store : MemoryStore
  seekTimes : ℕ → UInt64
  readTimes : ℕ → UInt64
  seeks : ℕ := 0
  reads : ℕ := 0

namespace PacedStore

/-- The store as it is for the next seek and the next read. -/
def due (f : PacedStore) : MemoryStore :=
  { f.store with latency := ⟨f.seekTimes f.seeks, f.readTimes f.reads⟩ }

instance : Device PacedStore where
  now f := (f.store.clock.time, f)
  size f := f.store.data.size
  seek offset f :=
    match f.due.seek offset with
    | .ok store => (.ok (), { f with store, seeks := f.seeks + 1 })
    | .error abort => (.error (.aborted abort), f)
  read wanted f :=
    match f.due.skim wanted with
    | .ok (length, store) => (.ok length, { f with store, reads := f.reads + 1 })
    | .error abort => (.error (.aborted abort), f)
  dropCache f := (.ok (), { f with store := f.store.dropCache })

variable {f e e' : PacedStore} {i j : ℕ}

theorem seek_ok {offset : UInt64} (h : Device.seek offset e = (.ok (), e')) :
    Device.time e' = Device.time e + (e.seekTimes e.seeks).toNat ∧
      ∃ store, e' = { e with store, seeks := e.seeks + 1 } := by
  simp only [Device.seek] at h
  split at h
  next heq =>
    obtain ⟨_, hclock, rfl⟩ := MemoryStore.seek_ok heq
    cases h
    exact ⟨ManualClock.toNat_time_advance hclock, _, rfl⟩
  next => cases h

theorem read_ok {length got : UInt64} (h : Device.read length e = (.ok got, e')) :
    Device.time e' = Device.time e + (e.readTimes e.reads).toNat ∧
      ∃ store, e' = { e with store, reads := e.reads + 1 } := by
  simp only [Device.read] at h
  split at h
  next heq =>
    obtain ⟨_, hclock, _, rfl⟩ := MemoryStore.skim_ok heq
    cases h
    exact ⟨ManualClock.toNat_time_advance hclock, _, rfl⟩
  next => cases h

/-- Calls that succeed are counted and change no time that is still to come. -/
theorem counted (h : Device.Answered f i j e) :
    e.seekTimes = f.seekTimes ∧ e.readTimes = f.readTimes ∧ e.seeks = f.seeks + i ∧
      e.reads = f.reads + j := by
  induction h with
  | refl => exact ⟨rfl, rfl, rfl, rfl⟩
  | now _ ih => exact ih
  | seek _ sought ih =>
    obtain ⟨hseeks, hreads, hsought, hread⟩ := ih
    obtain ⟨_, _, rfl⟩ := seek_ok sought
    exact ⟨hseeks, hreads, congrArg (· + 1) hsought, hread⟩
  | read _ fetched ih =>
    obtain ⟨hseeks, hreads, hsought, hread⟩ := ih
    obtain ⟨_, _, rfl⟩ := read_ok fetched
    exact ⟨hseeks, hreads, hsought, congrArg (· + 1) hread⟩

theorem timed (f : PacedStore) : Device.Timed (fun k => (f.seekTimes (f.seeks + k)).toNat)
    (fun k => (f.readTimes (f.reads + k)).toNat) f where
  now _ := rfl
  seek h sought := by
    obtain ⟨hseeks, -, hsought, -⟩ := counted h
    rw [(seek_ok sought).1, hseeks, hsought]
  read h fetched := by
    obtain ⟨-, hreads, -, hread⟩ := counted h
    rw [(read_ok fetched).1, hreads, hread]

end PacedStore

end ScanLatency
