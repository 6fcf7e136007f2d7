import ScanLatency.Memory.Store
import ScanLatency.Proofs.OffsetRange
import ScanLatency.Proofs.Room

/-! A completed pattern never leaves the file. On a memory store without a cap every seek leaves
room for the read after it, every read gives all that it asked for, and no sample is short. -/
namespace ScanLatency

/-- The operation is one of a read of `length` bytes that lies inside `size` bytes. -/
def Operation.Inside (size length : UInt64) : Operation → Prop
  | .seek offset => offset.toNat + length.toNat ≤ size.toNat
  | .read offset got => got = length ∧ offset.toNat + length.toNat ≤ size.toNat
  | .dropCache => False

namespace MemoryStore

theorem yield_eq_wanted {m : MemoryStore} {wanted : UInt64} (hcap : m.maxRead = none)
    (h : m.position.toNat + wanted.toNat ≤ m.data.size.toNat) : m.yield wanted = wanted := by
  simp only [yield, hcap]
  exact m.data.available_eq_wanted h

/-- The store after an access: it has recorded what an access from `offset` does, moved behind it,
and changed nothing else but its clock. -/
def Accessed (target : Option UInt64) (offset length : UInt64) (m m' : MemoryStore) : Prop :=
  m'.data = m.data ∧ m'.maxRead = m.maxRead ∧ m'.position = offset + length ∧
    m'.operations.toList = m.operations.toList ++
      (target.map Operation.seek).toList ++ [.read offset length]

theorem read_inside {length got : UInt64} {m m' : MemoryStore}
    (h : Device.read length m = (.ok got, m')) (hcap : m.maxRead = none)
    (hinside : m.position.toNat + length.toNat ≤ m.data.size.toNat) :
    got = length ∧ Accessed none m.position length m m' := by
  simp only [Device.read] at h
  split at h
  next n m₁ hskim =>
    cases h
    obtain ⟨clock, -, rfl, rfl⟩ := skim_ok hskim
    have hyield := yield_eq_wanted hcap hinside
    refine ⟨hyield, rfl, rfl, congrArg (m.position + ·) hyield, ?_⟩
    simp [record, hyield]
  next => cases h

/-- An access that ends inside the data of a store without a cap is complete. -/
theorem access_inside {target : Option UInt64} {length got : UInt64} {m m' : MemoryStore}
    (h : Device.access target length m = (.ok got, m')) (hcap : m.maxRead = none)
    (hinside : (target.getD m.position).toNat + length.toNat ≤ m.data.size.toNat) :
    got = length ∧ Accessed target (target.getD m.position) length m m' := by
  cases target with
  | none => exact read_inside h hcap hinside
  | some offset =>
    obtain ⟨e, hseek, hread⟩ := Device.access_some_ok h
    simp only [Device.seek] at hseek
    split at hseek
    next m₁ hsought =>
      cases hseek
      obtain ⟨clock, -, rfl⟩ := seek_ok hsought
      obtain ⟨hgot, hdata, hmax, hposition, hops⟩ := read_inside hread hcap hinside
      refine ⟨hgot, hdata, hmax, hposition, ?_⟩
      simpa [record] using hops
    next => cases hseek

theorem sample_inside {target : Option UInt64} {length : UInt64} {sample : Sample}
    {m m' : MemoryStore} (h : Device.sample target length m = (.ok sample, m'))
    (hcap : m.maxRead = none)
    (hinside : (target.getD m.position).toNat + length.toNat ≤ m.data.size.toNat) :
    sample.bytesRead = length ∧ sample.shortRead = false ∧
      Accessed target (target.getD m.position) length m m' := by
  obtain ⟨got, t, haccess, rfl, rfl⟩ := sampled_ok h
  obtain ⟨rfl, haccessed⟩ := access_inside haccess hcap hinside
  exact ⟨rfl, by simp, haccessed⟩

/-- A store without a cap with `n` reads of a schedule to come: wherever the next one starts, all of
them fit. For reads in place the position carries the room, for all others the offset sought
last. -/
structure Ready (sch : Schedule) (size : UInt64) (n : ℕ) (last : Option UInt64) (m : MemoryStore) :
    Prop where
  uncapped : m.maxRead = none
  size_eq : m.data.size = size
  room : sch.RoomAfter size.toNat n last
  place : last ≠ none → sch.later = .contiguous →
    m.position.toNat + n * sch.length.toNat ≤ size.toNat

namespace Ready

variable {sch : Schedule} {size : UInt64} {n : ℕ} {last target : Option UInt64} {m m' : MemoryStore}

/-- The next read, and the reads in place after it, fit from where it starts. -/
theorem fits (h : Ready sch size (n + 1) last m) (hplaced : sch.Placed size.toNat n last target) :
    (target.getD m.position).toNat + sch.length.toNat ≤ size.toNat ∧
      (sch.later = .contiguous →
        (target.getD m.position).toNat + (n + 1) * sch.length.toNat ≤ size.toNat) := by
  cases target with
  | some offset =>
    have hoffset := hplaced.room offset rfl
    refine ⟨le_trans (Nat.add_le_add_left (sch.length_le_extent n) _) hoffset, ?_⟩
    intro hlater
    simpa [Schedule.extent, hlater] using hoffset
  | none =>
    obtain ⟨hsome, hlater⟩ := hplaced.inPlace rfl
    have hposition := h.place hsome hlater
    refine ⟨le_trans (Nat.add_le_add_left ?_ _) hposition, fun _ => hposition⟩
    exact Nat.le_mul_of_pos_left _ (Nat.succ_pos n)

/-- One read stays inside, is complete, and leaves the store ready for the others. -/
theorem sample (h : Ready sch size (n + 1) last m) (hplaced : sch.Placed size.toNat n last target)
    {sample : Sample} (hsample : Device.sample target sch.length m = (.ok sample, m')) :
    (sample.bytesRead = sch.length ∧ sample.shortRead = false) ∧
      Ready sch size n (target.or last) m' ∧
      ∃ ops, m'.operations.toList = m.operations.toList ++ ops ∧
        ∀ op ∈ ops, op.Inside size sch.length := by
  obtain ⟨hread, hrest⟩ := h.fits hplaced
  obtain ⟨hbytes, hshort, hdata, hmax, hposition, hops⟩ :=
    sample_inside hsample h.uncapped (h.size_eq ▸ hread)
  refine ⟨⟨hbytes, hshort⟩, ?_, ?_⟩
  · refine ⟨by rw [hmax, h.uncapped], by rw [hdata, h.size_eq], hplaced.roomAfter, ?_⟩
    intro _ hlater
    have hnext := hrest hlater
    have hsize := UInt64.toNat_lt size
    rw [Nat.succ_mul] at hnext
    rw [hposition, UInt64.toNat_add, Nat.mod_eq_of_lt (by omega)]
    omega
  · refine ⟨(target.map Operation.seek).toList ++ [.read (target.getD m.position) sch.length],
      by rw [hops, List.append_assoc], ?_⟩
    intro op hop
    rcases List.mem_append.1 hop with hseek | hop
    · cases target with
      | none => cases hseek
      | some offset =>
        rw [List.mem_singleton.1 hseek]
        exact hread
    · rw [List.mem_singleton.1 hop]
      exact ⟨rfl, hread⟩

end Ready
end MemoryStore

namespace Session

variable {ο : Type} [OffsetSource ο] [LawfulOffsetSource ο]

/-- The loop over the reads. -/
theorem reads_inside {p : Pattern} {limit : UInt64} {start last : Option UInt64} (size : UInt64)
    {reads : List Read} {s s' : Session MemoryStore ο} (h : Reads p limit start last s reads s')
    (hlimit : ∀ n, n + 1 ≤ reads.length → limit.toNat + p.schedule.extent n ≤ size.toNat)
    (hstart : ∀ offset ∈ start, offset ≤ limit)
    (hready : s.device.Ready p.schedule size reads.length last) :
    (∃ ops, s'.device.operations.toList = s.device.operations.toList ++ ops ∧
      ∀ op ∈ ops, op.Inside size p.schedule.length) ∧
    ∀ r ∈ reads, r.sample.bytesRead = p.schedule.length ∧ r.sample.shortRead = false := by
  induction h with
  | done => exact ⟨⟨[], by simp, List.forall_mem_nil _⟩, List.forall_mem_nil _⟩
  | @read last target sample source device rest s s' htarget hsample tail ih =>
    obtain ⟨target', htarget', hplaced⟩ :=
      nextTarget_ok s.source (hlimit _ (le_refl _)) hstart hready.room
    rw [htarget] at htarget'
    cases htarget'
    obtain ⟨hread, hrest, ops, hops, hinside⟩ := hready.sample hplaced hsample
    rw [noteShort_device] at ih
    obtain ⟨⟨ops', hops', hinside'⟩, hsamples⟩ :=
      ih (fun n hn => hlimit n (Nat.le_succ_of_le hn)) hrest
    refine ⟨⟨ops ++ ops', by rw [hops', hops, List.append_assoc], ?_⟩, ?_⟩
    · exact List.forall_mem_append.2 ⟨hinside, hinside'⟩
    · exact List.forall_mem_cons.2 ⟨hread, hsamples⟩

/-- A pattern that completes on a memory store without a cap, in whatever state store and source
are, has sought and read only inside the file, and no sample is short. -/
theorem completed_run_inside (p : Pattern) (s : Session MemoryStore ο)
    (hcap : s.device.maxRead = none) {samples : Array Sample} {s' : Session MemoryStore ο}
    (h : s.run p = (.ok samples, s')) :
    (∃ ops, s'.device.operations.toList = s.device.operations.toList ++ ops ∧
      ∀ op ∈ ops, op.Inside s.device.data.size p.schedule.length) ∧
    ∀ sample ∈ samples, sample.bytesRead = p.schedule.length ∧ sample.shortRead = false := by
  obtain ⟨limit, start, source, reads, hlimit, hprepare, hreads, hlength, hall⟩ := reads_of_run h
  have hroom := Pattern.limit_add_extent_le hlimit
  rw [← hlength] at hroom
  have hready : s.device.Ready p.schedule s.device.data.size reads.length none :=
    ⟨hcap, rfl, p.schedule.roomAfter_none _ _, fun hnone => absurd rfl hnone⟩
  obtain ⟨hops, hsamples⟩ := reads_inside s.device.data.size hreads hroom
    (start_le_of_prepare (by simp) hprepare) hready
  refine ⟨hops, ?_⟩
  intro sample hsample
  rw [← Array.mem_toList_iff, hall] at hsample
  obtain ⟨r, hr, rfl⟩ := List.mem_map.1 hsample
  exact hsamples r hr

/-- The stride scan that ends with the last byte of the file. -/
theorem completed_run_inside_last_start :
    let p : Pattern := .strideSeeks 3 100 10
    let s : Session MemoryStore ScriptedOffsets := ⟨.ofBytes (.counting 1000), ⟨#[999], 0⟩, #[]⟩
    s.device.maxRead = none ∧ (s.run p).1 = .ok (Array.replicate 4 ⟨0, 10, false⟩) ∧
      ∃ ops, (s.run p).2.device.operations.toList = s.device.operations.toList ++ ops ∧
        ∀ op ∈ ops, op.Inside 1000 10 := by
  intro p s
  have hrun : (s.run p).1 = .ok (Array.replicate 4 ⟨0, 10, false⟩) := by decide +kernel
  exact ⟨rfl, hrun, (completed_run_inside p s rfl (Prod.ext hrun rfl)).1⟩

end Session
end ScanLatency
