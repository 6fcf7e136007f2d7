import ScanLatency.Proofs.Totals

/-! What becomes of a pattern on a store in memory. Such a store never fails, and its clock moves on
by fixed times, so that everything is decided before the pattern starts: by its span, by the memory
that it asks for, and by whether the clock can show the end of its last read. -/
namespace ScanLatency

namespace MemoryStore

variable {m : MemoryStore} {target : Option UInt64}

theorem read_aborts (length : UInt64) (h : wordCount ≤ Device.time m + m.latency.read.toNat) :
    (Device.read length m).1 = .error (.aborted .additionOverflow) := by
  simp [Device.read, skim, advance, ManualClock.advance_of_le h]

/-- An access aborts if the clock cannot show its end, in its seek or else in its read. -/
theorem access_aborts (length : UInt64)
    (h : wordCount ≤ Device.time m + m.latency.access target) :
    (Device.access target length m).1 = .error (.aborted .additionOverflow) := by
  cases target with
  | none => exact read_aborts length h
  | some offset =>
    unfold Device.access
    by_cases hroom : Device.time m + m.latency.seek.toNat < wordCount
    · obtain ⟨clock, hclock⟩ := ManualClock.advance_of_lt hroom
      have htime := ManualClock.toNat_time_advance hclock
      simp only [Device.seek, seek, advance, hclock]
      apply read_aborts
      show wordCount ≤ clock.time.toNat + m.latency.read.toNat
      rw [htime, Nat.add_assoc]
      exact h
    · simp [Device.seek, seek, advance, ManualClock.advance_of_le (Nat.not_lt.1 hroom)]

theorem sample_aborts (length : UInt64)
    (h : wordCount ≤ Device.time m + m.latency.access target) :
    (Device.sample target length m).1 = .error (.aborted .additionOverflow) := by
  obtain ⟨d, haccess⟩ : ∃ d, Device.access target length (Clock.now m).2 =
      (.error (.aborted .additionOverflow), d) := ⟨_, Prod.ext (access_aborts length h) rfl⟩
  simp only [Device.sample, sampled, haccess]

end MemoryStore

def Pattern.fate (p : Pattern) (m : MemoryStore) : Except (Halt PatternError) Unit :=
  match p.maxStart m.data.size with
  | .error cause => .error (.failed cause)
  | .ok _ =>
    match p.allot p.preparations with
    | .error abort => .error (.aborted abort)
    | .ok () =>
      if m.clock.time.toNat + p.schedule.duration m.latency < wordCount then .ok ()
      else .error (.aborted .additionOverflow)

namespace Session

variable {ο : Type} [OffsetSource ο] [LawfulOffsetSource ο] {p : Pattern} {limit : UInt64}
  {start last : Option UInt64}

/-- The reads that remain abort if the clock cannot show the end of the last of them. -/
theorem readAll_aborts {n : ℕ} (samples : Array Sample) {s : Session MemoryStore ο}
    (hlimit : ∀ k < n, limit.toNat + p.schedule.extent k ≤ s.device.data.size.toNat)
    (hstart : ∀ offset ∈ start, offset ≤ limit)
    (hlast : p.schedule.RoomAfter s.device.data.size.toNat n last)
    (late : wordCount ≤ Device.time s.device + p.schedule.timeLeft s.device.latency last n) :
    (readAll p limit start n last samples s).1 = .error (.aborted .additionOverflow) := by
  induction n generalizing last samples s with
  | zero =>
    rw [Schedule.timeLeft_zero] at late
    exact absurd (UInt64.toNat_lt s.device.clock.time) (Nat.not_lt.2 late)
  | succ n ih =>
    obtain ⟨target, hfound, hplaced⟩ :=
      nextTarget_ok s.source (hlimit n (Nat.lt_succ_self n)) hstart hlast
    obtain ⟨source, htarget⟩ : ∃ source, nextTarget limit p.schedule.later start last s.source =
        (.ok target, source) := ⟨_, Prod.ext hfound rfl⟩
    have hinside : ∀ offset ∈ target, offset ≤ s.device.data.size := by
      intro offset hoffset
      have hroom := hplaced.room offset hoffset
      exact UInt64.le_iff_toNat_le.2 (by omega)
    rw [Schedule.timeLeft_succ htarget] at late
    -- Either the next access ends in time, and the reads after it are late, or it aborts itself.
    by_cases hroom : Device.time s.device + s.device.latency.access target < wordCount
    · obtain ⟨sample, device, hsample, -, hspent⟩ :=
        s.device.costs.sample hinside p.schedule.length hroom
      have htime := hspent.time_eq
      have hdata := MemoryStore.data_of_reaches hspent.reaches
      have hlatency := MemoryStore.latency_of_reaches hspent.reaches
      simp only [readAll, htarget, hsample]
      apply ih
      all_goals simp only [noteShort_device, hdata, hlatency]
      · exact fun k hk => hlimit k (Nat.lt_succ_of_lt hk)
      · exact hplaced.roomAfter
      · omega
    · have habort := MemoryStore.sample_aborts p.schedule.length (Nat.not_lt.1 hroom)
      unfold readAll
      simp only [htarget]
      split
      next heq =>
        rw [heq] at habort
        cases habort
        rfl
      next heq =>
        rw [heq] at habort
        cases habort

/-- A pattern on a store in memory, with or without a cap, ends as its span, its memory and its
clock decide. -/
theorem map_run (p : Pattern) (s : Session MemoryStore ο) :
    (s.run p).1.map (fun _ => ()) = p.fate s.device := by
  have hsize : Device.size s.device = s.device.data.size := rfl
  unfold run Pattern.fate
  rw [hsize]
  cases hlimit : p.maxStart s.device.data.size with
  | error cause => rfl
  | ok limit =>
    dsimp only
    have hallot := map_prepare p limit p.preparations none s.source
    have hroom := Pattern.limit_add_extent_le hlimit
    have hnone := p.schedule.roomAfter_none s.device.data.size.toNat p.schedule.reads
    rcases hprepare : prepare p limit p.preparations none s.source with ⟨abort | start, source⟩
    · rw [hprepare] at hallot
      rw [← hallot]
      rfl
    · rw [hprepare] at hallot
      rw [← hallot]
      have hstart := start_le_of_prepare (by simp) hprepare
      by_cases htime : s.device.clock.time.toNat + p.schedule.duration s.device.latency < wordCount
      · obtain ⟨all, t, hall, -, -⟩ := exists_readAll #[] (s := { s with source })
          s.device.costs hroom hstart hnone htime
        simp [hall, htime, Except.map]
      · have habort := readAll_aborts #[] (s := { s with source }) hroom hstart hnone
          (Nat.not_lt.1 htime)
        simp [habort, htime, Except.map]

variable {s : Session MemoryStore ο}

theorem exists_run_of_fate (h : p.fate s.device = .ok ()) :
    ∃ samples t, s.run p = (.ok samples, t) := by
  rw [← map_run] at h
  rcases hrun : s.run p with ⟨halt | samples, t⟩
  · rw [hrun] at h
    cases h
  · exact ⟨samples, t, rfl⟩

theorem run_halts_of_fate {halt : Halt PatternError} (h : p.fate s.device = .error halt) :
    (s.run p).1 = .error halt := by
  rw [← map_run] at h
  rcases hrun : s.run p with ⟨halt' | samples, t⟩
  · rw [hrun] at h
    exact congrArg Except.error (Except.error.inj h)
  · rw [hrun] at h
    cases h

end Session
end ScanLatency
