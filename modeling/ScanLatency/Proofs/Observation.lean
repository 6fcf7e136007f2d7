import ScanLatency.Proofs.Morphism

/-! Runs under observation. A watched device records every call with its outcome, a logged source
every draw. The records change nothing: an observed run is the run itself, and gives the same
report. -/
namespace ScanLatency

/-- A call of a device, with its outcome. -/
inductive DeviceCall
  | seek (offset : UInt64) (outcome : Except (Halt IoError) Unit)
  | read (length : UInt64) (outcome : Except (Halt IoError) UInt64)
  | dropCache (outcome : Except IoError Unit)

def DeviceCall.sought? : DeviceCall → Option UInt64
  | .seek offset _ => some offset
  | _ => none

/-- A device with a record of its calls. -/
structure Watched (δ : Type) where
  device : δ
  calls : Array DeviceCall := #[]

namespace Watched

variable {δ : Type}

def seeks (w : Watched δ) : List UInt64 := w.calls.toList.filterMap (·.sought?)

variable [Device δ]

instance : Device (Watched δ) where
  now w := ((Clock.now w.device).1, { w with device := (Clock.now w.device).2 })
  size w := Device.size w.device
  seek offset w :=
    let (outcome, device) := Device.seek offset w.device
    (outcome, ⟨device, w.calls.push (.seek offset outcome)⟩)
  read length w :=
    let (outcome, device) := Device.read length w.device
    (outcome, ⟨device, w.calls.push (.read length outcome)⟩)
  dropCache w :=
    let (outcome, device) := Device.dropCache w.device
    (outcome, ⟨device, w.calls.push (.dropCache outcome)⟩)

/-- The calls do not depend on the record. -/
theorem morphism : Device.Morphism (device : Watched δ → δ) :=
  ⟨fun _ => rfl, fun _ => rfl, fun _ _ => rfl, fun _ _ => rfl, fun _ => rfl⟩

theorem seeks_now (w : Watched δ) : (Clock.now w).2.seeks = w.seeks := rfl

theorem seeks_seek (offset : UInt64) (w : Watched δ) :
    (Device.seek offset w).2.seeks = w.seeks ++ [offset] := by
  simp [Device.seek, seeks, DeviceCall.sought?]

theorem seeks_read (length : UInt64) (w : Watched δ) :
    (Device.read length w).2.seeks = w.seeks := by
  simp [Device.read, seeks, DeviceCall.sought?]

theorem seeks_dropCache (w : Watched δ) : (Device.dropCache w).2.seeks = w.seeks := by
  simp [Device.dropCache, seeks, DeviceCall.sought?]

/-- An access seeks its target, if it has one, and nothing else. -/
theorem seeks_access (target : Option UInt64) (length : UInt64) (w : Watched δ) :
    (Device.access target length w).2.seeks = w.seeks ++ target.toList := by
  unfold Device.access
  split
  next => simpa using seeks_read length w
  next offset =>
    have hseek := seeks_seek offset w
    split
    next heq => rwa [heq] at hseek
    next e heq =>
      rw [heq] at hseek
      rw [seeks_read, hseek]
      rfl

theorem seeks_sample (target : Option UInt64) (length : UInt64) (w : Watched δ) :
    (Device.sample target length w).2.seeks = w.seeks ++ target.toList := by
  have haccess := seeks_access target length (Clock.now w).2
  rw [seeks_now] at haccess
  unfold Device.sample sampled
  simp only
  split
  all_goals
    next heq =>
      rw [heq] at haccess
      exact haccess

end Watched

/-- A draw from a source: the maximum that it was asked for, and its offset. -/
structure Draw where
  max : UInt64
  offset : UInt64
  deriving DecidableEq, Repr

/-- A source with a record of its draws. -/
structure Logged (ο : Type) where
  source : ο
  draws : Array Draw := #[]

namespace Logged

variable {ο : Type} [OffsetSource ο]

instance : OffsetSource (Logged ο) where
  draw max l :=
    let (offset, source) := OffsetSource.draw max l.source
    (offset, ⟨source, l.draws.push ⟨max, offset⟩⟩)

/-- The draws do not depend on the record. -/
theorem morphism : OffsetSource.Morphism (source : Logged ο → ο) := ⟨fun _ _ => rfl⟩

end Logged

namespace Session

variable {δ ο : Type}

/-- The session under observation from now on. -/
def observed (s : Session δ ο) : Session (Watched δ) (Logged ο) :=
  ⟨⟨s.device, #[]⟩, ⟨s.source, #[]⟩, s.journal⟩

/-- The session without its records. -/
def plain (s : Session (Watched δ) (Logged ο)) : Session δ ο := s.map (·.device) (·.source)

theorem plain_observed (s : Session δ ο) : s.observed.plain = s := rfl

end Session

/-- An observed run is the run, and its report is the report. -/
theorem Settings.run_plain {δ ο : Type} [Device δ] [OffsetSource ο] (c : Settings)
    (s : Session (Watched δ) (Logged ο)) :
    c.run s.plain = (c.run s).map (Prod.map id Session.plain) :=
  run_map Watched.morphism Logged.morphism c s

/-- A run that returns does so under observation too, with the same report. -/
theorem Settings.observed_of_run {δ ο : Type} [Device δ] [OffsetSource ο] {c : Settings}
    {s s' : Session δ ο} {report : RunReport} (h : c.run s = .ok (report, s')) :
    ∃ w, c.run s.observed = .ok (report, w) ∧ w.plain = s' := by
  rw [← s.plain_observed, run_plain] at h
  cases hrun : c.run s.observed with
  | error abort =>
    rw [hrun] at h
    cases h
  | ok outcome =>
    rw [hrun] at h
    cases h
    exact ⟨outcome.2, rfl, rfl⟩

end ScanLatency
