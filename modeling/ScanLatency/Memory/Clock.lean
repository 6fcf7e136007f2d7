import ScanLatency.Device

/-! A clock that stands still until its user moves it. It cannot be moved beyond the times that a
word can show, in either direction. -/
namespace ScanLatency

/-- A clock with the time it shows, in nanoseconds. -/
structure ManualClock where
  time : UInt64 := 0
  deriving DecidableEq, Repr

namespace ManualClock

def advance (nanos : UInt64) (c : ManualClock) : Except Abort ManualClock :=
  match Word.add c.time nanos with
  | .ok time => .ok ⟨time⟩
  | .error abort => .error abort

def rewind (nanos : UInt64) (c : ManualClock) : Except Abort ManualClock :=
  match Word.sub c.time nanos with
  | .ok time => .ok ⟨time⟩
  | .error abort => .error abort

instance : Clock ManualClock := ⟨fun c => (c.time, c)⟩

theorem toNat_time_advance {nanos : UInt64} {c d : ManualClock} (h : c.advance nanos = .ok d) :
    d.time.toNat = c.time.toNat + nanos.toNat := by
  unfold advance at h
  split at h
  next time ht =>
    cases h
    exact Word.toNat_add ht
  next => cases h

theorem advance_of_lt {nanos : UInt64} {c : ManualClock}
    (h : c.time.toNat + nanos.toNat < wordCount) : ∃ d, c.advance nanos = .ok d := by
  unfold advance Word.add
  cases hsum : Word.checkedAdd c.time nanos with
  | none => exact absurd h (Nat.not_lt.2 ((Word.ofNat?_eq_none_iff _).1 hsum))
  | some total => exact ⟨⟨total⟩, rfl⟩

theorem advance_of_le {nanos : UInt64} {c : ManualClock}
    (h : wordCount ≤ c.time.toNat + nanos.toNat) : c.advance nanos = .error .additionOverflow := by
  have hsum : Word.checkedAdd c.time nanos = none := (Word.ofNat?_eq_none_iff _).2 h
  simp [advance, Word.add, hsum]

example : (ManualClock.mk 5).rewind 6 = .error .subtractionOverflow := by rfl

end ManualClock
end ScanLatency
