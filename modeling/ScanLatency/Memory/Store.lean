import ScanLatency.Bytes
import ScanLatency.Memory.Clock

/-! A store in memory that records every operation. Seeks and reads may each advance a clock by a
fixed time, and reads may be capped, so that a test can tell exactly which operations a sample
covered. An operation that would take the clock too far aborts and changes nothing. -/
namespace ScanLatency

inductive Operation
  | seek (offset : UInt64)
  | read (offset length : UInt64)
  | dropCache
  deriving DecidableEq, Repr

/-- The operation in short: a letter, the offset, and for a read the bytes that came back. -/
def Operation.text : Operation → String
  | .seek offset => s!"S{offset}"
  | .read offset length => s!"R{offset}+{length}"
  | .dropCache => "D"

/-- What each operation adds to the clock. -/
structure Latency where
  seek : UInt64 := 0
  read : UInt64 := 0
  deriving DecidableEq, Repr

/-- Bytes with a read position, the operations so far, and a clock. -/
structure MemoryStore where
  data : Bytes
  position : UInt64 := 0
  operations : Array Operation := #[]
  maxRead : Option UInt64 := none
  latency : Latency := {}
  clock : ManualClock := {}

namespace MemoryStore

def ofBytes (data : Bytes) : MemoryStore := { data }

def record (op : Operation) (m : MemoryStore) : MemoryStore :=
  { m with operations := m.operations.push op }

def advance (nanos : UInt64) (m : MemoryStore) : Except Abort MemoryStore :=
  match m.clock.advance nanos with
  | .ok clock => .ok { m with clock }
  | .error abort => .error abort

def seek (offset : UInt64) (m : MemoryStore) : Except Abort MemoryStore :=
  match m.advance m.latency.seek with
  | .ok m => .ok ({ m with position := offset }.record (.seek offset))
  | .error abort => .error abort

/-- How many bytes a read of `wanted` bytes gives: what is left of the data, up to the cap. -/
def yield (wanted : UInt64) (m : MemoryStore) : UInt64 :=
  let left := m.data.available m.position wanted
  match m.maxRead with
  | none => left
  | some cap => min left cap

/-- A read of `wanted` bytes, without their contents. -/
def skim (wanted : UInt64) (m : MemoryStore) : Except Abort (UInt64 × MemoryStore) :=
  match m.advance m.latency.read with
  | .ok m =>
    let length := m.yield wanted
    .ok (length, { m with position := m.position + length }.record (.read m.position length))
  | .error abort => .error abort

/-- A read into a buffer: how many bytes came back, and the buffer with them at its start. -/
def readInto (buffer : Array UInt8) (m : MemoryStore) :
    Except Abort (UInt64 × Array UInt8 × MemoryStore) :=
  match m.skim (UInt64.ofNat buffer.size) with
  | .ok (length, after) => .ok (length, m.data.fill m.position length buffer, after)
  | .error abort => .error abort

/-- A number of bytes under a cap, if there is one. -/
def capped (cap : Option UInt64) (count : Nat) : Nat :=
  match cap with
  | none => count
  | some cap => min count cap.toNat

theorem capped_le (cap : Option UInt64) (count : Nat) : capped cap count ≤ count := by
  cases cap with
  | none => exact Nat.le_refl count
  | some cap => exact Nat.min_le_left count _

theorem toNat_yield (wanted : UInt64) (m : MemoryStore) :
    (m.yield wanted).toNat =
      capped m.maxRead (min wanted.toNat (m.data.size.toNat - m.position.toNat)) := by
  unfold yield capped
  cases m.maxRead with
  | none => exact m.data.toNat_available _ _
  | some cap =>
    dsimp only
    rw [Word.toNat_min, Bytes.toNat_available]

/-- The position does not run over: a read from inside stays inside, and one from beyond the end gives
nothing. -/
theorem toNat_position_add_yield (wanted : UInt64) (m : MemoryStore) :
    (m.position + m.yield wanted).toNat = m.position.toNat + (m.yield wanted).toNat := by
  have hyield := m.toNat_yield wanted
  have hcapped :=
    capped_le m.maxRead (min wanted.toNat (m.data.size.toNat - m.position.toNat))
  have hsize := UInt64.toNat_lt m.data.size
  have hposition := UInt64.toNat_lt m.position
  rw [UInt64.toNat_add]
  exact Nat.mod_eq_of_lt (by omega)

theorem advance_ok {nanos : UInt64} {m m' : MemoryStore} (h : m.advance nanos = .ok m') :
    ∃ clock, m.clock.advance nanos = .ok clock ∧ m' = { m with clock } := by
  unfold advance at h
  split at h
  next clock hclock =>
    cases h
    exact ⟨clock, hclock, rfl⟩
  next => cases h

theorem seek_ok {offset : UInt64} {m m' : MemoryStore} (h : m.seek offset = .ok m') :
    ∃ clock, m.clock.advance m.latency.seek = .ok clock ∧
      m' = ({ m with clock, position := offset } : MemoryStore).record (.seek offset) := by
  unfold seek at h
  split at h
  next m₁ hadvance =>
    obtain ⟨clock, hclock, rfl⟩ := advance_ok hadvance
    cases h
    exact ⟨clock, hclock, rfl⟩
  next => cases h

theorem skim_ok {wanted length : UInt64} {m m' : MemoryStore}
    (h : m.skim wanted = .ok (length, m')) :
    ∃ clock, m.clock.advance m.latency.read = .ok clock ∧ length = m.yield wanted ∧
      m' = ({ m with clock, position := m.position + length } : MemoryStore).record
        (.read m.position length) := by
  unfold skim at h
  split at h
  next m₁ hadvance =>
    obtain ⟨clock, hclock, rfl⟩ := advance_ok hadvance
    cases h
    exact ⟨clock, hclock, rfl, rfl⟩
  next => cases h

def dropCache (m : MemoryStore) : MemoryStore := m.record .dropCache

def seekOffsets (m : MemoryStore) : List UInt64 :=
  m.operations.toList.filterMap fun
    | .seek offset => some offset
    | _ => none

def cacheDrops (m : MemoryStore) : Nat := m.operations.count .dropCache

instance : Device MemoryStore where
  now m := (m.clock.time, m)
  size m := m.data.size
  seek offset m :=
    match m.seek offset with
    | .ok m => (.ok (), m)
    | .error abort => (.error (.aborted abort), m)
  read wanted m :=
    match m.skim wanted with
    | .ok (length, m) => (.ok length, m)
    | .error abort => (.error (.aborted abort), m)
  dropCache m := (.ok (), m.dropCache)

end MemoryStore
end ScanLatency
