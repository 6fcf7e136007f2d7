import ScanLatency.IoError
import ScanLatency.Word

/-! What a benchmark acts on: a clock, and a store of bytes of fixed size with a read position.
Each call of a device is one operation on the underlying store; it may fail, it may take time, and
it may take more time than the clock can show, which is an abort. The state that a call leaves
behind is there in every case. A sample is the cost of exactly one such access, between two readings of the clock. -/
namespace ScanLatency

/-- What ends an operation before it has a result: a failure, which is reported to whoever asked
for the operation, or an abort, which nobody handles. -/
inductive Halt (ε : Type)
  | failed (cause : ε)
  | aborted (abort : Abort)
  deriving DecidableEq, Repr

def Halt.isAborted {ε : Type} : Halt ε → Bool
  | .failed _ => false
  | .aborted _ => true

/-- The same halt with its cause restated. -/
def Halt.restate {ε ε' : Type} (f : ε → ε') : Halt ε → Halt ε'
  | .failed cause => .failed (f cause)
  | .aborted abort => .aborted abort

/-- A state that the time can be read from. Reading it may itself take time. -/
class Clock (σ : Type) where
  /-- Nanoseconds since an arbitrary start. -/
  now : σ → UInt64 × σ

/-- Blocking seek and read on a store of fixed size. -/
class Device (δ : Type) extends Clock δ where
  /-- Size of the store in bytes. -/
  size : δ → UInt64
  /-- Moves the read position to an offset from the start. -/
  seek : UInt64 → δ → Except (Halt IoError) Unit × δ
  /-- Reads up to the given number of bytes from the position and moves it on; answers how many
  bytes came back. -/
  read : UInt64 → δ → Except (Halt IoError) UInt64 × δ
  /-- Evicts what earlier reads left in memory. -/
  dropCache : δ → Except IoError Unit × δ

/-- The cost and yield of one access. -/
structure Sample where
  nanos : UInt64
  bytesRead : UInt64
  shortRead : Bool
  deriving DecidableEq, Repr

/-- Runs an operation between two readings of the clock. A clock that ran backwards counts as no
time at all, and a failed operation gives no sample. After an abort the clock is not read again. -/
def sampled {σ : Type} [Clock σ] (wanted : UInt64)
    (operation : σ → Except (Halt IoError) UInt64 × σ) (s : σ) :
    Except (Halt IoError) Sample × σ :=
  let (start, s) := Clock.now s
  match operation s with
  | (.error (.aborted abort), s) => (.error (.aborted abort), s)
  | (.error (.failed cause), s) => (.error (.failed cause), (Clock.now s).2)
  | (.ok got, s) =>
    let (finish, s) := Clock.now s
    (.ok ⟨Word.saturatingSub finish start, got, got < wanted⟩, s)

/-- A sample comes from an operation that gave something, and the two readings around it. -/
theorem sampled_ok {σ : Type} [Clock σ] {wanted : UInt64}
    {operation : σ → Except (Halt IoError) UInt64 × σ} {s s' : σ} {sample : Sample}
    (h : sampled wanted operation s = (.ok sample, s')) :
    ∃ got t, operation (Clock.now s).2 = (.ok got, t) ∧ s' = (Clock.now t).2 ∧
      sample = ⟨Word.saturatingSub (Clock.now t).1 (Clock.now s).1, got, got < wanted⟩ := by
  unfold sampled at h
  simp only at h
  split at h
  next => cases h
  next => cases h
  next got t hop =>
    cases h
    exact ⟨got, t, hop, rfl, rfl⟩

namespace Device

variable {δ : Type} [Device δ]

/-- One access: a seek if there is a target, then one read. A seek that halts leaves the read
out. -/
def access (target : Option UInt64) (length : UInt64) (d : δ) :
    Except (Halt IoError) UInt64 × δ :=
  match target with
  | none => read length d
  | some offset =>
    match seek offset d with
    | (.error halt, d) => (.error halt, d)
    | (.ok (), d) => read length d

/-- An access with a target gives something only after its seek. -/
theorem access_some_ok {offset length got : UInt64} {d d' : δ}
    (h : access (some offset) length d = (.ok got, d')) :
    ∃ e, seek offset d = (.ok (), e) ∧ read length e = (.ok got, d') := by
  unfold access at h
  simp only at h
  split at h
  next => cases h
  next e hseek => exact ⟨e, hseek, h⟩

/-- One timed access. -/
def sample (target : Option UInt64) (length : UInt64) (d : δ) :
    Except (Halt IoError) Sample × δ :=
  sampled length (access target length) d

end Device
end ScanLatency
