import ScanLatency.Offsets.ChaCha
import ScanLatency.Word

/-! Sources of offsets: what a pattern draws its starting points from. A source is asked for an
offset between zero and a maximum, both included. -/
namespace ScanLatency

/-- A state that offsets are drawn from. -/
class OffsetSource (ο : Type) where
  /-- An offset for the given maximum, and the source after the draw. -/
  draw : UInt64 → ο → UInt64 × ο

/-- The contract of a source: no draw exceeds its maximum. -/
class LawfulOffsetSource (ο : Type) [OffsetSource ο] : Prop where
  draw_le (max : UInt64) (source : ο) : (OffsetSource.draw max source).1 ≤ max

/-- A fixed list of offsets, replayed from its start whenever it runs out. An offset above the
maximum is lowered to it; an empty list always gives zero. -/
structure ScriptedOffsets where
  script : Array UInt64
  drawn : Nat := 0

namespace ScriptedOffsets

def draw (max : UInt64) (s : ScriptedOffsets) : UInt64 × ScriptedOffsets :=
  match s.script[s.drawn % s.script.size]? with
  | none => (0, s)
  | some offset => (min offset max, { s with drawn := s.drawn + 1 })

instance : OffsetSource ScriptedOffsets := ⟨draw⟩

end ScriptedOffsets

/-- Random offsets that a seed determines. -/
structure SeededOffsets where
  seed : UInt64
  stream : ChaCha.Stream

namespace SeededOffsets

def ofSeed (seed : UInt64) : SeededOffsets := ⟨seed, .ofSeed seed⟩

/-- The high word of the product of two words. -/
def highProduct (a b : UInt64) : UInt64 := UInt64.ofNat (a.toNat * b.toNat / wordCount)

/-- A word between zero and `max`, uniform up to one part in 2^64: the high word of a random word
times the number of results. When the low word shows that a further digit of the random fraction
could carry, one more word is drawn to decide it. -/
def uniform (max : UInt64) (stream : ChaCha.Stream) : UInt64 × ChaCha.Stream :=
  let range := max + 1
  let (word, stream) := stream.next
  if range = 0 then (word, stream)
  else
    let high := highProduct word range
    let low := word * range
    if low.toNat ≤ wordCount - range.toNat then (high, stream)
    else
      let (further, stream) := stream.next
      let carry := wordCount ≤ low.toNat + (highProduct further range).toNat
      (if carry then high + 1 else high, stream)

def draw (max : UInt64) (s : SeededOffsets) : UInt64 × SeededOffsets :=
  let (offset, stream) := uniform max s.stream
  (offset, { s with stream })

instance : OffsetSource SeededOffsets := ⟨draw⟩

end SeededOffsets
end ScanLatency
