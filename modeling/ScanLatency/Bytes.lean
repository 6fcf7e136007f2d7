import ScanLatency.Word

/-! A finite run of bytes, given by its length and its byte at each position. Contents are never
laid out in memory unless they come from there, so that a file can be as large as a word counts. -/
namespace ScanLatency

/-- `size` bytes; what `get` says beyond them means nothing. -/
structure Bytes where
  size : UInt64
  get : Nat → UInt8

namespace Bytes

def empty : Bytes := ⟨0, fun _ => 0⟩

def ofArray (bytes : ByteArray) : Bytes :=
  ⟨UInt64.ofNat bytes.size, fun i => if h : i < bytes.size then bytes[i] else 0⟩

/-- A block of bytes repeated up to a size. -/
def tiled (block : ByteArray) (size : UInt64) : Bytes :=
  ⟨size, fun i => (ofArray block).get (i % block.size)⟩

/-- The sequence 0, 1, …, 250, 0, 1, … of a size. -/
def counting (size : UInt64) : Bytes := ⟨size, fun i => UInt8.ofNat (i % 251)⟩

/-- The first `count` bytes, or all if there are fewer. -/
def take (b : Bytes) (count : UInt64) : Bytes := ⟨min count b.size, b.get⟩

def toArray (b : Bytes) : ByteArray :=
  ⟨Array.ofFn fun i : Fin b.size.toNat => b.get i⟩

/-- How many of `wanted` bytes are there from a position on. -/
def available (b : Bytes) (position wanted : UInt64) : UInt64 :=
  if position < b.size then min wanted (b.size - position) else 0

/-- A buffer with its first `count` bytes replaced by those from a position on. -/
def fill (b : Bytes) (position count : UInt64) (buffer : Array UInt8) : Array UInt8 :=
  Array.ofFn fun i : Fin buffer.size =>
    if i.val < count.toNat then b.get (position.toNat + i) else buffer[i]

@[simp] theorem size_fill (b : Bytes) (position count : UInt64) (buffer : Array UInt8) :
    (b.fill position count buffer).size = buffer.size := by simp [fill]

theorem getElem?_fill (b : Bytes) (position count : UInt64) (buffer : Array UInt8) (i : Nat) :
    (b.fill position count buffer)[i]? =
      if i < buffer.size ∧ i < count.toNat then some (b.get (position.toNat + i)) else buffer[i]? := by
  unfold fill
  rw [Array.getElem?_ofFn]
  by_cases hi : i < buffer.size
  · by_cases hcount : i < count.toNat <;> simp [hi, hcount]
  · simp [hi]

theorem take_eq_self_iff {b : Bytes} {count : UInt64} : b.take count = b ↔ b.size ≤ count := by
  have hmin : min count b.size = b.size ↔ b.size ≤ count := by
    rw [← UInt64.toNat_inj, Word.toNat_min, UInt64.le_iff_toNat_le]
    omega
  rw [← hmin]
  exact ⟨congrArg size, fun h => congrArg (Bytes.mk · b.get) h⟩

theorem toNat_available (b : Bytes) (position wanted : UInt64) :
    (b.available position wanted).toNat = min wanted.toNat (b.size.toNat - position.toNat) := by
  unfold available
  split
  next h => rw [Word.toNat_min, UInt64.toNat_sub_of_le _ _ (UInt64.le_of_lt h)]
  next h =>
    have hle := UInt64.le_iff_toNat_le.1 (UInt64.not_lt.1 h)
    rw [UInt64.toNat_zero]
    omega

/-- A read that ends inside gives all that it wanted. -/
theorem available_eq_wanted (b : Bytes) {position wanted : UInt64}
    (h : position.toNat + wanted.toNat ≤ b.size.toNat) : b.available position wanted = wanted := by
  apply UInt64.toNat_inj.1
  rw [toNat_available]
  omega

end Bytes
end ScanLatency
