/-! A stream of random words: the ChaCha cipher with eight rounds, keyed by a seed. The key is
filled by a permuted congruential generator, the block counter has 64 bits and starts at zero, and
the stream number is zero. A 64-bit word is two words of the cipher, the low one first. -/
namespace ScanLatency.ChaCha

/-- A block of the cipher: sixteen words. -/
abbrev Block := Vector UInt32 16

def rotateLeft (w : UInt32) (k : UInt32) : UInt32 := (w <<< k) ||| (w >>> (32 - k))

/-- The quarter round on four positions of a block. -/
def quarterRound (a b c d : Fin 16) (x : Block) : Block :=
  let x := x.set a (x[a] + x[b])
  let x := x.set d (rotateLeft (x[d] ^^^ x[a]) 16)
  let x := x.set c (x[c] + x[d])
  let x := x.set b (rotateLeft (x[b] ^^^ x[c]) 12)
  let x := x.set a (x[a] + x[b])
  let x := x.set d (rotateLeft (x[d] ^^^ x[a]) 8)
  let x := x.set c (x[c] + x[d])
  x.set b (rotateLeft (x[b] ^^^ x[c]) 7)

/-- A round on the columns and one on the diagonals. -/
def doubleRound (x : Block) : Block :=
  let x := quarterRound 0 4 8 12 x
  let x := quarterRound 1 5 9 13 x
  let x := quarterRound 2 6 10 14 x
  let x := quarterRound 3 7 11 15 x
  let x := quarterRound 0 5 10 15 x
  let x := quarterRound 1 6 11 12 x
  let x := quarterRound 2 7 8 13 x
  quarterRound 3 4 9 14 x

/-- Four constants, the key, the two words of the counter, and the stream number. -/
def initialBlock (key : Vector UInt32 8) (counter : UInt64) : Block :=
  #v[0x61707865, 0x3320646e, 0x79622d32, 0x6b206574,
    key[0], key[1], key[2], key[3], key[4], key[5], key[6], key[7],
    counter.toUInt32, (counter >>> 32).toUInt32, 0, 0]

/-- Eight rounds, added to the block that they started from. -/
def cipherBlock (key : Vector UInt32 8) (counter : UInt64) : Block :=
  let start := initialBlock key counter
  let mixed := doubleRound (doubleRound (doubleRound (doubleRound start)))
  Vector.ofFn fun i => mixed[i] + start[i]

/-- One step of the congruential generator that fills the key. -/
def advanceSeed (state : UInt64) : UInt64 := state * 6364136223846793005 + 11634580027462260723

/-- The word that a state of the generator shows: mixed, then rotated by its own top bits. -/
def seedWord (state : UInt64) : UInt32 :=
  let mixed := (((state >>> 18) ^^^ state) >>> 27).toUInt32
  let turn := (state >>> 59).toUInt32
  (mixed >>> turn) ||| (mixed <<< ((32 - turn) % 32))

def seedState (seed : UInt64) (k : Nat) : UInt64 := Nat.repeat advanceSeed k seed

def keyOfSeed (seed : UInt64) : Vector UInt32 8 :=
  Vector.ofFn fun i => seedWord (seedState seed (i + 1))

/-- A position in the stream of a key: the block at hand and how many of its eight 64-bit words
are used up. -/
structure Stream where
  key : Vector UInt32 8
  counter : UInt64
  block : Block
  used : Fin 8

namespace Stream

def ofSeed (seed : UInt64) : Stream :=
  let key := keyOfSeed seed
  ⟨key, 0, cipherBlock key 0, 0⟩

def next (s : Stream) : UInt64 × Stream :=
  let low := s.block[2 * s.used.val]
  let high := s.block[2 * s.used.val + 1]
  let word := low.toUInt64 ||| (high.toUInt64 <<< 32)
  if s.used = 7 then
    let counter := s.counter + 1
    (word, { s with counter, block := cipherBlock s.key counter, used := 0 })
  else (word, { s with used := s.used + 1 })

end Stream
end ScanLatency.ChaCha
