import ScanLatency.Number.Rounding

/-! Binary floating point numbers of 64 bits, as exact values. A number that is not NaN is a sign
and a magnitude; a magnitude is its position on the grid of all of them, from 0 at zero up to the
position of infinity. Positions are the bit patterns without the sign, so that the order of
magnitudes is the order of natural numbers and equality is equality of patterns. Every operation
computes its exact result in `Nat` and rounds it once, by `Magnitude.nearest`. -/
namespace ScanLatency.Number

/-- Fraction patterns per binade: 52 bits. -/
abbrev binadeSize : Nat := 4503599627370496

/-- Units in one: a unit is the smallest positive magnitude. -/
abbrev unitsPerOne : Nat := Nat.pow 2 1074

/-- The position of infinity, just above the largest finite magnitude. -/
abbrev infinityCode : Nat := 2047 * binadeSize

/-- A magnitude is its position on the grid, up to and including infinity. -/
abbrev Magnitude := { code : Nat // code ≤ infinityCode }

namespace Magnitude

def zero : Magnitude := ⟨0, by decide⟩
def infinity : Magnitude := ⟨infinityCode, Nat.le_refl _⟩
def isInfinite (m : Magnitude) : Bool := m.val == infinityCode

/-- The value at a position, in units. The first two binades share one spacing; every later one
doubles it. -/
def unitsAt (code : Nat) : Nat :=
  if code < binadeSize then code
  else (binadeSize + code % binadeSize) <<< (code / binadeSize - 1)

/-- The value in units; for infinity the value one spacing above the largest finite one. -/
def units (m : Magnitude) : Nat := unitsAt m.val

/-- How often the spacing has doubled where values of `q` units lie. -/
def doublings (q : Nat) : Nat := if q < 2 * binadeSize then 0 else q.log2 - 52

/-- The position of the magnitude nearest to `num / den` units, ties to the even position. -/
def nearestCode (num den : Nat) : Nat :=
  let d := doublings (num / den)
  d * binadeSize + nearestEven num (den <<< d)

/-- The magnitude nearest to `num / den` units; from half a spacing below infinity on, infinity. -/
def nearest (num den : Nat) : Magnitude :=
  if h : nearestCode num den < infinityCode then ⟨nearestCode num den, Nat.le_of_lt h⟩
  else infinity

end Magnitude

/-- A 64-bit binary number: NaN, or a sign and a magnitude. -/
inductive Binary64
  | nan
  | signed (negative : Bool) (magnitude : Magnitude)
  deriving DecidableEq

namespace Binary64

def zero : Binary64 := .signed false .zero
def infinity : Binary64 := .signed false .infinity

instance : Inhabited Binary64 := ⟨zero⟩

/-- The number whose exact value is `num / den` with the given sign, rounded. -/
def ratio (negative : Bool) (num den : Nat) : Binary64 :=
  .signed negative (Magnitude.nearest (num <<< 1074) den)

def ofNat (n : Nat) : Binary64 := ratio false n 1

/-- What the sign adds to a pattern: the top bit. -/
abbrev signCode : Nat := 9223372036854775808

/-- The bit pattern; NaN has one, the quiet one without payload. -/
def toBits : Binary64 → UInt64
  | .nan => 0x7ff8000000000000
  | .signed negative m => UInt64.ofNat (m.val + if negative then signCode else 0)

/-- Reads a bit pattern; every pattern beyond infinity is NaN. -/
def ofBits (bits : UInt64) : Binary64 :=
  let code := bits.toNat % signCode
  if h : code ≤ infinityCode then .signed (signCode ≤ bits.toNat) ⟨code, h⟩ else .nan

def isNaN : Binary64 → Bool
  | .nan => true
  | .signed .. => false

def isFinite : Binary64 → Bool
  | .nan => false
  | .signed _ m => !m.isInfinite

def neg : Binary64 → Binary64
  | .nan => .nan
  | .signed negative m => .signed (!negative) m

/-- The value of a finite number in units; infinities continue the grid by one step. -/
def toUnits : Binary64 → Int
  | .nan => 0
  | .signed negative m => if negative then -(m.units : Int) else m.units

/-- The sum of units, rounded. An exact zero is negative only if both summands were. -/
def addFinite (x y : Binary64) (bothNegative : Bool) : Binary64 :=
  let sum := x.toUnits + y.toUnits
  if sum = 0 then .signed bothNegative .zero
  else .signed (sum < 0) (Magnitude.nearest sum.natAbs 1)

def add : Binary64 → Binary64 → Binary64
  | .nan, _ => .nan
  | _, .nan => .nan
  | .signed s m, .signed t n =>
    if m.isInfinite then
      if n.isInfinite ∧ s ≠ t then .nan else .signed s m
    else if n.isInfinite then .signed t n
    else addFinite (.signed s m) (.signed t n) (s && t)

def sub (x y : Binary64) : Binary64 := add x y.neg

def mul : Binary64 → Binary64 → Binary64
  | .nan, _ => .nan
  | _, .nan => .nan
  | .signed s m, .signed t n =>
    if m.isInfinite ∨ n.isInfinite then
      if m.val = 0 ∨ n.val = 0 then .nan else .signed (s != t) .infinity
    else .signed (s != t) (Magnitude.nearest (m.units * n.units) unitsPerOne)

def div : Binary64 → Binary64 → Binary64
  | .nan, _ => .nan
  | _, .nan => .nan
  | .signed s m, .signed t n =>
    if m.isInfinite then
      if n.isInfinite then .nan else .signed (s != t) .infinity
    else if n.isInfinite then .signed (s != t) .zero
    else if n.val = 0 then
      if m.val = 0 then .nan else .signed (s != t) .infinity
    else .signed (s != t) (Magnitude.nearest (m.units <<< 1074) n.units)

/-- Signed positions compare as the numbers do; the two zeros share one. -/
def key : Binary64 → Int
  | .nan => 0
  | .signed negative m => if negative then -(m.val : Int) else m.val

def lt (x y : Binary64) : Bool := !x.isNaN && !y.isNaN && x.key < y.key
def le (x y : Binary64) : Bool := !x.isNaN && !y.isNaN && x.key ≤ y.key

instance : Add Binary64 := ⟨add⟩
instance : Sub Binary64 := ⟨sub⟩
instance : Mul Binary64 := ⟨mul⟩
instance : Div Binary64 := ⟨div⟩
instance : Neg Binary64 := ⟨neg⟩
instance : LT Binary64 := ⟨fun x y => x.lt y = true⟩
instance : LE Binary64 := ⟨fun x y => x.le y = true⟩
instance (x y : Binary64) : Decidable (x < y) := inferInstanceAs (Decidable (_ = true))
instance (x y : Binary64) : Decidable (x ≤ y) := inferInstanceAs (Decidable (_ = true))
instance (n : Nat) : OfNat Binary64 n := ⟨ofNat n⟩

/-- The bounds of the signed words. -/
abbrev leastWord : Int := -9223372036854775808
abbrev greatestWord : Int := 9223372036854775807

/-- The least integer that is not below the number, held within the signed 64-bit words. NaN
counts as zero. -/
def ceilWord : Binary64 → Int
  | .nan => 0
  | .signed negative m =>
    if m.isInfinite then (if negative then leastWord else greatestWord)
    else if negative then max leastWord (-((m.units >>> 1074 : Nat) : Int))
    else min greatestWord (((m.units + (unitsPerOne - 1)) >>> 1074 : Nat) : Int)

example : (ofNat 32).toBits = 0x4040000000000000 := by decide +kernel
example : ((1 : Binary64) / 3).toBits = 0x3fd5555555555555 := by decide +kernel
example : (ofNat 9007199254740993).toBits = (ofNat 9007199254740992).toBits := by decide +kernel
example : (ofBits 1 / 2).toBits = 0 ∧ (ofBits 3 / 2).toBits = 2 := by decide +kernel
example : (95 / 100 * 20 : Binary64).ceilWord = 19 := by decide +kernel

end Binary64
end ScanLatency.Number
