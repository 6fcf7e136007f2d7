import ScanLatency.Number.FixedPoint
import ScanLatency.Word

/-! Quantities with a unit that suits their size. The unit is chosen on the exact value and the
number is rounded afterwards. -/
namespace ScanLatency.Console
open Number

/-- Units of bytes above the byte itself. -/
inductive ByteUnit
  | kibi
  | mebi
  | gibi
  deriving DecidableEq, Repr

namespace ByteUnit

def bytes : ByteUnit → Nat
  | .kibi => 1024
  | .mebi => 1024 * 1024
  | .gibi => 1024 * 1024 * 1024

def symbol : ByteUnit → String
  | .kibi => "KiB"
  | .mebi => "MiB"
  | .gibi => "GiB"

end ByteUnit

/-- A number of bytes as it is shown: exactly, or in a unit with one decimal place. -/
inductive ByteQuantity
  | exact (bytes : Nat)
  | inUnit (number : Binary64) (unit : ByteUnit)
  deriving DecidableEq

namespace ByteQuantity

def convert (bytes : UInt64) (unit : ByteUnit) : ByteQuantity :=
  .inUnit (.ofNat bytes.toNat / .ofNat unit.bytes) unit

/-- The largest unit of which there is at least one. -/
def ofBytes (bytes : UInt64) : ByteQuantity :=
  let n := bytes.toNat
  if ByteUnit.gibi.bytes ≤ n then convert bytes .gibi
  else if ByteUnit.mebi.bytes ≤ n then convert bytes .mebi
  else if ByteUnit.kibi.bytes ≤ n then convert bytes .kibi
  else .exact n

def text : ByteQuantity → String
  | .exact n => s!"{n} B"
  | .inUnit number unit => s!"{number.fixedText 1} {unit.symbol}"

end ByteQuantity

/-- A span of time: whole seconds and a remainder in nanoseconds. -/
structure Duration where
  seconds : UInt64
  nanos : Nat
  nanos_lt : nanos < 1000000000
  deriving DecidableEq, Repr

namespace Duration

abbrev perSecond : Nat := 1000000000

/-- Seconds and nanoseconds, whole seconds among the latter carried over. The seconds have to fit a
word. -/
def ofParts (seconds nanos : Nat) : Except Abort Duration :=
  if seconds + nanos / perSecond < wordCount then
    .ok ⟨UInt64.ofNat (seconds + nanos / perSecond), nanos % perSecond,
      Nat.mod_lt _ (by decide)⟩
  else .error .durationOverflow

def toNanos (d : Duration) : Nat := d.seconds.toNat * perSecond + d.nanos

/-- The span in seconds: both parts rounded, then their sum. -/
def toSeconds (d : Duration) : Binary64 :=
  .ofNat d.seconds.toNat + .ofNat d.nanos / .ofNat perSecond

end Duration

/-- Units of time above the nanosecond. -/
inductive TimeUnit
  | micro
  | milli
  | second
  deriving DecidableEq, Repr

namespace TimeUnit

def nanos : TimeUnit → Nat
  | .micro => 1000
  | .milli => 1000000
  | .second => 1000000000

def symbol : TimeUnit → String
  | .micro => "us"
  | .milli => "ms"
  | .second => "s"

end TimeUnit

/-- A span of time as it is shown: in nanoseconds, or in a unit with two decimal places. -/
inductive TimeQuantity
  | exact (nanos : Nat)
  | inUnit (number : Binary64) (unit : TimeUnit)
  deriving DecidableEq

namespace TimeQuantity

def ofDuration (d : Duration) : TimeQuantity :=
  let n := d.toNanos
  if TimeUnit.second.nanos ≤ n then .inUnit d.toSeconds .second
  else if TimeUnit.milli.nanos ≤ n then .inUnit (.ofNat n / 1000000) .milli
  else if TimeUnit.micro.nanos ≤ n then .inUnit (.ofNat n / 1000) .micro
  else .exact n

def text : TimeQuantity → String
  | .exact n => s!"{n} ns"
  | .inUnit number unit => s!"{number.fixedText 2} {unit.symbol}"

end TimeQuantity
end ScanLatency.Console
