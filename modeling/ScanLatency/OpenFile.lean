import ScanLatency.Bytes
import ScanLatency.Device

/-! Files, and what an open one answers. Besides the bytes of a regular file there are directories,
which open but do not read, and pipes, which have no position. A system call takes a position only
from the lower half of the words and moves a bounded number of bytes. Every operation that the
system may refuse for reasons of its own carries its refusal, if any, in the file. -/
namespace ScanLatency

inductive FileKind
  | regular (data : Bytes)
  | directory
  | pipe

/-- How much of what is written to a file the system takes, and how it refuses the rest. -/
structure WriteLimit where
  bytes : UInt64
  number : Nat
  deriving DecidableEq, Repr

/-- A file and the error numbers with which the system refuses to work on it. Advice is refused
call by call, counted from one over the life of one opening. A directory that refuses to be written
has no files made in it; the files made in one that does not have its limit. -/
structure File where
  kind : FileKind
  openRefusal : Option Nat := none
  sizeRefusal : Option Nat := none
  writeRefusal : Option Nat := none
  writeLimit : Option WriteLimit := none
  searchRefusal : Option Nat := none
  adviceRefusal : Nat → Option Nat := fun _ => none

namespace FileKind

/-- Bytes that a directory is listed with. -/
abbrev directorySize : UInt64 := 4096

def size : FileKind → UInt64
  | .regular data => data.size
  | .directory => directorySize
  | .pipe => 0

def isDirectory : FileKind → Bool
  | .directory => true
  | _ => false

end FileKind

namespace File

/-- The refusal to look up a name in the file, which has to be a directory. Nothing is looked up for
an empty name. -/
def lookupRefusal (f : File) (name : String) : Option Nat :=
  if !f.kind.isDirectory then some ErrorNumber.notADirectory
  else if name = "" then none
  else f.searchRefusal

def overwriteRefusal (f : File) : Option Nat :=
  if f.kind.isDirectory then some ErrorNumber.isADirectory else f.writeRefusal

/-- The file with other bytes. A pipe swallows what is written to it. -/
def holding (f : File) (data : Bytes) : File :=
  match f.kind with
  | .regular _ => { f with kind := .regular data }
  | _ => f

/-- What the system takes of data that are written to the file. -/
def accepted (f : File) (data : Bytes) : Bytes :=
  match f.writeLimit with
  | some limit => data.take limit.bytes
  | none => data

/-- The refusal that data run into if the system does not take all of them. -/
def shortfall (f : File) (data : Bytes) : Option Nat :=
  match f.writeLimit with
  | some limit => if limit.bytes < data.size then some limit.number else none
  | none => none

end File

/-- The most bytes that one call moves. -/
abbrev transferLimit : UInt64 := 0x7ffff000

/-- The first position that no call takes. -/
abbrev positionLimit : UInt64 := 0x8000000000000000

/-- A file opened for reading: its position, how much advice it was given, and the clock that its
user looks at, as the readings that it shows one after the other. -/
structure OpenFile where
  file : File
  position : UInt64 := 0
  adviceGiven : Nat := 0
  readings : Nat → UInt64 := fun _ => 0
  readingsTaken : Nat := 0

namespace OpenFile

def size (f : OpenFile) : UInt64 := f.file.kind.size

def seek (offset : UInt64) (f : OpenFile) : Except IoError Unit × OpenFile :=
  match f.file.kind with
  | .pipe => (.error (.system ErrorNumber.illegalSeek), f)
  | _ =>
    if offset < positionLimit then (.ok (), { f with position := offset })
    else (.error (.system ErrorNumber.invalidArgument), f)

/-- A read of `wanted` bytes, without their contents. A pipe that nobody fills gives nothing. -/
def skim (wanted : UInt64) (f : OpenFile) : Except IoError UInt64 × OpenFile :=
  match f.file.kind with
  | .directory => (.error (.system ErrorNumber.isADirectory), f)
  | .pipe => (.ok 0, f)
  | .regular data =>
    let length := data.available f.position (min wanted transferLimit)
    (.ok length, { f with position := f.position + length })

def readInto (buffer : Array UInt8) (f : OpenFile) :
    Except IoError (UInt64 × Array UInt8) × OpenFile :=
  let (outcome, after) := f.skim (UInt64.ofNat buffer.size)
  let filled (length : UInt64) :=
    match f.file.kind with
    | .regular data => data.fill f.position length buffer
    | _ => buffer
  (outcome.map fun length => (length, filled length), after)

/-- Gives one piece of advice. Pipes have no pages to advise on. -/
def advise (advice : Advice) (f : OpenFile) : Except RefusedAdvice Unit × OpenFile :=
  let number := f.adviceGiven + 1
  let refusal := match f.file.kind with
    | .pipe => some ErrorNumber.illegalSeek
    | _ => f.file.adviceRefusal number
  (match refusal with
    | some e => .error ⟨advice, e⟩
    | none => .ok (),
   { f with adviceGiven := number })

/-- Evicts the pages read so far, once. -/
def evict (f : OpenFile) : Except RefusedAdvice Unit × OpenFile := f.advise .dontNeed

/-- Asks for no read-ahead, then evicts. Both are attempted, whatever the first one gives. -/
def disableCache (f : OpenFile) : List (Except RefusedAdvice Unit) × OpenFile :=
  let (random, f) := f.advise .random
  let (evicted, f) := f.evict
  ([random, evicted], f)

instance : Device OpenFile where
  now f := (f.readings f.readingsTaken, { f with readingsTaken := f.readingsTaken + 1 })
  size := size
  seek offset f :=
    let (outcome, f) := f.seek offset
    (outcome.mapError .failed, f)
  read wanted f :=
    let (outcome, f) := f.skim wanted
    (outcome.mapError .failed, f)
  dropCache f :=
    let (outcome, f) := f.evict
    (outcome.mapError .refused, f)

end OpenFile

namespace Advice

def refusals (outcomes : List (Except RefusedAdvice Unit)) : List RefusedAdvice :=
  outcomes.filterMap fun
    | .error e => some e
    | .ok () => none

/-- Several pieces of advice took effect if any of them did; otherwise the last refusal stands for
all. -/
def anyTaken (outcomes : List (Except RefusedAdvice Unit)) : Except RefusedAdvice Unit :=
  if outcomes.any (·.isOk) then .ok ()
  else match (refusals outcomes).getLast? with
    | some e => .error e
    | none => .ok ()

end Advice
end ScanLatency
