import ScanLatency.Device
import ScanLatency.Journal
import ScanLatency.Offsets

/-! Running one pattern. A session holds the device, the source of offsets and the journal; a
pattern that fits the device prepares itself, reads as its schedule says, and gives one sample for
each read. It stops at the first operation that halts; the session that it leaves then shows
everything that happened up to there. -/
namespace ScanLatency

/-- The state that a benchmark threads through its patterns. -/
structure Session (δ ο : Type) where
  device : δ
  source : ο
  journal : Array Event := #[]

namespace Session

variable {δ ο : Type} [Device δ] [OffsetSource ο]

def note (n : Notice) (s : Session δ ο) : Session δ ο :=
  { s with journal := s.journal.push (.notice n) }

/-- The notice that a sample deserves: one if its read came back short. A read in place has no
offset to name. -/
def shortNotice (p : Pattern) (target : Option UInt64) (sample : Sample) : Option Notice :=
  if sample.shortRead then
    some (match target with
      | some offset => .shortRead sample.bytesRead offset p.runName p.schedule.length
      | none => .shortContinuation sample.bytesRead p.schedule.length)
  else none

def noteShort (p : Pattern) (target : Option UInt64) (sample : Sample) (s : Session δ ο) :
    Session δ ο :=
  match shortNotice p target sample with
  | some n => s.note n
  | none => s

/-- Goes through preparations in order. The result is the start that they drew, if they drew
one. -/
def prepare (p : Pattern) (limit : UInt64) :
    List Pattern.Preparation → Option UInt64 → ο → Except Abort (Option UInt64) × ο
  | [], start, source => (.ok start, source)
  | .start :: rest, _, source =>
    let (offset, source) := OffsetSource.draw limit source
    prepare p limit rest (some offset) source
  | .buffer :: rest, start, source =>
    match p.reserveBuffer with
    | .error abort => (.error abort, source)
    | .ok () => prepare p limit rest start source
  | .samples :: rest, start, source =>
    match p.reserveSamples with
    | .error abort => (.error abort, source)
    | .ok () => prepare p limit rest start source

/-- A freshly drawn target. -/
def drawTarget (limit : UInt64) (source : ο) : Except Abort (Option UInt64) × ο :=
  let (offset, source) := OffsetSource.draw limit source
  (.ok (some offset), source)

/-- The target of the next read, given the offset sought last: none means to read on in place.
The first read goes to the start, which is drawn now if it was not drawn before. -/
def nextTarget (limit : UInt64) (later : Placement) (start last : Option UInt64) (source : ο) :
    Except Abort (Option UInt64) × ο :=
  match last with
  | none =>
    match start with
    | some offset => (.ok (some offset), source)
    | none => drawTarget limit source
  | some offset =>
    match later with
    | .redrawn => drawTarget limit source
    | .spaced stride => ((Word.add offset stride).map some, source)
    | .contiguous => (.ok none, source)

/-- Makes the remaining reads of a pattern, adding their samples to those already taken. -/
def readAll (p : Pattern) (limit : UInt64) (start : Option UInt64) :
    Nat → Option UInt64 → Array Sample → Session δ ο →
      Except (Halt PatternError) (Array Sample) × Session δ ο
  | 0, _, samples, s => (.ok samples, s)
  | remaining + 1, last, samples, s =>
    match nextTarget limit p.schedule.later start last s.source with
    | (.error abort, source) => (.error (.aborted abort), { s with source })
    | (.ok target, source) =>
      match Device.sample target p.schedule.length s.device with
      | (.error halt, device) => (.error (halt.restate (.io p.runName)), { s with device, source })
      | (.ok sample, device) =>
        readAll p limit start remaining (target.or last) (samples.push sample)
          (noteShort p target sample { s with device, source })

/-- Runs a pattern once. A pattern that does not fit leaves the session as it was. -/
def run (p : Pattern) (s : Session δ ο) :
    Except (Halt PatternError) (Array Sample) × Session δ ο :=
  match p.maxStart (Device.size s.device) with
  | .error cause => (.error (.failed cause), s)
  | .ok limit =>
    match prepare p limit p.preparations none s.source with
    | (.error abort, source) => (.error (.aborted abort), { s with source })
    | (.ok start, source) => readAll p limit start p.schedule.reads none #[] { s with source }

end Session
end ScanLatency
