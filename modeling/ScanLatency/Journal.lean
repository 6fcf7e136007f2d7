import ScanLatency.Pattern
import ScanLatency.PatternKind
import ScanLatency.Statistics

/-! What a run tells while it goes on, in order: notices for the log, result lines and skip lines.
An event holds what happened; how it reads on a console is not decided here. -/
namespace ScanLatency

inductive Level
  | warning
  | info
  | debug
  deriving DecidableEq, Repr

/-- What the log can say. -/
inductive Notice
  | started (patterns : Nat) (iterations fileSize : UInt64)
  | iterationFailed (kind : PatternKind) (iteration : Nat) (cause : PatternError)
  | shortRead (bytes offset : UInt64) (pattern : String) (wanted : UInt64)
  | shortContinuation (bytes wanted : UInt64)
  | aborted (kind : PatternKind) (cause : PatternError)
  | cameShort (kind : PatternKind) (short total : Nat)
  | cacheKept (cause : IoError)
  | adviceRefused (cause : RefusedAdvice)
  | cacheNotDisabled (cause : RefusedAdvice)
  | cacheDisabled (path : String)
  | offsetSeed (seed : UInt64)
  deriving DecidableEq, Repr

namespace Notice

def level : Notice → Level
  | .started .. | .iterationFailed .. => .debug
  | .cacheDisabled _ | .offsetSeed _ => .info
  | _ => .warning

def text : Notice → String
  | .started patterns iterations fileSize =>
    s!"Running {patterns} patterns x {iterations} iterations on {fileSize} bytes"
  | .iterationFailed kind iteration cause =>
    s!"{kind} failed on iteration {iteration}: {cause.message}"
  | .shortRead bytes offset pattern wanted =>
    s!"short read {bytes} bytes at offset {offset} during {pattern} (wanted {wanted})"
  | .shortContinuation bytes wanted =>
    s!"short read {bytes} bytes during grouped scan (wanted {wanted})"
  | .aborted kind cause => s!"{kind} aborted: {cause.message}"
  | .cameShort kind short total => s!"{kind}: {short} of {total} reads came back short"
  | .cacheKept cause => s!"Could not drop page cache, later reads may be warm: {cause.message}"
  | .adviceRefused cause => cause.message
  | .cacheNotDisabled cause => s!"Could not disable page cache: {cause.message}"
  | .cacheDisabled path => s!"Page cache and read-ahead disabled for {path}"
  | .offsetSeed seed => s!"Offset seed: {seed} (pass --seed to reproduce)"

end Notice

/-- One entry of the journal of a run. -/
inductive Event
  | notice (n : Notice)
  | completed (label : String) (statistics : Option Statistics)
  | skipped (kind : PatternKind) (cause : PatternError)
  deriving DecidableEq

def notices (events : List Event) : List Notice :=
  events.filterMap fun
    | .notice n => some n
    | _ => none

end ScanLatency
