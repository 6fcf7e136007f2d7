import ScanLatency.Device
import ScanLatency.Statistics
import ScanLatency.Suite

/-! The samples of one pattern over all iterations, and what is read off them. -/
namespace ScanLatency

/-- What a completed pattern measured, in chronological order. -/
structure PatternResult where
  kind : PatternKind
  pattern : Pattern
  label : String
  fileSize : UInt64
  samples : Array Sample := #[]
  deriving DecidableEq, Repr

namespace PatternResult

/-- The result of a planned pattern before its first iteration. -/
def ofPlanned (p : PlannedPattern) (fileSize : UInt64) : PatternResult :=
  ⟨p.kind, p.pattern, p.label, fileSize, #[]⟩

/-- Appends the samples of one iteration. -/
def extend (r : PatternResult) (samples : Array Sample) : PatternResult :=
  { r with samples := r.samples ++ samples }

def sampleCount (r : PatternResult) : Nat := r.samples.size

def durations (r : PatternResult) : List UInt64 := r.samples.toList.map (·.nanos)

def totalNanos (r : PatternResult) : Except Abort UInt64 := Word.sum r.durations

def shortReads (r : PatternResult) : Nat := r.samples.countP (·.shortRead)

def statistics (r : PatternResult) : Except Abort (Option Statistics) :=
  Statistics.ofDurations r.durations

end PatternResult
end ScanLatency
