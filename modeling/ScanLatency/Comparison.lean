import ScanLatency.PatternResult

/-! The comparison of a grouped layout with one plot per location. The cost per plot is the scan
time divided by the size of the group plus the sequential time divided by a normalization divisor;
the verdict is the quotient of the two costs. -/
namespace ScanLatency
open Number

/-- The divisor of sequential totals unless another is asked for. -/
def defaultDivisor : Binary64 := 32

/-- Which layout wins, and by how much. -/
inductive Verdict
  /-- Singles over grouped; above one the grouped layout wins. -/
  | speedup (ratio : Binary64)
  /-- Grouped over singles, where grouped cost nothing. -/
  | slowdown (ratio : Binary64)
  /-- Neither side cost anything. -/
  | indeterminate
  deriving DecidableEq

def Verdict.ofTotals (groupedMs singlesMs : Binary64) : Verdict :=
  if 0 < groupedMs then .speedup (singlesMs / groupedMs)
  else if 0 < singlesMs then .slowdown (groupedMs / singlesMs)
  else .indeterminate

/-- The four totals of a run, the two costs per plot, and the verdict. -/
structure Comparison where
  groupedScanMs : Binary64
  singlesScanMs : Binary64
  groupedLargeSequentialMs : Binary64
  singlesSequentialMs : Binary64
  groupedTotalAvgMs : Binary64
  singlesTotalAvgMs : Binary64
  verdict : Verdict
  deriving DecidableEq

namespace Comparison

/-- The cost per plot: the scan shared by the group, the transfer by the divisor. -/
def perPlot (groupSize : UInt64) (divisor scanMs sequentialMs : Binary64) : Binary64 :=
  scanMs / Statistics.ofWord groupSize + sequentialMs / divisor

def ofTotals (groupSize : UInt64) (divisor : Binary64)
    (groupedScan singlesScan groupedSequential singlesSequential : Binary64) : Comparison :=
  let grouped := perPlot groupSize divisor groupedScan groupedSequential
  let singles := perPlot groupSize divisor singlesScan singlesSequential
  ⟨groupedScan, singlesScan, groupedSequential, singlesSequential, grouped, singles,
    .ofTotals grouped singles⟩

/-- The total of one kind in milliseconds; a kind without a result counts as zero. -/
def totalMs (results : List PatternResult) (kind : PatternKind) : Except Abort Binary64 :=
  match results.find? (·.kind = kind) with
  | none => .ok 0
  | some r => r.totalNanos.map fun total => Statistics.ofWord total / 1000000

def ofResults (groupSize : UInt64) (divisor : Binary64) (results : List PatternResult) :
    Except Abort Comparison := do
  let groupedScan ← totalMs results .groupedScan
  let singlesScan ← totalMs results .singlesScan
  let groupedSequential ← totalMs results .largeSequential
  let singlesSequential ← totalMs results .singleSequential
  return ofTotals groupSize divisor groupedScan singlesScan groupedSequential singlesSequential

end Comparison
end ScanLatency
