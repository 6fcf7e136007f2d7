/-! The five slots of a benchmark run, in the order in which they execute. -/
namespace ScanLatency

/-- What a pattern is run for. -/
inductive PatternKind
  | groupedScan
  | singlesScan
  | strideScan
  | largeSequential
  | singleSequential
  deriving DecidableEq, Repr

namespace PatternKind

/-- Every kind, in execution order. -/
def all : List PatternKind :=
  [.groupedScan, .singlesScan, .strideScan, .largeSequential, .singleSequential]

/-- The name shown to readers. -/
def name : PatternKind → String
  | .groupedScan => "Grouped scan"
  | .singlesScan => "Singles scan"
  | .strideScan => "Stride scan"
  | .largeSequential => "Large sequential"
  | .singleSequential => "Single sequential"

/-- The name in exported reports. -/
def key : PatternKind → String
  | .groupedScan => "grouped_scan"
  | .singlesScan => "singles_scan"
  | .strideScan => "stride_scan"
  | .largeSequential => "large_sequential"
  | .singleSequential => "single_sequential"

instance : ToString PatternKind := ⟨name⟩

theorem mem_all (k : PatternKind) : k ∈ all := by cases k <;> decide

theorem nodup_all : all.Nodup := by decide

end PatternKind
end ScanLatency
