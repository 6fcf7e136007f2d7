import ScanLatency.Layout
import ScanLatency.Pattern
import ScanLatency.PatternKind

/-! The five patterns that a layout asks for. -/
namespace ScanLatency

/-- A pattern with the slot that its results belong to and the label they are shown under. -/
structure PlannedPattern where
  kind : PatternKind
  pattern : Pattern
  label : String
  deriving DecidableEq, Repr

/-- The patterns for a layout, in execution order. The first read of the stride scan counts as one
of its reads. -/
def Layout.suite (l : Layout) : List PlannedPattern :=
  let n := l.groupSize
  let scan := l.scanBytes
  let reads := l.jumpsAcrossGroups
  let stride := l.jumpDistance
  let large := l.largeSequentialBytes
  let single := l.singleSequentialBytes
  [⟨.groupedScan, .groupedScan n scan, s!"Grouped scan: N={n}, chunk={scan}B"⟩,
    ⟨.singlesScan, .singlesScan n scan, s!"Singles scan: N random seeks, chunk={scan}B"⟩,
    ⟨.strideScan, .strideSeeks (reads - 1) stride scan,
      s!"Stride scan: reads={reads}, stride={stride}B, chunk={scan}B"⟩,
    ⟨.largeSequential, .sequentialLarge large, s!"Large sequential: {large}B"⟩,
    ⟨.singleSequential, .sequentialLarge single, s!"Single sequential: {single}B"⟩]

theorem Layout.map_kind_suite (l : Layout) : l.suite.map (·.kind) = PatternKind.all := rfl

end ScanLatency
