import ScanLatency.Word

/-! The parameters that follow from the size of a group and the size of one scan. A grouped layout
keeps the same partition range of all its plots side by side, so walking one partition across the
group jumps over one scan of every plot between reads. Products that do not fit a word saturate:
such a size exceeds every file. -/
namespace ScanLatency

/-- Entries that the partition ranges of one plot span. -/
abbrev partitionSpanEntries : UInt64 := 268435456

abbrev partitionsPerPlot : UInt64 := 512

abbrev bytesPerEntry : UInt64 := 4

def entriesPerPartition : UInt64 := partitionSpanEntries / partitionsPerPlot

/-- Plots per group and entries per scan. -/
structure Layout where
  groupSize : UInt64
  scanElements : UInt64
  deriving DecidableEq, Repr

namespace Layout

def scanBytes (l : Layout) : UInt64 := Word.saturatingMul l.scanElements bytesPerEntry

/-- Whole scans in one partition, at least one. -/
def jumpsAcrossGroups (l : Layout) : UInt64 :=
  if l.scanElements = 0 then 1 else max 1 (entriesPerPartition / l.scanElements)

/-- Bytes from one read of a partition to the next one in the group. -/
def jumpDistance (l : Layout) : UInt64 := Word.saturatingMul l.groupSize l.scanBytes

/-- Bytes of one partition of the whole group, read in one transfer. -/
def largeSequentialBytes (l : Layout) : UInt64 :=
  Word.saturatingMul (Word.saturatingMul l.groupSize l.scanBytes) l.jumpsAcrossGroups

/-- Bytes of one partition of a single plot, read in one transfer. -/
def singleSequentialBytes (l : Layout) : UInt64 :=
  Word.saturatingMul l.scanBytes l.jumpsAcrossGroups

theorem one_le_jumpsAcrossGroups (l : Layout) : 1 ≤ l.jumpsAcrossGroups.toNat := by
  unfold jumpsAcrossGroups
  split
  · decide
  · have h : (1 : UInt64) ≤ max 1 (entriesPerPartition / l.scanElements) := by
      show (1 : UInt64) ≤ if _ then _ else _
      split
      · assumption
      · exact UInt64.le_refl _
    exact UInt64.le_iff_toNat_le.1 h

example : (Layout.mk 64 8192).largeSequentialBytes = 134217728 := by decide

end Layout
end ScanLatency
