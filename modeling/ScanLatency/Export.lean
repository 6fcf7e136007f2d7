import ScanLatency.Bytes
import ScanLatency.Json
import ScanLatency.Run

/-! The exported report of a run: where it came from, what each pattern measured, what was skipped,
and the comparison. -/
namespace ScanLatency
open Number

def version : String := "0.1.0"

/-- When and where a run took place. -/
structure Provenance where
  timestamp : String
  platform : String
  deriving DecidableEq, Repr

def Pattern.toJson : Pattern → Json
  | .randomSeeks count blockSize => .object
    [("type", .text "random_seeks"), ("count", .word count), ("block_size", .word blockSize)]
  | .strideSeeks jumps stride blockSize => .object
    [("type", .text "stride_seeks"), ("jumps", .word jumps), ("stride", .word stride),
      ("block_size", .word blockSize)]
  | .sequentialLarge totalBytes => .object
    [("type", .text "sequential_large"), ("total_bytes", .word totalBytes)]
  | .groupedScan n scanSize => .object
    [("type", .text "grouped_scan"), ("n", .word n), ("scan_size", .word scanSize)]
  | .singlesScan n scanSize => .object
    [("type", .text "singles_scan"), ("n", .word n), ("scan_size", .word scanSize)]

def Pattern.parametersJson (p : Pattern) : Json :=
  .object (p.parameters.map fun (name, value) => (name, .text value))

def Statistics.toJson (s : Statistics) : Json :=
  .object [("count", .count s.count), ("mean_us", .real s.meanUs), ("median_us", .real s.medianUs),
    ("min_us", .real s.minUs), ("max_us", .real s.maxUs), ("p95_us", .real s.p95Us),
    ("total_ms", .real s.totalMs), ("total_ns", .word s.totalNs)]

def Verdict.toJson : Verdict → Json
  | .speedup ratio => .object [("kind", .text "speedup"), ("ratio", .real ratio)]
  | .slowdown ratio => .object [("kind", .text "slowdown"), ("ratio", .real ratio)]
  | .indeterminate => .object [("kind", .text "indeterminate")]

def Comparison.toJson (c : Comparison) : Json :=
  .object [("grouped_scan_ms", .real c.groupedScanMs), ("singles_scan_ms", .real c.singlesScanMs),
    ("grouped_large_sequential_ms", .real c.groupedLargeSequentialMs),
    ("singles_sequential_ms", .real c.singlesSequentialMs),
    ("grouped_total_avg_ms", .real c.groupedTotalAvgMs),
    ("singles_total_avg_ms", .real c.singlesTotalAvgMs), ("verdict", c.verdict.toJson)]

def Layout.fields (l : Layout) : List (String × Json) :=
  [("group_size", .word l.groupSize), ("scan_elements", .word l.scanElements),
    ("scan_bytes", .word l.scanBytes), ("entries_per_partition", .word entriesPerPartition),
    ("jumps_across_groups", .word l.jumpsAcrossGroups), ("jump_distance", .word l.jumpDistance)]

/-- One completed pattern of an exported report. -/
structure PatternEntry where
  result : PatternResult
  statistics : Option Statistics
  deriving DecidableEq

namespace PatternEntry

def ofResult (r : PatternResult) : Except Abort PatternEntry := do
  return ⟨r, ← r.statistics⟩

def toJson (e : PatternEntry) : Json :=
  .object [("kind", .text e.result.kind.key), ("label", .text e.result.label),
    ("pattern", e.result.pattern.toJson), ("parameters", e.result.pattern.parametersJson),
    ("sample_count", .count e.result.sampleCount), ("short_reads", .count e.result.shortReads),
    ("stats", e.statistics.elim .null Statistics.toJson),
    ("raw_samples_ns", .array (e.result.durations.map .word))]

end PatternEntry

structure Export where
  settings : Settings
  provenance : Provenance
  report : RunReport
  patterns : List PatternEntry

namespace Export

def ofRun (c : Settings) (p : Provenance) (r : RunReport) : Except Abort Export := do
  return ⟨c, p, r, ← r.results.mapM PatternEntry.ofResult⟩

/-- The seed is left out if it is not known. -/
def metadata (e : Export) : List (String × Json) :=
  [("timestamp", .text e.provenance.timestamp), ("platform", .text e.provenance.platform),
    ("version", .text version), ("file", .text e.settings.path),
    ("file_size", .word e.report.fileSize)] ++
  e.report.layout.fields ++
  [("iterations", .word e.settings.iterations),
    ("normalization_divisor", .real e.settings.divisor)] ++
  (e.report.seed.toList.map fun seed => ("seed", .word seed)) ++
  [("no_cache", .bool e.settings.noCache), ("cache_disabled", .bool e.report.cacheDisabled)]

def skippedJson (s : SkippedPattern) : Json :=
  .object [("kind", .text s.kind.key), ("reason", .text s.cause.message)]

def toJson (e : Export) : Json :=
  .object [("metadata", .object e.metadata), ("patterns", .array (e.patterns.map (·.toJson))),
    ("skipped", .array (e.report.skipped.map skippedJson)),
    ("comparison", e.report.comparison.toJson)]

def text (e : Export) : String := e.toJson.pretty 0

def bytes (e : Export) : Bytes := .ofArray e.text.toUTF8

end Export
end ScanLatency
