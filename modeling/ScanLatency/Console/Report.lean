import ScanLatency.Console.Quantity
import ScanLatency.Console.Style
import ScanLatency.Console.Table
import ScanLatency.Run
import ScanLatency.Text.Lowercase

/-! What a run shows on the console: the parameters before it, a line for each pattern, and the
summary with the comparison at its end. Colors decorate and add no text, but for the colon that
ends the plain title of the summary. -/
namespace ScanLatency.Console
open Number

/-- Two decimal places, as all times are shown. -/
def hundredths (x : Binary64) : String := x.fixedText 2

/-- One line of statistics after a name. -/
def statisticsText (name : String) : Option Statistics → String
  | none => s!"{name}: no samples"
  | some s =>
    s!"{name}: samples={s.count}, mean={hundredths s.meanUs}µs, " ++
    s!"median={hundredths s.medianUs}µs, min={hundredths s.minUs}µs, " ++
    s!"max={hundredths s.maxUs}µs, p95≈{hundredths s.p95Us}µs, total={hundredths s.totalMs}ms"

def verdictText : Verdict → String
  | .speedup ratio => s!"Speedup (singles / grouped): {hundredths ratio}x"
  | .slowdown ratio => s!"Slowdown (grouped / singles): {hundredths ratio}x"
  | .indeterminate => "Speedup (singles / grouped): n/a (no timings)"

/-- Green for a gain, yellow for a loss, dim for neither. -/
def verdictStyle : Verdict → Style
  | .speedup ratio => if 1 ≤ ratio then .boldGreen else .boldYellow
  | .slowdown _ => .boldYellow
  | .indeterminate => .dimmed

def bannerLines (c : Settings) : List Line :=
  let l := c.layout
  [[], [⟨"plotbench", .boldCyan⟩, ⟨s!": {c.path}", .plain⟩],
    Line.plain s!"Number of plots in group: {l.groupSize}",
    Line.plain s!"Proof fragment scan size: {l.scanElements} elements",
    Line.plain s!"Number of entries per partition: {entriesPerPartition}",
    Line.plain s!"Calculated scan size: {l.scanBytes} bytes",
    Line.plain s!"Jumps across groups: {l.jumpsAcrossGroups}",
    Line.plain s!"Jump distance between groups: {l.jumpDistance} bytes",
    Line.plain s!"Iterations: {c.iterations}"]

def fileLines (path : String) (size : UInt64) : List Line :=
  [Line.plain s!"file: {path}, size={size} bytes ({(ByteQuantity.ofBytes size).text})", []]

/-- A statistics line whose part before the first colon stands out. -/
def resultLine (label : String) (statistics : Option Statistics) : Line :=
  let characters := (statisticsText label statistics).toList
  [⟨String.ofList (characters.takeWhile (· ≠ ':')), .bold⟩,
    ⟨String.ofList (characters.dropWhile (· ≠ ':')), .plain⟩]

def skipLine (name reason : String) : Line :=
  [⟨"skipping", .yellow⟩, ⟨s!" {Text.lowercase name}: {reason}", .plain⟩]

def comparisonLines (c : Comparison) : List Line :=
  let timed (words : String) (ms : Binary64) : Line := Line.plain s!"{words}: {hundredths ms} ms"
  [timed "Grouped scan first seek time per read" c.groupedScanMs,
    timed "Singles scan first seek time per read" c.singlesScanMs,
    timed "Grouped large sequential read time" c.groupedLargeSequentialMs,
    timed "Singles sequential read time" c.singlesSequentialMs,
    timed "Overall grouped average time" c.groupedTotalAvgMs,
    timed "Overall singles average time" c.singlesTotalAvgMs,
    [⟨verdictText c.verdict, verdictStyle c.verdict⟩]]

def summaryRow (kind : PatternKind) (s : Statistics) : List String :=
  [kind.name, toString s.count, hundredths (s.meanUs * 1000), hundredths s.totalMs]

/-- The statistics of every kind that has samples, in execution order. -/
def summaryEntries (r : RunReport) : Except Abort (List (PatternKind × Statistics)) := do
  let entries ← PatternKind.all.mapM fun kind => do
    let statistics ← r.statistics kind
    return statistics.map (kind, ·)
  return entries.filterMap id

def summaryTable (entries : List (PatternKind × Statistics)) : Table :=
  ⟨["Pattern", "Samples", "Mean (ns)", "Total (ms)"], entries.map fun (k, s) => summaryRow k s⟩

/-- The title of the summary; without colors a colon sets it off. -/
def summaryTitle (color : Bool) : Line :=
  if color then [⟨"Final durations", .bold⟩] else Line.plain "Final durations:"

def summaryLines (color : Bool) (r : RunReport) : Except Abort (List Line) := do
  let entries ← summaryEntries r
  return [[], summaryTitle color] ++ (summaryTable entries).lines.map Line.plain ++ [[]] ++
    comparisonLines r.comparison

/-- What an event prints on standard output. -/
def outputLine : Event → Option Line
  | .completed label statistics => some (resultLine label statistics)
  | _ => none

/-- What an event prints on standard error, the log apart. -/
def errorLine : Event → Option Line
  | .skipped kind cause => some (skipLine kind.name cause.message)
  | _ => none

end ScanLatency.Console
