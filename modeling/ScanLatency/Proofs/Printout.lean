import Mathlib.Data.Nat.Notation
import ScanLatency.Console.Report
import ScanLatency.Export

/-! What the console shows, line by line: which text stands on the line of a result, of a skip, and
on every line of the summary, with colors and without. -/
namespace ScanLatency

def PatternKind.smallName : PatternKind → String
  | .groupedScan => "grouped scan"
  | .singlesScan => "singles scan"
  | .strideScan => "stride scan"
  | .largeSequential => "large sequential"
  | .singleSequential => "single sequential"

theorem PatternKind.lowercase_name (kind : PatternKind) :
    Text.lowercase kind.name = kind.smallName := by
  cases kind <;> decide +kernel

namespace Console
open Number

theorem toString_text (text : String) : toString text = text := rfl

/-! ### Results and skips -/

def quantities : Option Statistics → List String
  | none => ["no samples"]
  | some s =>
    [s!"samples={s.count}", s!"mean={s.meanUs.fixedText 2}µs", s!"median={s.medianUs.fixedText 2}µs",
      s!"min={s.minUs.fixedText 2}µs", s!"max={s.maxUs.fixedText 2}µs", s!"p95≈{s.p95Us.fixedText 2}µs",
      s!"total={s.totalMs.fixedText 2}ms"]

/-- The line of a result. In colors, what comes before the first colon is bold. -/
def resultText (color : Bool) (label : String) (statistics : Option Statistics) : String :=
  let text := label ++ ": " ++ ", ".intercalate (quantities statistics)
  if color then
    "\x1b[1m" ++ String.ofList (text.toList.takeWhile (· ≠ ':')) ++ "\x1b[0m" ++
      String.ofList (text.toList.dropWhile (· ≠ ':'))
  else text

/-- The line of a skip. In colors, its first word is yellow. -/
def skipText (color : Bool) (kind : PatternKind) (reason : String) : String :=
  (if color then "\x1b[33mskipping\x1b[39m" else "skipping") ++ s!" {kind.smallName}: {reason}"

theorem statisticsText_eq (label : String) (statistics : Option Statistics) :
    statisticsText label statistics = resultText false label statistics := by
  apply String.toList_inj.1
  cases statistics with
  | none => simp [statisticsText, resultText, quantities, toString_text]
  | some s => simp [statisticsText, resultText, quantities, hundredths, toString_text]

theorem render_resultLine (color : Bool) (label : String) (statistics : Option Statistics) :
    Line.render color (resultLine label statistics) = resultText color label statistics := by
  have htext := statisticsText_eq label statistics
  cases color with
  | false =>
    rw [← htext]
    simp [resultLine, Line.render, Span.render, ← String.ofList_append]
  | true =>
    unfold resultLine
    rw [htext]
    simp [resultText, Line.render, Span.render, Style.wrap, Style.codes, escape]

theorem render_skipLine (color : Bool) (kind : PatternKind) (reason : String) :
    Line.render color (skipLine kind.name reason) = skipText color kind reason := by
  unfold skipLine
  rw [kind.lowercase_name]
  cases color <;>
    simp [skipText, Line.render, Span.render, Style.wrap, Style.codes, escape, String.append_assoc]

/-! ### The table of the summary -/

/-- The widths of the columns of the summary. -/
structure Columns where
  pattern : ℕ
  samples : ℕ
  mean : ℕ
  total : ℕ

def filled (width : ℕ) (cell : String) : String :=
  cell ++ String.ofList (List.replicate (width - cell.length) ' ')

namespace Columns

def rowText (w : Columns) (pattern samples mean total : String) : String :=
  s!"│ {filled w.pattern pattern} ┆ {filled w.samples samples} ┆ {filled w.mean mean} ┆ " ++
    s!"{filled w.total total} │"

def border (w : Columns) (left stroke joint right : Char) : String :=
  let bar (width : ℕ) := String.ofList (List.replicate (width + 2) stroke)
  left.toString ++ bar w.pattern ++ joint.toString ++ bar w.samples ++ joint.toString ++ bar w.mean ++
    joint.toString ++ bar w.total ++ right.toString

def widest (least : ℕ) (cells : List String) : ℕ :=
  cells.foldl (fun width cell => max width cell.length) least

def ofRows (rows : List (PatternKind × Statistics)) : Columns where
  pattern := widest "Pattern".length (rows.map (·.1.name))
  samples := widest "Samples".length (rows.map fun row => toString row.2.count)
  mean := widest "Mean (ns)".length (rows.map fun row => (row.2.meanUs * 1000).fixedText 2)
  total := widest "Total (ms)".length (rows.map fun row => row.2.totalMs.fixedText 2)

end Columns

/-- The lines of the table, one for each row between the borders. -/
def tableTexts (rows : List (PatternKind × Statistics)) : List String :=
  let w := Columns.ofRows rows
  [w.border '┌' '─' '┬' '┐', w.rowText "Pattern" "Samples" "Mean (ns)" "Total (ms)",
    w.border '╞' '═' '╪' '╡'] ++
  rows.map (fun (kind, s) => w.rowText kind.name (toString s.count) ((s.meanUs * 1000).fixedText 2)
    (s.totalMs.fixedText 2)) ++
  [w.border '└' '─' '┴' '┘']

theorem filled_append (width : ℕ) (cell : String) :
    cell ++ Table.repeated ' ' (width - cell.length + 1) = filled width cell ++ " " := by
  apply String.toList_inj.1
  simp [filled, Table.repeated, List.replicate_succ']

theorem rowText_eq (w : Columns) (pattern samples mean total : String) :
    Table.rowText [w.pattern, w.samples, w.mean, w.total] [pattern, samples, mean, total] =
      w.rowText pattern samples mean total := by
  have hcell (width : ℕ) (cell : String) :
      " " ++ cell ++ Table.repeated ' ' (width - cell.length + 1) = " " ++ filled width cell ++ " " := by
    rw [String.append_assoc, filled_append, String.append_assoc]
  apply String.toList_inj.1
  simp only [Table.rowText, List.zipWith_cons_cons, List.zipWith_nil_left, hcell]
  simp [Columns.rowText, toString_text]

theorem rule_eq (w : Columns) (left stroke joint right : Char) :
    Table.rule left stroke joint right [w.pattern, w.samples, w.mean, w.total] =
      w.border left stroke joint right := by
  apply String.toList_inj.1
  simp [Table.rule, Table.repeated, Columns.border]

theorem foldl_summaryRow (rows : List (PatternKind × Statistics)) (pattern samples mean total : ℕ) :
    (rows.map fun (kind, s) => summaryRow kind s).foldl
        (fun widest row => List.zipWith (fun w cell => max w cell.length) widest row)
        [pattern, samples, mean, total] =
      [Columns.widest pattern (rows.map (·.1.name)),
        Columns.widest samples (rows.map fun row => toString row.2.count),
        Columns.widest mean (rows.map fun row => (row.2.meanUs * 1000).fixedText 2),
        Columns.widest total (rows.map fun row => row.2.totalMs.fixedText 2)] := by
  induction rows generalizing pattern samples mean total with
  | nil => rfl
  | cons row rows ih => exact ih _ _ _ _

theorem lines_summaryTable (rows : List (PatternKind × Statistics)) :
    (summaryTable rows).lines = tableTexts rows := by
  have hwidths : (summaryTable rows).widths =
      let w := Columns.ofRows rows
      [w.pattern, w.samples, w.mean, w.total] := foldl_summaryRow rows _ _ _ _
  have hrows : (rows.map fun (kind, s) => summaryRow kind s).map
      (Table.rowText (summaryTable rows).widths) =
        rows.map fun (kind, s) => (Columns.ofRows rows).rowText kind.name (toString s.count)
          ((s.meanUs * 1000).fixedText 2) (s.totalMs.fixedText 2) := by
    rw [List.map_map, hwidths]
    exact List.map_congr_left fun row _ => rowText_eq _ _ _ _ _
  simp only [Table.lines, tableTexts]
  rw [← hrows, hwidths, rule_eq, rule_eq, rule_eq, ← rowText_eq]
  rfl

/-! ### The whole summary -/

/-- The verdict: green for a gain, yellow for a loss, dim for neither. -/
def verdictLineText (color : Bool) : Verdict → String
  | .speedup ratio =>
    let text := s!"Speedup (singles / grouped): {ratio.fixedText 2}x"
    if !color then text
    else if 1 ≤ ratio then "\x1b[1m\x1b[32m" ++ text ++ "\x1b[39m\x1b[0m"
    else "\x1b[1m\x1b[33m" ++ text ++ "\x1b[39m\x1b[0m"
  | .slowdown ratio =>
    let text := s!"Slowdown (grouped / singles): {ratio.fixedText 2}x"
    if color then "\x1b[1m\x1b[33m" ++ text ++ "\x1b[39m\x1b[0m" else text
  | .indeterminate =>
    let text := "Speedup (singles / grouped): n/a (no timings)"
    if color then "\x1b[2m" ++ text ++ "\x1b[0m" else text

def comparisonTexts (color : Bool) (c : Comparison) : List String :=
  [s!"Grouped scan first seek time per read: {c.groupedScanMs.fixedText 2} ms",
    s!"Singles scan first seek time per read: {c.singlesScanMs.fixedText 2} ms",
    s!"Grouped large sequential read time: {c.groupedLargeSequentialMs.fixedText 2} ms",
    s!"Singles sequential read time: {c.singlesSequentialMs.fixedText 2} ms",
    s!"Overall grouped average time: {c.groupedTotalAvgMs.fixedText 2} ms",
    s!"Overall singles average time: {c.singlesTotalAvgMs.fixedText 2} ms",
    verdictLineText color c.verdict]

/-- The lines of the summary: a title, the table and the comparison. -/
def summaryTexts (color : Bool) (rows : List (PatternKind × Statistics)) (c : Comparison) :
    List String :=
  ["", if color then "\x1b[1mFinal durations\x1b[0m" else "Final durations:"] ++ tableTexts rows ++
    [""] ++ comparisonTexts color c

theorem render_single (color : Bool) (text : String) (style : Style) :
    Line.render color [⟨text, style⟩] =
      if color then String.join (style.codes.1.map escape) ++ text ++
        String.join (style.codes.2.map escape) else text := by
  simp [Line.render, Span.render, Style.wrap]

theorem render_plain (color : Bool) (text : String) : Line.render color (Line.plain text) = text := by
  rw [Line.plain, render_single]
  cases color <;> simp [Style.codes]

theorem render_verdict (color : Bool) (v : Verdict) :
    Line.render color [⟨verdictText v, verdictStyle v⟩] = verdictLineText color v := by
  have hgreen : String.join (Style.boldGreen.codes.1.map escape) = "\x1b[1m\x1b[32m" ∧
      String.join (Style.boldGreen.codes.2.map escape) = "\x1b[39m\x1b[0m" := by decide
  have hyellow : String.join (Style.boldYellow.codes.1.map escape) = "\x1b[1m\x1b[33m" ∧
      String.join (Style.boldYellow.codes.2.map escape) = "\x1b[39m\x1b[0m" := by decide
  have hdimmed : String.join (Style.dimmed.codes.1.map escape) = "\x1b[2m" ∧
      String.join (Style.dimmed.codes.2.map escape) = "\x1b[0m" := by decide
  rw [render_single]
  unfold verdictText verdictStyle verdictLineText
  cases v with
  | speedup ratio =>
    cases color with
    | false => rfl
    | true =>
      simp only
      by_cases hgain : 1 ≤ ratio
      · rw [if_pos hgain, if_pos hgain, hgreen.1, hgreen.2]
        rfl
      · rw [if_neg hgain, if_neg hgain, hyellow.1, hyellow.2]
        rfl
  | slowdown ratio =>
    simp only [hyellow]
    rfl
  | indeterminate =>
    simp only [hdimmed]

theorem render_comparisonLines (color : Bool) (c : Comparison) :
    (comparisonLines c).map (Line.render color) = comparisonTexts color c := by
  simp only [comparisonLines, comparisonTexts, List.map_cons, List.map_nil, render_verdict]
  cases color <;> simp [render_plain, hundredths] <;> decide

theorem render_summaryLines {r : RunReport} {rows : List (PatternKind × Statistics)}
    (h : summaryEntries r = .ok rows) (color : Bool) :
    ∃ lines, summaryLines color r = .ok lines ∧
      lines.map (Line.render color) = summaryTexts color rows r.comparison := by
  have htitle : Line.render color (summaryTitle color) =
      if color then "\x1b[1mFinal durations\x1b[0m" else "Final durations:" := by
    cases color <;> decide
  have htable : (tableTexts rows).map (Line.render color ∘ Line.plain) = tableTexts rows := by
    simp [Function.comp_def, render_plain]
  refine ⟨_, by rw [summaryLines, h]; rfl, ?_⟩
  simp only [List.map_append, List.map_cons, List.map_nil, List.map_map, lines_summaryTable, htable,
    htitle, render_comparisonLines]
  rfl

/-! ### Printing -/

def inLines (texts : List String) : String := String.join (texts.map (· ++ "\n"))

theorem printed_eq_inLines {color : Bool} {lines : List Line} {texts : List String}
    (h : lines.map (Line.render color) = texts) : printed color lines = inLines texts := by
  rw [← h, printed, inLines, List.map_map]
  rfl

theorem printed_results (color : Bool) (entries : List PatternEntry) :
    printed color (entries.map fun entry => resultLine entry.result.label entry.statistics) =
      inLines (entries.map fun entry => resultText color entry.result.label entry.statistics) := by
  refine printed_eq_inLines ?_
  rw [List.map_map]
  exact List.map_congr_left fun entry _ => render_resultLine color _ _

end Console
end ScanLatency
