/-! Tables with a border. Every column is as wide as its widest cell, cells are flush left with a
blank on either side, and the rows below the heading follow without lines between them. -/
namespace ScanLatency.Console

/-- A heading and rows of as many cells. -/
structure Table where
  heading : List String
  rows : List (List String)
  deriving DecidableEq, Repr

namespace Table

/-- The number of characters of the widest cell in each column. -/
def widths (t : Table) : List Nat :=
  t.rows.foldl (fun widest row => List.zipWith (fun w cell => max w cell.length) widest row)
    (t.heading.map String.length)

def repeated (c : Char) (n : Nat) : String := String.ofList (List.replicate n c)

/-- A horizontal line: its ends, what it is drawn with, and what stands where columns meet. -/
def rule (left stroke joint right : Char) (widths : List Nat) : String :=
  left.toString ++
    String.intercalate joint.toString (widths.map fun w => repeated stroke (w + 2)) ++
    right.toString

def rowText (widths : List Nat) (cells : List String) : String :=
  "│" ++ String.intercalate "┆"
    (List.zipWith (fun w cell => " " ++ cell ++ repeated ' ' (w - cell.length + 1)) widths cells)
    ++ "│"

def lines (t : Table) : List String :=
  let w := t.widths
  [rule '┌' '─' '┬' '┐' w, rowText w t.heading, rule '╞' '═' '╪' '╡' w] ++
    t.rows.map (rowText w) ++ [rule '└' '─' '┴' '┘' w]

end Table
end ScanLatency.Console
