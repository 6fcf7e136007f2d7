/-! Classes of characters, each given by the first and last code points of its runs, in decimal and
in ascending order. -/
namespace ScanLatency.Text

/-- Whether a character lies in one of the runs. -/
def inRuns (runs : List (Nat × Nat)) (c : Char) : Bool :=
  runs.any fun (first, last) => first ≤ c.toNat && c.toNat ≤ last

def blankRuns : List (Nat × Nat) := [
  (9, 13), (32, 32), (133, 133), (160, 160), (5760, 5760), (8192, 8202), (8232, 8233),
  (8239, 8239), (8287, 8287), (12288, 12288)]

def isBlank (c : Char) : Bool := inRuns blankRuns c

/-- A text without the blanks around it. -/
def trim (cs : List Char) : List Char :=
  ((cs.dropWhile isBlank).reverse.dropWhile isBlank).reverse

example : trim " a\tb\u00a0\n".toList = "a\tb".toList := by decide +kernel

end ScanLatency.Text
