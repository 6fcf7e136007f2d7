/-! Parts of a text by position. A position counts the bytes of the encoded characters before it;
inside a character it stands for the end of that character. -/
namespace ScanLatency.Text

/-- The bytes that characters take. -/
def width (cs : List Char) : Nat := cs.foldl (fun total c => total + c.utf8Size) 0

/-- What follows a position. -/
def after : Nat → List Char → List Char
  | _, [] => []
  | 0, cs => cs
  | position, c :: cs => after (position - c.utf8Size) cs

/-- What precedes a position. -/
def before : Nat → List Char → List Char
  | _, [] => []
  | 0, _ => []
  | position, c :: cs => c :: before (position - c.utf8Size) cs

/-- What stands between two positions. -/
def between (start stop : Nat) (cs : List Char) : List Char := before (stop - start) (after start cs)

example : between 1 3 "aéb".toList = ['é'] := by decide +kernel

end ScanLatency.Text
