import ScanLatency.Text.Runs

/-! Options inside regular expressions. They decide how the text of an expression is read, and what
it may hold: only texts are matched, and no tables of all scripts are at hand. -/
namespace ScanLatency.Expression

/-- The options that matter for the form of an expression. Those about lines and about the length
of repetitions do not. -/
structure Options where
  /-- Letters stand for both of their cases. -/
  caseless : Bool := false
  /-- Characters of all scripts are matched, not only bytes. -/
  allScripts : Bool := true
  /-- Blanks and comments between the parts do not count. -/
  spaced : Bool := false
  deriving DecidableEq, Repr

namespace Options

def letters : List Char := ['i', 'm', 's', 'U', 'u', 'R', 'x']

def set (o : Options) (letter : Char) (on : Bool) : Options :=
  match letter with
  | 'i' => { o with caseless := on }
  | 'u' => { o with allScripts := on }
  | 'x' => { o with spaced := on }
  | _ => o

/-- The mark before the letters of options that are switched off. -/
abbrev offMark : Char := '-'

/-- Reads the letters of options, each at most once, up to the mark that ends them. A colon opens a
group for which they hold (`true`); a parenthesis makes them hold for the rest of the group around
them, and there must be some. -/
def read (o : Options) (seen : List Char) : List Char → Option (Options × Bool × List Char)
  | [] => none
  | ':' :: rest => if seen.head? = some offMark then none else some (o, true, rest)
  | ')' :: rest =>
    if seen.isEmpty || seen.head? = some offMark then none else some (o, false, rest)
  | c :: rest =>
    if seen.contains c then none
    else if c = offMark then o.read (c :: seen) rest
    else if letters.contains c then
      (o.set c (!seen.contains offMark)).read (c :: seen) rest
    else none

/-- A text without the blanks and comments at its start; a comment ends with its line. -/
def skipFrom (inComment : Bool) : List Char → List Char
  | [] => []
  | c :: rest =>
    if inComment then skipFrom (c ≠ '\n') rest
    else if Text.isBlank c then skipFrom false rest
    else if c = '#' then skipFrom true rest
    else c :: rest

/-- Leaves out what does not count before the next part. -/
def skip (o : Options) (cs : List Char) : List Char := if o.spaced then skipFrom false cs else cs

/-- The next character of a text after blanks and the first mark of a comment. -/
def peek (o : Options) (cs : List Char) : Option Char :=
  if o.spaced then
    match cs.dropWhile Text.isBlank with
    | [] => cs.head?
    | '#' :: rest => (rest.dropWhile Text.isBlank).head?.or cs.head?
    | c :: _ => some c
  else cs.head?

end Options

/-- The depth of parts that follow each other: alone a part keeps its depth. -/
def joinedDepth : List Nat → Nat
  | [] => 0
  | [depth] => depth
  | depths => 1 + depths.foldl max 0

example : Options.read {} [] "x-i:a".toList = some ({ spaced := true }, true, ['a']) := by
  decide +kernel
example : Options.read {} [] ")".toList = none ∧ Options.read {} [] "i-i)".toList = none := by
  decide +kernel
example : Options.skip { spaced := true } " # a\nb".toList = ['b'] := by decide +kernel

end ScanLatency.Expression
