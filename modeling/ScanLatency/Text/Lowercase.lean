import ScanLatency.Text.CaseTable

/-! Text in lowercase. Each character maps on its own, except the capital sigma, which has another
small form at the end of a word. -/
namespace ScanLatency.Text

/-- The lowercase form of one character; the dotted capital I keeps its dot as a mark. -/
def lowercaseChar (c : Char) : List Char :=
  if c.toNat = 304 then ['i', Char.ofNat 775]
  else match lowercaseRanges.find? (·.contains c.toNat) with
    | some r => [Char.ofNat ((c.toNat : Int) + r.shift).toNat]
    | none => [c]

/-- Whether the nearest character that is not looked through is cased. -/
def nextIsCased (cs : List Char) : Bool :=
  match cs.dropWhile isCaseIgnorable with
  | [] => false
  | c :: _ => isCased c

/-- The small sigma between the text before it, nearest character first, and the text after it:
the final form if a word ends with it. -/
def smallSigma (before after : List Char) : Char :=
  if nextIsCased before && !nextIsCased after then 'ς' else 'σ'

def lowercaseFrom (before : List Char) : List Char → List Char
  | [] => []
  | c :: rest =>
    (if c = 'Σ' then [smallSigma before rest] else lowercaseChar c) ++
      lowercaseFrom (c :: before) rest

def lowercase (text : String) : String := String.ofList (lowercaseFrom [] text.toList)

example : lowercaseChar 'G' = ['g'] := by decide +kernel
example : smallSigma ['Α'] [] = 'ς' := by decide +kernel

end ScanLatency.Text
