import ScanLatency.Number.Shortest

/-! Values of a structured report and their text: one entry a line, indented by two blanks for each
level. A number that is not finite is written as null. -/
namespace ScanLatency
open Number

/-- A structured value. Fields stand in the order in which they are written. -/
inductive Json
  | null
  | bool (b : Bool)
  | count (n : Nat)
  | real (x : Binary64)
  | text (s : String)
  | array (items : List Json)
  | object (fields : List (String × Json))

namespace Json

def word (w : UInt64) : Json := .count w.toNat

/-- Sixteen digits before the point are written out, and four zeros after it; a whole number shows
that it is a real one, and exponents have a sign. -/
def realStyle : NumeralStyle where
  writtenOut point := -5 < point && point ≤ 16
  wholeZero := true
  exponentPlus := true
  tie := .toEven

def hexDigit (n : Nat) : Char := (Nat.toDigits 16 n).headD '0'

/-- A character inside quotes: quotes, backslashes and control characters are escaped. -/
def escapeChar (c : Char) : List Char :=
  if c = '"' then ['\\', '"']
  else if c = '\\' then ['\\', '\\']
  else if c = '\n' then ['\\', 'n']
  else if c = '\r' then ['\\', 'r']
  else if c = '\t' then ['\\', 't']
  else if c.toNat = 8 then ['\\', 'b']
  else if c.toNat = 12 then ['\\', 'f']
  else if c.toNat < 32 then ['\\', 'u', '0', '0', hexDigit (c.toNat / 16), hexDigit (c.toNat % 16)]
  else [c]

def quoted (s : String) : String := String.ofList ('"' :: s.toList.flatMap escapeChar ++ ['"'])

def indent (depth : Nat) : String := String.ofList (List.replicate (2 * depth) ' ')

/-- Entries between brackets, one a line. -/
def bracketed (left right : String) (depth : Nat) (entries : List String) : String :=
  if entries.isEmpty then left ++ right
  else
    left ++ "\n" ++
      String.intercalate ",\n" (entries.map fun entry => indent (depth + 1) ++ entry) ++
      "\n" ++ indent depth ++ right

mutual

/-- The text of a value that stands at a depth. -/
def pretty (depth : Nat) : Json → String
  | .null => "null"
  | .bool b => if b then "true" else "false"
  | .count n => toString n
  | .real x => if x.isFinite then x.shortestText realStyle else "null"
  | .text s => quoted s
  | .array items => bracketed "[" "]" depth (prettyItems (depth + 1) items)
  | .object fields => bracketed "\x7b" "\x7d" depth (prettyFields (depth + 1) fields)

def prettyItems (depth : Nat) : List Json → List String
  | [] => []
  | item :: rest => pretty depth item :: prettyItems depth rest

def prettyFields (depth : Nat) : List (String × Json) → List String
  | [] => []
  | (name, value) :: rest => (quoted name ++ ": " ++ pretty depth value) :: prettyFields depth rest

end

end Json
end ScanLatency
