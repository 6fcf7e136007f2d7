import ScanLatency.Number.Binary64
import ScanLatency.Word

/-! Numbers read from text: counts, which are words, and reals, which are rounded to the nearest
binary number. Only ASCII digits are digits, and no blank is skipped. -/
namespace ScanLatency.Number

inductive CountError
  | empty
  | invalidDigit
  | tooLarge
  deriving DecidableEq, Repr

def CountError.message : CountError → String
  | .empty => "cannot parse integer from empty string"
  | .invalidDigit => "invalid digit found in string"
  | .tooLarge => "number too large to fit in target type"

inductive RealError
  | empty
  | invalid
  deriving DecidableEq, Repr

def RealError.message : RealError → String
  | .empty => "cannot parse float from empty string"
  | .invalid => "invalid float literal"

def digitValue (c : Char) : Nat := c.toNat - '0'.toNat

/-- Reads digits from the left; the first character at fault decides the error. -/
def readDigits : List Char → Nat → Except CountError Nat
  | [], value => .ok value
  | c :: rest, value =>
    if c.isDigit then
      let next := value * 10 + digitValue c
      if next < wordCount then readDigits rest next else .error .tooLarge
    else .error .invalidDigit

/-- A count: digits, with at most one plus sign before them. -/
def readCount (text : String) : Except CountError UInt64 :=
  match text.toList with
  | [] => .error .empty
  | '+' :: c :: rest => (readDigits (c :: rest) 0).map UInt64.ofNat
  | digits => (readDigits digits 0).map UInt64.ofNat

def digitsValue (digits : List Char) : Nat :=
  digits.foldl (fun value c => value * 10 + digitValue c) 0

/-- The exponent after a mantissa: nothing, or `e` with an optional sign and at least one digit. -/
def readExponent : List Char → Option Int
  | [] => some 0
  | e :: rest =>
    if e = 'e' ∨ e = 'E' then
      let (negative, digits) := match rest with
        | '-' :: ds => (true, ds)
        | '+' :: ds => (false, ds)
        | ds => (false, ds)
      if digits.isEmpty ∨ !digits.all Char.isDigit then none
      else some (if negative then -(digitsValue digits : Int) else digitsValue digits)
    else none

/-- The number nearest to `significand * 10 ^ exponent`. Outside four hundred places on either
side the answer is infinity or zero, so that no huge power is computed. -/
def ofDecimal (negative : Bool) (significand : Nat) (exponent : Int) : Binary64 :=
  let point := exponent + (toString significand).length
  if significand = 0 ∨ point < -400 then .signed negative .zero
  else if 400 < point then .signed negative .infinity
  else .ratio negative (significand * Nat.pow 10 exponent.toNat)
    (Nat.pow 10 (-exponent).toNat)

/-- Digits with an optional point among them, then an optional exponent. -/
def readDecimal (negative : Bool) (body : List Char) : Option Binary64 :=
  let whole := body.takeWhile Char.isDigit
  let afterWhole := body.dropWhile Char.isDigit
  let (fraction, tail) := match afterWhole with
    | '.' :: rest => (rest.takeWhile Char.isDigit, rest.dropWhile Char.isDigit)
    | rest => ([], rest)
  if whole.isEmpty ∧ fraction.isEmpty then none
  else (readExponent tail).map fun exponent =>
    ofDecimal negative (digitsValue (whole ++ fraction)) (exponent - fraction.length)

/-- The named values, in any case of letters. -/
def readNamed (negative : Bool) (body : List Char) : Option Binary64 :=
  let name := body.map Char.toLower
  if name = "nan".toList then some .nan
  else if name = "inf".toList ∨ name = "infinity".toList then some (.signed negative .infinity)
  else none

/-- A real number: an optional sign, then a decimal numeral or a named value. -/
def readReal (text : String) : Except RealError Binary64 :=
  let (negative, body) := match text.toList with
    | '-' :: rest => (true, rest)
    | '+' :: rest => (false, rest)
    | rest => (false, rest)
  if text.isEmpty then .error .empty
  else match (readDecimal negative body).or (readNamed negative body) with
    | some x => .ok x
    | none => .error .invalid

end ScanLatency.Number
