import ScanLatency.Number.FixedPoint

/-! The shortest decimal numeral of a binary number: the fewest digits that read back as the same
number and, among numerals of that many digits, the one nearest to it. The search tests, for one
digit, two digits and so on, the two neighbours of the value on the decimal grid against the
interval of reals that round to the number. -/
namespace ScanLatency.Number

/-- A positive decimal: `significand * 10 ^ exponent`. -/
structure Decimal where
  significand : Nat
  exponent : Int
  deriving DecidableEq, Repr

/-- Where a value exactly between two numerals goes. -/
inductive Tie
  | up
  | toEven
  deriving DecidableEq, Repr

/-- The reals that round to one magnitude, in half units. -/
structure RoundingInterval where
  lower : Nat
  value : Nat
  upper : Nat
  closed : Bool

namespace Magnitude

/-- From halfway to the magnitude below to halfway to the one above; the ends belong to the even
position. -/
def interval (m : Magnitude) : RoundingInterval where
  lower := unitsAt (m.val - 1) + unitsAt m.val
  value := 2 * unitsAt m.val
  upper := unitsAt m.val + unitsAt (m.val + 1)
  closed := m.val % 2 == 0

end Magnitude

namespace RoundingInterval

/-- Whether `point / den` lies in the interval stretched by `num`. -/
def contains (i : RoundingInterval) (num den point : Nat) : Bool :=
  if i.closed then i.lower * num ≤ point * den && point * den ≤ i.upper * num
  else i.lower * num < point * den && point * den < i.upper * num

/-- The numeral on the grid of multiples of `10 ^ exponent` that lies in the interval, the nearer
one of two. -/
def onGrid (i : RoundingInterval) (tie : Tie) (exponent : Int) : Option Decimal :=
  let num := Nat.pow 10 (-exponent).toNat
  let den := 2 * unitsPerOne * Nat.pow 10 exponent.toNat
  let low := i.value * num / den
  let rest := i.value * num % den
  let keepLow := i.contains num den low && decide (0 < low)
  let keepHigh := i.contains num den (low + 1)
  let lowNearer := decide (2 * rest < den) ||
    (decide (2 * rest = den) && tie == .toEven && decide (low % 2 = 0))
  if keepLow && (!keepHigh || lowNearer) then some ⟨low, exponent⟩
  else if keepHigh then some ⟨low + 1, exponent⟩
  else none

/-- The number of digits before the decimal point, negative for zeros after it. Four hundred
places are enough to see the first digit of any positive value. -/
def pointPosition (i : RoundingInterval) : Int :=
  ((toString (i.value * Nat.pow 10 400 / (2 * unitsPerOne))).length : Int) - 400

end RoundingInterval

/-- The shortest numeral of a positive finite magnitude. Seventeen digits tell all of them apart,
and only a carry out of the first digit can leave a zero at the end. -/
def Magnitude.shortest (tie : Tie) (m : Magnitude) : Decimal :=
  let i := m.interval
  let found := (List.range 17).findSome? fun (k : Nat) =>
    i.onGrid tie (i.pointPosition - (k + 1))
  match found with
  | none => ⟨0, 0⟩
  | some d => if d.significand = 10 then ⟨1, d.exponent + 1⟩ else d

/-- How a numeral is laid out: which positions of the decimal point are written out, whether a
whole number ends in `.0`, whether an exponent that is not negative has a sign, and where ties of
the last digit go. -/
structure NumeralStyle where
  writtenOut : Int → Bool
  wholeZero : Bool
  exponentPlus : Bool
  tie : Tie

namespace NumeralStyle

private def zeros (n : Nat) : String := String.ofList (List.replicate n '0')

/-- The digits with a point after the first `point` of them, zeros filling any gap. -/
def positional (style : NumeralStyle) (digits : String) (point : Int) : String :=
  let count := digits.length
  if point ≤ 0 then "0." ++ zeros (-point).toNat ++ digits
  else if count ≤ point.toNat then
    digits ++ zeros (point.toNat - count) ++ (if style.wholeZero then ".0" else "")
  else
    String.ofList (digits.toList.take point.toNat) ++ "." ++
      String.ofList (digits.toList.drop point.toNat)

/-- One digit, the others after a point, and the exponent of the first. -/
def scientific (style : NumeralStyle) (digits : String) (point : Int) : String :=
  let first := String.ofList (digits.toList.take 1)
  let rest := digits.toList.drop 1
  let mantissa := if rest.isEmpty then first else first ++ "." ++ String.ofList rest
  let sign := if style.exponentPlus ∧ 1 ≤ point then "+" else ""
  mantissa ++ "e" ++ sign ++ toString (point - 1)

def decimalText (style : NumeralStyle) (d : Decimal) : String :=
  let digits := toString d.significand
  let point := (digits.length : Int) + d.exponent
  if style.writtenOut point then style.positional digits point else style.scientific digits point

end NumeralStyle

def Binary64.shortestText (style : NumeralStyle) (x : Binary64) : String :=
  match x with
  | .nan => x.nonFiniteText
  | .signed negative m =>
    if m.isInfinite then x.nonFiniteText
    else (if negative then "-" else "") ++
      (if m.val = 0 then style.positional "0" 1 else style.decimalText (m.shortest style.tie))

end ScanLatency.Number
