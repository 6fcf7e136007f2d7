import ScanLatency.Number.Binary64

/-! Numerals with a fixed number of decimal places. A number is rounded once, from its exact binary
value, and a half goes to the even neighbour. -/
namespace ScanLatency.Number

/-- A numeral: a sign and a count of the smallest steps that its places can show. -/
structure FixedPoint where
  negative : Bool
  steps : Nat
  places : Nat
  deriving DecidableEq, Repr

namespace FixedPoint

/-- The decimal digits of `n`, with zeros in front up to `width` digits. -/
def padded (width n : Nat) : String :=
  let digits := toString n
  String.ofList (List.replicate (width - digits.length) '0') ++ digits

/-- The numeral as written: sign, whole part, point and exactly `places` digits. -/
def text (x : FixedPoint) : String :=
  let scale := Nat.pow 10 x.places
  let whole := (if x.negative then "-" else "") ++ toString (x.steps / scale)
  if x.places = 0 then whole else whole ++ "." ++ padded x.places (x.steps % scale)

end FixedPoint

namespace Binary64

/-- The numeral nearest to a finite number. -/
def toFixed? (places : Nat) : Binary64 → Option FixedPoint
  | .nan => none
  | .signed negative m =>
    if m.isInfinite then none
    else some ⟨negative, nearestEven (m.units * Nat.pow 10 places) unitsPerOne, places⟩

def nonFiniteText : Binary64 → String
  | .nan => "NaN"
  | .signed negative _ => if negative then "-inf" else "inf"

def fixedText (places : Nat) (x : Binary64) : String :=
  match x.toFixed? places with
  | some numeral => numeral.text
  | none => x.nonFiniteText

example : (ofNat 9 / 8).fixedText 2 = "1.12" := by decide +kernel
example : (neg (ofNat 1 / 8)).fixedText 1 = "-0.1" ∧ (neg 0).fixedText 2 = "-0.00" := by
  decide +kernel

end Binary64
end ScanLatency.Number
