import ScanLatency.Expression.WellFormed
import ScanLatency.Number.Literal
import ScanLatency.Text.Slice

/-! Directives about the log. A directive consists of the start of the name of a source, of
brackets with a span and a field, and of a limit behind an equals sign; at least one of these is
there. The marks between the parts are looked for in the directive without the blanks around it,
but their positions count from the start of the whole directive. -/
namespace ScanLatency
open Number

/-- How much of the log is let through. -/
inductive LogLimit
  | off
  | error
  | warning
  | info
  | debug
  | trace
  deriving DecidableEq, Repr

namespace LogLimit

/-- The rank of the least grave level that is let through. -/
def rank : LogLimit → Nat
  | .off => 0
  | .error => 1
  | .warning => 2
  | .info => 3
  | .debug => 4
  | .trace => 5

def all : List LogLimit := [.off, .error, .warning, .info, .debug, .trace]

/-- The limit with a name, in any case of letters. -/
def ofName? (name : String) : Option LogLimit :=
  match String.ofList (name.toList.map Char.toLower) with
  | "off" => some .off
  | "error" => some .error
  | "warn" => some .warning
  | "info" => some .info
  | "debug" => some .debug
  | "trace" => some .trace
  | _ => none

/-- A limit by its rank, which is a count, or by its name. -/
def ofString? (text : String) : Option LogLimit :=
  match readCount text with
  | .ok rank => all[rank.toNat]?
  | .error _ => ofName? text

end LogLimit

/-- A field that an entry of the log must have, perhaps with a value. -/
structure FieldTest where
  name : String
  value : Option String := none
  deriving DecidableEq, Repr

/-- Whether a text is a value to compare with: a number or an expression; truth values are
expressions, too. -/
def FieldTest.isValue (text : String) : Bool :=
  (readReal text).isOk || Expression.isWellFormed text

/-- A name, and a value behind an equals sign; what follows a second equals sign does not count. -/
def FieldTest.ofString? (text : String) : Option FieldTest :=
  if text = "" then none
  else match text.splitOn "=" with
    | name :: value :: _ => if isValue value then some ⟨name, some value⟩ else none
    | _ => some ⟨text, none⟩

/-- A limit for the entries of some sources: those whose name starts with a text, those inside a
span, those with a field. -/
structure LogDirective where
  source : Option String := none
  span : Option String := none
  field : Option FieldTest := none
  limit : LogLimit := .trace
  deriving DecidableEq, Repr

namespace LogDirective

/-- A directive in the course of its reading, and the position that was reached. -/
structure Reader where
  /-- The directive with the blanks around it. -/
  whole : List Char
  position : Nat := 0
  read : LogDirective := {}

namespace Reader

/-- The text from the position reached up to another one. -/
def upTo (r : Reader) (stop : Nat) : String := String.ofList (Text.between r.position stop r.whole)

def toEnd (r : Reader) : String := String.ofList (Text.after r.position r.whole)

/-- A limit behind an equals sign. Without one everything is let through. -/
def limit (r : Reader) : List Char → Option LogDirective
  | [] => some r.read
  | '=' :: _ =>
    let text := { r with position := r.position + 1 }.toEnd
    if text = "" then some r.read
    else (LogLimit.ofString? text).map fun limit => { r.read with limit }
  | _ => none

/-- What stands between braces, up to the closing bracket, and the limit. -/
def field (r : Reader) (rest : List Char) : Option LogDirective :=
  let test := rest.takeWhile (· ≠ '}')
  let stop := r.position + Text.width test
  match rest.drop test.length with
  | '}' :: ']' :: rest => do
    let field ← FieldTest.ofString? (r.upTo stop)
    { r with position := stop + 2, read := { r.read with field } }.limit rest
  | _ => none

/-- What stands between brackets, and the limit. Before a field the name of the span can be left
out. -/
def bracket (r : Reader) (rest : List Char) : Option LogDirective :=
  let name := rest.takeWhile fun c => c ≠ ']' && c ≠ '{'
  let stop := r.position + Text.width name
  let span := r.upTo stop
  match rest.drop name.length with
  | ']' :: rest =>
    { r with position := stop + 1, read := { r.read with span := some span } }.limit rest
  | '{' :: rest =>
    let span := if span = "" then none else some span
    { r with position := stop + 1, read := { r.read with span } }.field rest
  | _ => none

end Reader

/-- Whether the name of a source can start with a character. -/
def opensName (c : Char) : Bool := Text.isAlphanumeric c || c = '-' || c = ':' || c = '_'

/-- Reads a directive. A directive of one part is a limit if it reads as one, and else a source. -/
def ofString? (text : String) : Option LogDirective :=
  let r : Reader := { whole := text.toList }
  match Text.trim r.whole with
  | [] => none
  | '[' :: rest => { r with position := 1 }.bracket rest
  | first :: others =>
    if !opensName first then none
    else
      let name := (first :: others).takeWhile fun c => c ≠ '=' && c ≠ '['
      let stop := Text.width name
      let read : LogDirective := { source := some (r.upTo stop) }
      match (first :: others).drop name.length with
      | [] =>
        match LogLimit.ofString? text with
        | some limit => some { limit }
        | none => some { source := some text }
      | '[' :: rest => { r with position := stop + 1, read }.bracket rest
      | rest => { r with position := stop, read }.limit rest

end LogDirective
end ScanLatency
