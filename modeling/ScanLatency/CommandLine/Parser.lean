import ScanLatency.CommandLine.Given

/-! Reading the arguments from left to right. A value that stands apart from its option is read
only when the next argument shows that it is complete; a value attached to its option is read at
once. An argument that is not known ends the reading before that. -/
namespace ScanLatency.CommandLine

/-- The form of one argument. -/
inductive Word
  /-- Two dashes alone: only file names follow. -/
  | escape
  | long (name : String) (attached : Option String)
  /-- Letters after one dash. -/
  | cluster (letters : List Char)
  | plain (text : String)
  deriving DecidableEq, Repr

namespace Word

/-- The name before the first equals sign and the value behind it. -/
def splitValue (characters : List Char) : String × Option String :=
  (String.ofList (characters.takeWhile (· ≠ '=')),
    match characters.dropWhile (· ≠ '=') with
    | [] => none
    | _ :: value => some (String.ofList value))

def ofString (text : String) : Word :=
  match text.toList with
  | ['-', '-'] => .escape
  | '-' :: '-' :: rest => .long (splitValue rest).1 (splitValue rest).2
  | '-' :: c :: rest => .cluster (c :: rest)
  | _ => .plain text

end Word

/-- A value that is not read yet. -/
inductive Pending
  | nothing
  | file (text : String)
  | parameter (p : Parameter) (text : Option String)
  deriving DecidableEq, Repr

/-- The state between two arguments. -/
structure Reading where
  given : Given := {}
  pending : Pending := .nothing
  fileSeen : Bool := false
  namesOnly : Bool := false
  deriving DecidableEq

namespace Reading

/-- Reads the pending value, if there is one. -/
def settle (r : Reading) : Except UsageError Reading :=
  let settled (given : Given) : Reading := { r with given, pending := .nothing }
  match r.pending with
  | .nothing => .ok r
  | .file text => (r.given.assignFile text).map settled
  | .parameter p none => .error (.missingValue (.parameter p))
  | .parameter p (some text) => (r.given.assign p text).map settled

/-- An option whose value is attached, or still to come. -/
def parameter (r : Reading) (p : Parameter) : Option String → Except UsageError Reading
  | none => r.settle.map fun r => { r with pending := .parameter p none }
  | some text => r.settle.bind fun r => (r.given.assign p text).map fun given => { r with given }

def switch (r : Reading) (s : Switch) : Except UsageError Reading :=
  r.settle.bind fun r => (r.given.set s).map fun given => { r with given }

/-- A request stops the reading once the pending value is read. -/
def request (r : Reading) (q : Request) : Stop :=
  match r.settle with
  | .error e => .usage e
  | .ok _ => .request q

/-- A name of a file; there is one at most. -/
def name (r : Reading) (text : String) : Except UsageError Reading :=
  if r.fileSeen then .error (.unexpectedArgument text)
  else r.settle.map fun r => { r with pending := .file text, fileSeen := true }

/-- Text that is no option: the value that is waited for, or a name. -/
def plain (r : Reading) (text : String) : Except UsageError Reading :=
  match r.pending with
  | .parameter p none => .ok { r with pending := .parameter p (some text) }
  | _ => r.name text

def long (r : Reading) (name : String) (attached : Option String) : Except Stop Reading :=
  match ofLong name, attached with
  | none, _ => .error (.usage (.unexpectedArgument ("--" ++ name)))
  | some (.parameter p), value => (r.parameter p value).mapError .usage
  | some meaning, some value => .error (.usage (.unexpectedValue value meaning))
  | some (.switch s), none => (r.switch s).mapError .usage
  | some (.request q), none => .error (r.request q)

/-- Letters after one dash: switches, and at the end perhaps an option with the rest as its value,
which an equals sign may set apart. -/
def cluster (r : Reading) : List Char → Except Stop Reading
  | [] => .ok r
  | letter :: rest =>
    match ofShort letter with
    | none => .error (.usage (.unexpectedArgument (String.ofList ['-', letter])))
    | some (.request q) => .error (r.request q)
    | some (.switch s) =>
      match r.switch s with
      | .error e => .error (.usage e)
      | .ok r => r.cluster rest
    | some (.parameter p) =>
      let attached := match rest with
        | [] => none
        | '=' :: value => some (String.ofList value)
        | value => some (String.ofList value)
      (r.parameter p attached).mapError .usage

def step (r : Reading) (text : String) : Except Stop Reading :=
  if r.namesOnly then (r.name text).mapError .usage
  else match Word.ofString text with
    | .escape => .ok { r with namesOnly := true }
    | .long name attached => r.long name attached
    | .cluster letters => r.cluster letters
    | .plain text => (r.plain text).mapError .usage

def steps : Reading → List String → Except Stop Reading
  | r, [] => .ok r
  | r, text :: rest =>
    match r.step text with
    | .error stop => .error stop
    | .ok r => steps r rest

end Reading

/-- Reads all arguments and completes them from the environment. -/
def parse (environment : String → Option String) (arguments : List String) : Except Stop Given :=
  match Reading.steps {} arguments with
  | .error stop => .error stop
  | .ok r =>
    ((r.settle.bind fun r => r.given.complete environment Parameter.all).bind Given.check).mapError
      .usage

end ScanLatency.CommandLine
