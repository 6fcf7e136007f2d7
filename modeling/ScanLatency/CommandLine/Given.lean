import ScanLatency.CommandLine.Argument

/-! What the arguments gave, value by value. A value is read when it is assigned, and an argument
that was assigned once is never assigned again. -/
namespace ScanLatency.CommandLine
open Number

/-- The values given so far; switches stand in the order in which they were set. -/
structure Given where
  file : Option String := none
  groupSize : Option UInt64 := none
  scanElements : Option UInt64 := none
  iterations : Option UInt64 := none
  seed : Option UInt64 := none
  divisor : Option Binary64 := none
  json : Option String := none
  switches : List Switch := []
  deriving DecidableEq

namespace Given

def hasParameter (g : Given) : Parameter → Bool
  | .groupSize => g.groupSize.isSome
  | .scanElements => g.scanElements.isSome
  | .iterations => g.iterations.isSome
  | .seed => g.seed.isSome
  | .divisor => g.divisor.isSome
  | .json => g.json.isSome

def hasSwitch (g : Given) (s : Switch) : Bool := g.switches.contains s

def count (argument : Argument) (text : String) : Except UsageError UInt64 :=
  (readCount text).mapError fun e => .invalidValue text argument (.count e)

def real (argument : Argument) (text : String) : Except UsageError Binary64 :=
  (readReal text).mapError fun e => .invalidValue text argument (.real e)

/-- A value that has to be a path, which is never empty. -/
def path (argument : Argument) (text : String) : Except UsageError String :=
  if text = "" then .error (.missingValue argument) else .ok text

def read (g : Given) (p : Parameter) (text : String) : Except UsageError Given :=
  let a := Argument.parameter p
  match p with
  | .groupSize => (count a text).map fun n => { g with groupSize := some n }
  | .scanElements => (count a text).map fun n => { g with scanElements := some n }
  | .iterations => (count a text).map fun n => { g with iterations := some n }
  | .seed => (count a text).map fun n => { g with seed := some n }
  | .divisor => (real a text).map fun x => { g with divisor := some x }
  | .json => (path a text).map fun name => { g with json := some name }

/-- Assigns a parameter for the first time. -/
def assign (g : Given) (p : Parameter) (text : String) : Except UsageError Given :=
  if g.hasParameter p then .error (.repeated (.parameter p)) else g.read p text

def assignFile (g : Given) (text : String) : Except UsageError Given :=
  (path .file text).map fun name => { g with file := some name }

/-- Sets a switch for the first time. -/
def set (g : Given) (s : Switch) : Except UsageError Given :=
  if g.hasSwitch s then .error (.repeated (.switch s))
  else .ok { g with switches := g.switches ++ [s] }

/-- Takes parameters that the arguments left out from the environment. -/
def complete (environment : String → Option String) :
    List Parameter → Given → Except UsageError Given
  | [], g => .ok g
  | p :: rest, g =>
    match g.hasParameter p, p.standIn.bind environment with
    | false, some text =>
      match g.read p text with
      | .error e => .error e
      | .ok g => complete environment rest g
    | _, _ => complete environment rest g

/-- Refuses switches that exclude each other, then a line without a file. -/
def check (g : Given) : Except UsageError Given :=
  match g.switches.filter fun s => s = .color ∨ s = .noColor with
  | first :: second :: _ => .error (.conflict first second)
  | _ => if g.file.isNone then .error .missingFile else .ok g

end Given
end ScanLatency.CommandLine
