import ScanLatency.Expression.Bracket
import ScanLatency.Text.Alphanumeric

/-! Which texts are regular expressions. Nothing here matches anything: the form of an expression
decides whether the filter that holds it can be read. Expressions stand between braces and hold
none that closes, so that counted repetitions, which need one, have no form here. -/
namespace ScanLatency.Expression

/-- How deep the parts of an expression may be nested. -/
abbrev deepest : Nat := 250

structure Part where
  depth : Nat := 0
  /-- Whether a sign of repetition can follow. -/
  repeatable : Bool := true
  deriving DecidableEq, Repr

/-- A group whose closing parenthesis is still to come; the whole expression is one as well. -/
structure OpenGroup where
  options : Options := {}
  /-- The parts of the current branch, the last one first. -/
  parts : List Part := []
  /-- The depths of the branches before it. -/
  branches : List Nat := []
  deriving DecidableEq, Repr

namespace OpenGroup

def branchDepth (g : OpenGroup) : Nat := joinedDepth (g.parts.map (·.depth))

def depth (g : OpenGroup) : Nat :=
  if g.branches.isEmpty then g.branchDepth else 1 + g.branches.foldl max g.branchDepth

def add (g : OpenGroup) (p : Part) : OpenGroup := { g with parts := p :: g.parts }

def branch (g : OpenGroup) : OpenGroup :=
  { g with parts := [], branches := g.branchDepth :: g.branches }

/-- The group after a sign of repetition. -/
def repeated (g : OpenGroup) : Option OpenGroup :=
  match g.parts with
  | ⟨depth, true⟩ :: parts => some { g with parts := { depth := depth + 1 } :: parts }
  | _ => none

end OpenGroup

def isGroupName : List Char → Bool
  | [] => false
  | first :: rest =>
    (first = '_' || Text.isAlphabetic first) &&
      rest.all fun c => ['_', '.', '[', ']'].contains c || Text.isAlphanumeric c

/-- An expression in the course of its reading. -/
structure Reader where
  group : OpenGroup := {}
  outer : List OpenGroup := []
  /-- The names of groups so far. -/
  names : List String := []
  deriving DecidableEq, Repr

namespace Reader

def add (r : Reader) (p : Part) : Reader := { r with group := r.group.add p }

def openWith (r : Reader) (options : Options) : Reader :=
  { r with group := { options }, outer := r.group :: r.outer }

/-- Reads the name of a group behind its opening mark. -/
def named (r : Reader) (cs : List Char) : Option (Reader × List Char) :=
  let name := cs.takeWhile (· ≠ '>')
  match cs.drop name.length with
  | [] => none
  | _ :: rest =>
    if isGroupName name && !r.names.contains (String.ofList name) then
      some ({ r.openWith r.group.options with names := String.ofList name :: r.names }, rest)
    else none

/-- Reads what follows an opening parenthesis. Options without a group are a part that nothing
repeats. -/
def opened (r : Reader) (cs : List Char) : Option (Reader × List Char) :=
  match r.group.options.skip cs with
  | '?' :: 'P' :: '<' :: rest => r.named rest
  | '?' :: '<' :: rest => r.named rest
  | '?' :: rest =>
    (r.group.options.read [] rest).map fun (options, opens, rest) =>
      if opens then (r.openWith options, rest)
      else ({ r with group := { r.group with options } }.add { repeatable := false }, rest)
  | rest => some (r.openWith r.group.options, rest)

def closed (r : Reader) : Option Reader :=
  match r.outer with
  | [] => none
  | around :: outer =>
    some { r with group := around.add { depth := r.group.depth + 1 }, outer }

def step (r : Reader) (c : Char) (rest : List Char) : Option (Reader × List Char) :=
  match c with
  | '(' => r.opened rest
  | ')' => r.closed.map fun r => (r, rest)
  | '|' => some ({ r with group := r.group.branch }, rest)
  | '[' => (readSet r.group.options rest).map fun (depth, rest) => (r.add { depth }, rest)
  | '*' | '+' | '?' =>
    r.group.repeated.map fun group =>
      ({ r with group }, if rest.head? = some '?' then rest.drop 1 else rest)
  | '{' => none
  | c => do
    let (p, rest) ← readPrimitive r.group.options c rest
    if r.group.options.admits p then some (r.add {}, rest) else none

def isComplete (r : Reader) : Bool := r.outer.isEmpty && r.group.depth ≤ deepest

/-- Reads the rest of an expression; the fuel bounds the number of parts. -/
def completes (r : Reader) : Nat → List Char → Bool
  | 0, _ => false
  | fuel + 1, cs =>
    match r.group.options.skip cs with
    | [] => r.isComplete
    | c :: rest =>
      match r.step c rest with
      | none => false
      | some (r, rest) => r.completes fuel rest

end Reader

def isWellFormed (text : String) : Bool :=
  Reader.completes {} (text.toList.length + 1) text.toList

example : isWellFormed "" ∧ isWellFormed "x.*" ∧ isWellFormed "[]a]+|(?P<n>y)" := by
  decide +kernel
example : ¬isWellFormed "*" ∧ ¬isWellFormed "(a" ∧ ¬isWellFormed "[a" ∧ ¬isWellFormed "a\\" := by
  decide +kernel
example : ¬isWellFormed "(?i)a" ∧ isWellFormed "(?i-u)a" ∧ ¬isWellFormed "(?-u)." := by
  decide +kernel

end ScanLatency.Expression
