import ScanLatency.Expression.Primitive

/-! Sets of characters between brackets: characters, ranges, classes, other sets, and operators
between them. Reading a set gives its depth. -/
namespace ScanLatency.Expression

def classNames : List String := [
  "alnum", "alpha", "ascii", "blank", "cntrl", "digit", "graph", "lower", "print", "punct",
  "space", "upper", "word", "xdigit"]

/-- Reads the name of a class and the marks around it, behind a bracket. Gives whether the
complement is meant. -/
def readNamed? : List Char → Option (Bool × List Char)
  | ':' :: rest =>
    let complement := rest.head? = some '^'
    let rest := if complement then rest.drop 1 else rest
    let name := rest.takeWhile (· ≠ ':')
    match rest.drop name.length with
    | ':' :: ']' :: rest =>
      if classNames.contains (String.ofList name) then some (complement, rest) else none
    | _ => none
  | _ => none

/-- Where a reader stands in a set. At the start some marks have another meaning. -/
inductive Place
  /-- Behind the opening bracket. -/
  | start
  /-- Behind the mark of a complement. -/
  | first
  /-- Behind hyphens at the start. -/
  | hyphens
  | inside
  deriving DecidableEq, Repr

/-- A set whose closing bracket is still to come. -/
structure OpenSet where
  place : Place := .start
  /-- The depths of the members behind the last operator. -/
  members : List Nat := []
  /-- The depth of what stands before the last operator. -/
  left : Option Nat := none
  deriving DecidableEq, Repr

namespace OpenSet

def depth (s : OpenSet) : Nat :=
  match s.left with
  | none => joinedDepth s.members
  | some left => 1 + max left (joinedDepth s.members)

def add (s : OpenSet) (depth : Nat) (place : Place := .inside) : OpenSet :=
  { s with place, members := depth :: s.members }

/-- The set behind an operator. -/
def operator (s : OpenSet) : OpenSet := { place := .inside, left := some s.depth }

end OpenSet

/-- The characters that are operators when they are doubled. -/
def operators : List Char := ['&', '-', '~']

/-- Reads a member or a range. A hyphen before a closing bracket or another hyphen makes none. -/
def readRange (o : Options) (c : Char) (rest : List Char) : Option (List Char) := do
  let (first, rest) ← readMember o c rest
  let single := if o.admitsMember first then some (o.skip rest) else none
  match o.skip rest with
  | '-' :: more =>
    if o.peek more = some ']' || o.peek more = some '-' then single
    else match o.skip more with
      | [] => none
      | c :: rest => do
        let (last, rest) ← readMember o c rest
        if o.admitsRange first last then some rest else none
  | _ => single

/-- Reads a set up to its closing bracket; `outer` holds the sets around it, and the fuel bounds the
number of steps. -/
def readSetFrom (o : Options) :
    Nat → OpenSet → List OpenSet → List Char → Option (Nat × List Char)
  | 0, _, _, _ => none
  | fuel + 1, s, outer, cs =>
    match o.skip cs with
    | [] => none
    | c :: rest =>
      let isFirst := s.place = .start || s.place = .first
      if c = '^' && s.place = .start then
        if o.admitsComplement then readSetFrom o fuel { s with place := .first } outer rest
        else none
      else if c = '-' && s.place ≠ .inside then
        if o.admitsMember (.character c) then readSetFrom o fuel (s.add 0 .hyphens) outer rest
        else none
      else if c = ']' && isFirst then
        if o.admitsMember (.character c) then readSetFrom o fuel (s.add 0) outer rest else none
      else if c = ']' then
        match outer with
        | [] => some (1 + s.depth, rest)
        | around :: outer => readSetFrom o fuel (around.add (1 + s.depth)) outer rest
      else if c = '[' then
        match readNamed? rest with
        | some (complement, rest) =>
          if o.admitsNamed complement then readSetFrom o fuel (s.add 0) outer rest else none
        | none => readSetFrom o fuel {} (s :: outer) rest
      else if operators.contains c && rest.head? = some c then
        readSetFrom o fuel s.operator outer (rest.drop 1)
      else match readRange o c rest with
        | none => none
        | some rest => readSetFrom o fuel (s.add 0) outer rest

/-- Reads a set behind its opening bracket; gives its depth. -/
def readSet (o : Options) (cs : List Char) : Option (Nat × List Char) :=
  readSetFrom o (cs.length + 1) {} [] cs

example : readSet {} "]a-z]x".toList = some (2, ['x']) := by decide +kernel
example : readSet {} "z-a]".toList = none ∧ readSet {} "a".toList = none := by decide +kernel
example : readSet {} "[:^alpha:]&&[a]]".toList = some (3, []) := by decide +kernel

end ScanLatency.Expression
