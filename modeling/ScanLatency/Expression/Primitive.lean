import ScanLatency.Expression.Options

/-! The parts of regular expressions that hold no other parts, and which of them the options admit.
Classes of words, digits and blanks and the other case of a letter need tables of all scripts, so
they are refused where all scripts count. Where bytes count, nothing may match half a character:
bytes beyond the first half and complements are refused. -/
namespace ScanLatency.Expression

inductive Primitive
  /-- A character, and whether it is written as a byte. -/
  | character (c : Char) (asByte : Bool := false)
  /-- A class that a letter stands for, or its complement. -/
  | letterClass (complement : Bool)
  /-- A position in the text; whether words decide about it. -/
  | position (ofWords : Bool)
  /-- Every character of a line. -/
  | anything
  deriving DecidableEq, Repr

namespace Options

/-- Whether a part is admitted outside of brackets. -/
def admits (o : Options) : Primitive → Bool
  | .character c asByte => if o.allScripts then !o.caseless else !asByte || c.toNat < 128
  | .letterClass complement => !o.allScripts && !complement
  | .position ofWords => !ofWords || !o.allScripts
  | .anything => o.allScripts

/-- Whether a part is admitted as a member of a set. -/
def admitsMember (o : Options) : Primitive → Bool
  | .character c _ => if o.allScripts then !o.caseless else c.toNat < 128
  | .letterClass complement => !o.allScripts && !complement
  | .position _ | .anything => false

/-- Whether a class with a name is admitted as a member of a set. -/
def admitsNamed (o : Options) (complement : Bool) : Bool :=
  if o.allScripts then !o.caseless else !complement

/-- Whether the complement of a set is admitted. -/
def admitsComplement (o : Options) : Bool := o.allScripts

/-- The characters from one to another, as members of a set. -/
def admitsRange (o : Options) : Primitive → Primitive → Bool
  | .character first x, .character last y =>
    first ≤ last && o.admitsMember (.character first x) && o.admitsMember (.character last y)
  | _, _ => false

end Options

def hexValue? (c : Char) : Option Nat :=
  if '0' ≤ c && c ≤ '9' then some (c.toNat - '0'.toNat)
  else if 'a' ≤ c && c ≤ 'f' then some (c.toNat - 'a'.toNat + 10)
  else if 'A' ≤ c && c ≤ 'F' then some (c.toNat - 'A'.toNat + 10)
  else none

/-- Reads a number of hexadecimal digits behind those that gave a value. -/
def readHex (o : Options) : Nat → Nat → List Char → Option (Nat × List Char)
  | 0, value, cs => some (value, cs)
  | count + 1, value, cs =>
    match o.skip cs with
    | [] => none
    | c :: rest => do readHex o count (16 * value + (← hexValue? c)) rest

/-- How many hexadecimal digits follow a letter behind a backslash. -/
def hexWidth? : Char → Option Nat
  | 'x' => some 2
  | 'u' => some 4
  | 'U' => some 8
  | _ => none

/-- What a single character behind a backslash stands for. Marks stand for themselves; classes of
all scripts have no letter here. -/
def escaped? (c : Char) : Option Primitive :=
  match c with
  | 'a' => some (.character '\x07')
  | 'f' => some (.character '\x0c')
  | 't' => some (.character '\t')
  | 'n' => some (.character '\n')
  | 'r' => some (.character '\r')
  | 'v' => some (.character '\x0b')
  | 'd' | 's' | 'w' => some (.letterClass false)
  | 'D' | 'S' | 'W' => some (.letterClass true)
  | 'A' | 'z' => some (.position false)
  | 'b' | 'B' | '<' | '>' => some (.position true)
  | c => if c.isAlphanum || 128 ≤ c.toNat then none else some (.character c)

def readEscape (o : Options) : List Char → Option (Primitive × List Char)
  | [] => none
  | c :: rest =>
    match hexWidth? c with
    | none => (escaped? c).map fun p => (p, rest)
    | some width => do
      let (code, rest) ← readHex o width 0 rest
      if code.isValidChar then some (.character (Char.ofNat code) (c = 'x'), rest) else none

/-- Reads a part outside of brackets. -/
def readPrimitive (o : Options) (c : Char) (rest : List Char) : Option (Primitive × List Char) :=
  match c with
  | '\\' => readEscape o rest
  | '.' => some (.anything, rest)
  | '^' | '$' => some (.position false, rest)
  | c => some (.character c, rest)

def readMember (o : Options) (c : Char) (rest : List Char) : Option (Primitive × List Char) :=
  match c with
  | '\\' => readEscape o rest
  | c => some (.character c, rest)

example : readEscape {} "u00e9+".toList = some (.character 'é', ['+']) := by decide +kernel
example : readEscape {} "x4".toList = none ∧ readEscape {} "ud800".toList = none := by
  decide +kernel

end ScanLatency.Expression
