import ScanLatency.IoError

/-! Paths, taken apart into the components that a walk looks up one after the other, and the places
that they lead to. -/
namespace ScanLatency

/-- A place in the tree of directories: the names that lead to it, the last one first. -/
abbrev Place := List String

/-- A path taken apart: whether it starts at the root, the components of its directory, its last
component, and whether slashes follow that. -/
structure Path where
  fromRoot : Bool
  parents : List String
  last : String
  slashed : Bool
  deriving DecidableEq, Repr

namespace Path

/-- The most bytes of one component. -/
abbrev componentLimit : Nat := 255

/-- The bytes from which on a path is too long. -/
abbrev sizeLimit : Nat := 4096

/-- The most links that are followed on the way along one path. -/
abbrev linkLimit : Nat := 40

/-- The parts of a text between slashes; there is always one more than there are slashes. -/
def cut : List Char → List (List Char)
  | [] => [[]]
  | c :: rest =>
    if c = '/' then [] :: cut rest
    else match cut rest with
      | [] => [[c]]
      | part :: parts => (c :: part) :: parts

/-- Takes a path apart. Slashes next to each other leave empty components, which lead nowhere. -/
def ofString (path : String) : Path :=
  let parts := (cut path.toList).map String.ofList
  let named := parts.reverse.dropWhile (· = "")
  { fromRoot := path.toList.head? = some '/'
    parents := named.tail.reverse
    last := named.headD ""
    slashed := parts.getLast? = some "" }

/-- Refuses a path for its text alone. -/
def check (path : String) : Except IoError Unit :=
  if '\x00' ∈ path.toList then .error .nulInName
  else if path = "" then .error (.system ErrorNumber.notFound)
  else if sizeLimit ≤ path.utf8ByteSize then .error (.system ErrorNumber.nameTooLong)
  else .ok ()

/-- Whether a component leads to a directory that is there in any case. -/
def isFixed (component : String) : Bool := component = "" || component = "." || component = ".."

/-- Where a walk along the path starts, if it is met in a directory. -/
def start (p : Path) (directory : Place) : Place := if p.fromRoot then [] else directory

/-- All components. A slash at the end asks for a directory, as an empty component does. -/
def components (p : Path) : List String :=
  p.parents ++ [p.last] ++ if p.slashed then [""] else []

/-- The place that a component names in a directory, whether or not there is a file. The root is
its own parent. -/
def enter (directory : Place) (component : String) : Except IoError Place :=
  if component = "" ∨ component = "." then .ok directory
  else if component = ".." then .ok directory.tail
  else if componentLimit < component.utf8ByteSize then .error (.system ErrorNumber.nameTooLong)
  else .ok (component :: directory)

end Path
end ScanLatency
