import ScanLatency.OpenFile
import ScanLatency.Path

/-! Files by name. A file is known by its number; every name that has this number is a name of it,
and what is written under one name is read under all of them. A name can also stand for another path.
A walk looks up one component after the other, each in the directory reached so far, and goes on
along the paths that it meets. Opening for reading changes nothing. A write first empties its file,
or makes one, and what it does then stays, even if the system does not take all of the data. -/
namespace ScanLatency

/-- What a name stands for: a file, or a path to follow in its place. -/
inductive Entry
  | file (number : Nat)
  | link (target : Path)
  deriving DecidableEq, Repr

/-- Names, and the files by their numbers. The working directory and the directories around it need
no names; they are there in any case. -/
structure FileSystem where
  workingDirectory : Place := []
  entries : List (Place × Entry) := []
  files : Nat → File := fun _ => { kind := .regular .empty }

/-- What a path is followed for: a file that is there, or one to write, which may have to be made. -/
inductive Purpose
  | find
  | write
  deriving DecidableEq, Repr

/-- A path that ends in a slash or in no name leads to no file that could be written. -/
def Purpose.refuses : Purpose → String → List String → Bool
  | .write, component, [] => Path.isFixed component
  | .write, _, [""] => true
  | _, _, _ => false

/-- Why a write failed, and the files that it leaves behind. -/
structure FailedWrite where
  cause : IoError
  files : FileSystem

def FailedWrite.message (w : FailedWrite) : String := w.cause.message

namespace FileSystem

def entryAt (fs : FileSystem) (place : Place) : Option Entry := fs.entries.lookup place

def fileAt (fs : FileSystem) (place : Place) : Option File :=
  match fs.entryAt place with
  | some (.file number) => some (fs.files number)
  | some (.link _) => none
  | none => if place.isSuffixOf fs.workingDirectory then some { kind := .directory } else none

/-- The refusal to look a component up at a place. -/
def searchRefusal (fs : FileSystem) (place : Place) (component : String) : Option Nat :=
  match fs.fileAt place with
  | some file => file.lookupRefusal component
  | none => some ErrorNumber.notADirectory

/-- Follows components up to the first link, and goes on from there as `follow` says. -/
def along (fs : FileSystem) (purpose : Purpose)
    (follow : Place → List String → Except IoError Place) :
    Place → List String → Except IoError Place
  | place, [] => .ok place
  | place, component :: rest =>
    match fs.searchRefusal place component with
    | some number => .error (.system number)
    | none =>
      if purpose.refuses component rest then .error (.system ErrorNumber.isADirectory)
      else match Path.enter place component with
        | .error cause => .error cause
        | .ok next =>
          match fs.entryAt next with
          | some (.link target) => follow (target.start place) (target.components ++ rest)
          | _ =>
            if (fs.fileAt next).isSome then fs.along purpose follow next rest
            else if purpose = .write ∧ rest = [] then .ok next
            else .error (.system ErrorNumber.notFound)

/-- Follows components and as many links as allowed. -/
def walk (fs : FileSystem) (purpose : Purpose) :
    Nat → Place → List String → Except IoError Place
  | 0, place, components =>
    fs.along purpose (fun _ _ => .error (.system ErrorNumber.tooManyLinks)) place components
  | links + 1, place, components =>
    fs.along purpose (fun next rest => fs.walk purpose links next rest) place components

/-- The place that a whole path leads to. -/
def follow (fs : FileSystem) (purpose : Purpose) (path : String) : Except IoError Place :=
  match Path.check path with
  | .error cause => .error cause
  | .ok () =>
    let p := Path.ofString path
    fs.walk purpose Path.linkLimit (p.start fs.workingDirectory) p.components

/-- The place of the file that a path leads to. -/
def resolve (fs : FileSystem) (path : String) : Except IoError Place := fs.follow .find path

/-- The place that a write to a path goes to. -/
def destination (fs : FileSystem) (path : String) : Except IoError Place := fs.follow .write path

def openFile (fs : FileSystem) (path : String) : Except IoError OpenFile :=
  match fs.resolve path with
  | .error cause => .error cause
  | .ok place =>
    match fs.fileAt place with
    | none => .error (.system ErrorNumber.notFound)
    | some file =>
      match file.openRefusal with
      | some number => .error (.system number)
      | none => .ok { file }

def update (fs : FileSystem) (number : Nat) (file : File) : FileSystem :=
  { fs with files := fun n => if n = number then file else fs.files n }

/-- Makes a place a name of a file. -/
def name (fs : FileSystem) (place : Place) (number : Nat) : FileSystem :=
  { fs with entries := (place, .file number) :: fs.entries }

/-- A number that no file has. -/
def fresh (fs : FileSystem) : Nat :=
  fs.entries.foldr (fun entry bound =>
    match entry.2 with
    | .file number => max (number + 1) bound
    | .link _ => bound) 0

/-- Puts a file of its own at a place. -/
def put (fs : FileSystem) (place : Place) (file : File) : FileSystem :=
  (fs.update fs.fresh file).name place fs.fresh

/-- Files with one name each. -/
def ofFiles (files : List (Place × File)) : FileSystem :=
  files.foldl (fun fs (place, file) => fs.put place file) {}

/-- Puts a file where a path leads if every component of it is a name. -/
def install (fs : FileSystem) (path : String) (file : File) : FileSystem :=
  let p := Path.ofString path
  fs.put (p.last :: (p.parents.reverse ++ p.start fs.workingDirectory)) file

/-- Opens the file at a place for writing, which empties it, or makes one, for which the directory
has to let itself be written. A link is not followed any more. -/
def create (fs : FileSystem) (place : Place) : Except IoError (Nat × FileSystem) :=
  match fs.entryAt place with
  | some (.link _) => .error (.system ErrorNumber.tooManyLinks)
  | some (.file number) =>
    match (fs.files number).overwriteRefusal with
    | some refusal => .error (.system refusal)
    | none => .ok (number, fs.update number ((fs.files number).holding .empty))
  | none =>
    if (fs.fileAt place).isSome then .error (.system ErrorNumber.isADirectory)
    else
      let directory := fs.fileAt place.tail
      match directory.bind (·.writeRefusal) with
      | some refusal => .error (.system refusal)
      | none => .ok (fs.fresh, fs.put place
          { kind := .regular .empty, writeLimit := directory.bind (·.writeLimit) })

/-- Writes to a file that is open and empty. -/
def writeAll (fs : FileSystem) (number : Nat) (data : Bytes) : Except FailedWrite FileSystem :=
  let file := fs.files number
  let after := fs.update number (file.holding (file.accepted data))
  match file.shortfall data with
  | some refusal => .error ⟨.system refusal, after⟩
  | none => .ok after

/-- Writes a file, which is made if it is not there. -/
def write (fs : FileSystem) (path : String) (data : Bytes) : Except FailedWrite FileSystem :=
  match fs.destination path with
  | .error cause => .error ⟨cause, fs⟩
  | .ok place =>
    match fs.create place with
    | .error cause => .error ⟨cause, fs⟩
    | .ok (number, opened) => opened.writeAll number data

/-! ### What changes where -/

variable (fs : FileSystem) {place other : Place} {number : Nat}

theorem fileAt_of_entryAt {fs : FileSystem} (h : fs.entryAt place = some (.file number)) :
    fs.fileAt place = some (fs.files number) := by
  simp only [fileAt, h]

@[simp] theorem files_update_self (file : File) : (fs.update number file).files number = file :=
  if_pos rfl

theorem fileAt_update_self {fs : FileSystem} (h : fs.entryAt place = some (.file number))
    (file : File) : (fs.update number file).fileAt place = some file := by
  have hentry : (fs.update number file).entryAt place = some (.file number) := h
  rw [fileAt_of_entryAt hentry, files_update_self]

theorem fileAt_update_of_ne {fs : FileSystem} (h : fs.entryAt place ≠ some (.file number))
    (file : File) : (fs.update number file).fileAt place = fs.fileAt place := by
  show (match fs.entryAt place with
    | some (.file n) => some (if n = number then file else fs.files n)
    | some (.link _) => none
    | none => _) = fs.fileAt place
  unfold fileAt
  cases hentry : fs.entryAt place with
  | none => rfl
  | some entry =>
    cases entry with
    | link target => rfl
    | file n =>
      have hne : n ≠ number := by
        rintro rfl
        exact h hentry
      exact congrArg some (if_neg hne)

@[simp] theorem update_update (file later : File) :
    (fs.update number file).update number later = fs.update number later := by
  unfold update
  congr 1
  funext n
  by_cases hn : n = number <;> simp [hn]

theorem lt_fresh {fs : FileSystem} (h : fs.entryAt place = some (.file number)) :
    number < fs.fresh := by
  unfold entryAt at h
  unfold fresh
  generalize fs.entries = entries at h ⊢
  induction entries with
  | nil => cases h
  | cons entry entries ih =>
    obtain ⟨name, entry⟩ := entry
    rw [List.foldr_cons]
    rw [List.lookup_cons] at h
    split at h
    · cases h
      exact Nat.lt_of_lt_of_le (Nat.lt_succ_self number) (Nat.le_max_left _ _)
    · cases entry with
      | file n => exact Nat.lt_of_lt_of_le (ih h) (Nat.le_max_right _ _)
      | link target => exact ih h

theorem entryAt_put_of_ne {fs : FileSystem} (h : other ≠ place) (file : File) :
    (fs.put place file).entryAt other = fs.entryAt other := by
  have hne : (other == place) = false := by simpa using h
  simp [put, name, entryAt, update, List.lookup_cons, hne]

theorem fileAt_put_of_ne {fs : FileSystem} (h : other ≠ place) (file : File) :
    (fs.put place file).fileAt other = fs.fileAt other := by
  have hfresh : fs.entryAt other ≠ some (.file fs.fresh) := fun hentry =>
    absurd (lt_fresh hentry) (Nat.lt_irrefl _)
  rw [← fileAt_update_of_ne hfresh file]
  unfold fileAt
  rw [entryAt_put_of_ne h]
  rfl

end FileSystem
end ScanLatency
