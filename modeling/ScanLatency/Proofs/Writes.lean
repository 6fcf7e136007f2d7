import Mathlib.Data.Nat.Notation
import ScanLatency.FileSystem

/-! What a write does to files. It empties the file at its destination and gives it what the system
takes of the data, or makes a file there. Every name of that file shows the new bytes; every other
file is what it was. Paths lead on to the files that they led to. -/
namespace ScanLatency

namespace File

variable (f : File) (data : Bytes)

@[simp] theorem holding_holding (first : Bytes) :
    (f.holding first).holding data = f.holding data := by
  unfold holding
  cases hkind : f.kind <;> simp only [hkind]

@[simp] theorem accepted_holding (first : Bytes) :
    (f.holding first).accepted data = f.accepted data := by
  unfold holding
  cases f.kind <;> rfl

@[simp] theorem shortfall_holding (first : Bytes) :
    (f.holding first).shortfall data = f.shortfall data := by
  unfold holding
  cases f.kind <;> rfl

/-- The system takes all data just if it refuses none. -/
theorem shortfall_eq_none_iff : f.shortfall data = none ↔ f.accepted data = data := by
  unfold shortfall accepted
  cases f.writeLimit with
  | none => exact iff_of_true rfl rfl
  | some limit => simp [Bytes.take_eq_self_iff]

@[simp] theorem lookupRefusal_holding (name : String) :
    (f.holding data).lookupRefusal name = f.lookupRefusal name := by
  unfold holding
  cases hkind : f.kind <;> simp only [lookupRefusal, hkind, FileKind.isDirectory]

end File

namespace FileSystem

/-- Two places are names of one file. -/
def Shared (fs : FileSystem) (place other : Place) : Prop :=
  place = other ∨ ∃ number, fs.entryAt place = some (.file number) ∧
    fs.entryAt other = some (.file number)

def leftBehind : Except FailedWrite FileSystem → FileSystem
  | .ok after => after
  | .error failed => failed.files

def afterWrite (fs : FileSystem) (path : String) (data : Bytes) : FileSystem :=
  leftBehind (fs.write path data)

variable {fs opened : FileSystem} {path : String} {place other destination : Place} {data : Bytes}
  {number : ℕ}

theorem leftBehind_writeAll (fs : FileSystem) (number : ℕ) (data : Bytes) :
    leftBehind (fs.writeAll number data) =
      fs.update number ((fs.files number).holding ((fs.files number).accepted data)) := by
  simp only [writeAll]
  cases (fs.files number).shortfall data <;> rfl

/-- A file that opens for writing is there and has been emptied, or has just been made. -/
theorem create_ok (h : fs.create place = .ok (number, opened)) :
    (fs.entryAt place = some (.file number) ∧ (fs.files number).overwriteRefusal = none ∧
        opened = fs.update number ((fs.files number).holding .empty)) ∨
      fs.entryAt place = none ∧ fs.fileAt place = none ∧ number = fs.fresh ∧
        ∃ made, opened = fs.put place made := by
  unfold create at h
  split at h
  next => cases h
  next hentry =>
    split at h
    next => cases h
    next hrefusal =>
      cases h
      exact .inl ⟨hentry, hrefusal, rfl⟩
  next hentry =>
    split at h
    next => cases h
    next hnone =>
      simp only at h
      split at h
      next => cases h
      next =>
        cases h
        exact .inr ⟨hentry, by simpa using hnone, rfl, _, rfl⟩

theorem update_put (fs : FileSystem) (place : Place) (made file : File) :
    (fs.put place made).update fs.fresh file = fs.put place file :=
  congrArg (name · place fs.fresh) (update_update fs made file)

/-- Everything that a write can do to files: nothing, new bytes for the file at its destination, or a
file where there was none. -/
theorem afterWrite_cases (fs : FileSystem) (path : String) (data : Bytes) :
    fs.afterWrite path data = fs ∨
    ∃ place, fs.destination path = .ok place ∧
      ((∃ number bytes, fs.entryAt place = some (.file number) ∧
          fs.afterWrite path data = fs.update number ((fs.files number).holding bytes)) ∨
        fs.entryAt place = none ∧ fs.fileAt place = none ∧
          ∃ file, fs.afterWrite path data = fs.put place file) := by
  unfold afterWrite write
  cases hdestination : fs.destination path with
  | error cause => exact .inl rfl
  | ok place =>
    simp only
    cases hcreate : fs.create place with
    | error cause => exact .inl rfl
    | ok created =>
      obtain ⟨number, opened⟩ := created
      simp only [leftBehind_writeAll]
      refine .inr ⟨place, rfl, ?_⟩
      rcases create_ok hcreate with ⟨hentry, -, rfl⟩ | ⟨hentry, hnone, rfl, made, rfl⟩
      · refine .inl ⟨number, (fs.files number).accepted data, hentry, ?_⟩
        rw [update_update, files_update_self, File.accepted_holding, File.holding_holding]
      · exact .inr ⟨hentry, hnone, _, update_put fs place made _⟩

/-- A write to a file that is there is refused, or replaces its bytes by those that the system takes. -/
theorem write_of_entryAt (data : Bytes) (hdestination : fs.destination path = .ok place)
    (hentry : fs.entryAt place = some (.file number)) :
    fs.write path data =
      let file := fs.files number
      let after := fs.update number (file.holding (file.accepted data))
      match file.overwriteRefusal with
      | some refusal => .error ⟨.system refusal, fs⟩
      | none =>
        match file.shortfall data with
        | some refusal => .error ⟨.system refusal, after⟩
        | none => .ok after := by
  simp only [write, hdestination, create, hentry]
  cases (fs.files number).overwriteRefusal with
  | some refusal => rfl
  | none =>
    cases hshortfall : (fs.files number).shortfall data <;>
      simp only [writeAll, files_update_self, update_update, File.holding_holding,
        File.accepted_holding, File.shortfall_holding, hshortfall]

/-- Files other than the one at the destination of a write are what they were. -/
theorem fileAt_afterWrite_of_apart
    (hapart : ∀ destination, fs.destination path = .ok destination → ¬fs.Shared destination place) :
    (fs.afterWrite path data).fileAt place = fs.fileAt place := by
  rcases afterWrite_cases fs path data with hsame | ⟨destination, hdestination, hcases⟩
  · rw [hsame]
  · have hnot := hapart destination hdestination
    rcases hcases with ⟨number, bytes, hentry, hafter⟩ | ⟨-, -, file, hafter⟩
    · rw [hafter]
      exact fileAt_update_of_ne (fun hplace => hnot (.inr ⟨number, hentry, hplace⟩)) _
    · rw [hafter]
      exact fileAt_put_of_ne (fun heq => hnot (.inl heq.symm)) file

/-- What becomes of a file that a write goes to, seen under one of its names. -/
structure Overwritten (fs : FileSystem) (path : String) (data : Bytes) (other : Place)
    (file : File) : Prop where
  refused : ∀ refusal, file.overwriteRefusal = some refusal →
    fs.write path data = .error ⟨.system refusal, fs⟩
  replaced : file.overwriteRefusal = none →
    (fs.afterWrite path data).fileAt other = some (file.holding (file.accepted data))
  returned_iff : file.overwriteRefusal = none →
    ((∃ after, fs.write path data = .ok after) ↔ file.shortfall data = none)

theorem Overwritten.of_refused {file : File} {refusal : ℕ}
    (hrefusal : file.overwriteRefusal = some refusal)
    (hwrite : fs.write path data = .error ⟨.system refusal, fs⟩) :
    fs.Overwritten path data other file where
  refused := by
    rw [hrefusal]
    rintro _ ⟨⟩
    exact hwrite
  replaced := by
    rw [hrefusal]
    exact nofun
  returned_iff := by
    rw [hrefusal]
    exact nofun

theorem overwritten_of_entryAt (hdestination : fs.destination path = .ok place)
    (hplace : fs.entryAt place = some (.file number))
    (hother : fs.entryAt other = some (.file number)) :
    fs.Overwritten path data other (fs.files number) := by
  have hwrite := write_of_entryAt data hdestination hplace
  cases hrefusal : (fs.files number).overwriteRefusal with
  | some refusal =>
    simp only [hrefusal] at hwrite
    exact .of_refused hrefusal hwrite
  | none =>
    simp only [hrefusal] at hwrite
    refine ⟨by simp [hrefusal], fun _ => ?_, fun _ => ?_⟩
    · rw [afterWrite, hwrite]
      cases (fs.files number).shortfall data <;> exact fileAt_update_self hother _
    · rw [hwrite]
      cases (fs.files number).shortfall data with
      | some refusal => exact iff_of_false nofun nofun
      | none => exact iff_of_true ⟨_, rfl⟩ rfl

/-- A directory without a name is there in any case, and no write goes to it. -/
theorem overwritten_of_fixed (hdestination : fs.destination path = .ok place)
    (hentry : fs.entryAt place = none) {file : File} (hfile : fs.fileAt place = some file) :
    fs.Overwritten path data place file := by
  have hrefusal : file.overwriteRefusal = some ErrorNumber.isADirectory := by
    rw [fileAt, hentry] at hfile
    simp only at hfile
    split at hfile
    · cases hfile
      rfl
    · cases hfile
  refine .of_refused hrefusal ?_
  simp only [write, hdestination, create, hentry, hfile, Option.isSome_some, if_true]

theorem overwritten_of_shared (hdestination : fs.destination path = .ok place)
    (hshared : fs.Shared place other) {file : File} (hfile : fs.fileAt other = some file) :
    fs.Overwritten path data other file := by
  have hnumber {n : ℕ} (hother : fs.entryAt other = some (.file n)) : fs.files n = file :=
    Option.some.inj ((fileAt_of_entryAt hother).symm.trans hfile)
  rcases hshared with rfl | ⟨number, hplace, hother⟩
  · cases hentry : fs.entryAt place with
    | none => exact overwritten_of_fixed hdestination hentry hfile
    | some entry =>
      cases entry with
      | file number => exact hnumber hentry ▸ overwritten_of_entryAt hdestination hentry hentry
      | link target =>
        rw [fileAt, hentry] at hfile
        cases hfile
  · exact hnumber hother ▸ overwritten_of_entryAt hdestination hplace hother

/-! ### Paths lead on to the same files -/

/-- Later files in which every path leads where it led, to a directory if it led to one. -/
structure Extends (fs fs' : FileSystem) : Prop where
  workingDirectory_eq : fs'.workingDirectory = fs.workingDirectory
  entryAt_eq : ∀ place, fs.entryAt place ≠ none ∨ (fs.fileAt place).isSome →
    fs'.entryAt place = fs.entryAt place
  isSome_fileAt : ∀ place, (fs.fileAt place).isSome → (fs'.fileAt place).isSome
  searchRefusal_eq : ∀ place component, (fs.fileAt place).isSome →
    fs'.searchRefusal place component = fs.searchRefusal place component

theorem isSome_of_searchRefusal {component : String} (h : fs.searchRefusal place component = none) :
    (fs.fileAt place).isSome := by
  unfold searchRefusal at h
  cases hfile : fs.fileAt place with
  | none =>
    rw [hfile] at h
    cases h
  | some file => rfl

namespace Extends

variable {fs' : FileSystem} (h : fs.Extends fs')
include h

theorem along {follow follow' : Place → List String → Except IoError Place}
    (hfollow : ∀ next rest found, follow next rest = .ok found → follow' next rest = .ok found)
    {components : List String} {found : Place}
    (hfound : fs.along .find follow place components = .ok found) :
    fs'.along .find follow' place components = .ok found := by
  induction components generalizing place with
  | nil => exact hfound
  | cons component rest ih =>
    rw [FileSystem.along] at hfound ⊢
    cases hsearch : fs.searchRefusal place component with
    | some refusal =>
      rw [hsearch] at hfound
      cases hfound
    | none =>
      rw [h.searchRefusal_eq place component (isSome_of_searchRefusal hsearch), hsearch]
      rw [hsearch] at hfound
      simp only [Purpose.refuses, Bool.false_eq_true, if_false] at hfound ⊢
      cases hnext : Path.enter place component with
      | error cause =>
        rw [hnext] at hfound
        cases hfound
      | ok next =>
        simp only [hnext] at hfound ⊢
        split at hfound
        next target hentry =>
          have hkept := h.entryAt_eq next (.inl (by simp [hentry]))
          simp only [hkept, hentry]
          exact hfollow _ _ _ hfound
        next hfile =>
          split at hfound
          next hsome =>
            have hkept := h.entryAt_eq next (.inr hsome)
            have hsome' := h.isSome_fileAt next hsome
            split
            next target hentry => exact absurd (hkept ▸ hentry) (hfile target)
            next =>
              rw [if_pos hsome']
              exact ih hfound
          next => simp at hfound

/-- In files that extend others, a walk to a file that was there finds it again. -/
theorem walk {links : ℕ} {components : List String} {found : Place}
    (hfound : fs.walk .find links place components = .ok found) :
    fs'.walk .find links place components = .ok found := by
  induction links generalizing place components found with
  | zero => exact h.along (fun _ _ _ hnone => by cases hnone) hfound
  | succ links ih => exact h.along (fun _ _ _ hfollow => ih hfollow) hfound

theorem resolve (hfound : fs.resolve path = .ok place) : fs'.resolve path = .ok place := by
  unfold FileSystem.resolve follow at hfound ⊢
  split at hfound
  next => cases hfound
  next hcheck =>
    simp only [h.workingDirectory_eq]
    exact h.walk hfound

end Extends

theorem extends_update (fs : FileSystem) (number : ℕ) (bytes : Bytes) :
    fs.Extends (fs.update number ((fs.files number).holding bytes)) where
  workingDirectory_eq := rfl
  entryAt_eq := fun _ _ => rfl
  isSome_fileAt := by
    intro place hsome
    by_cases hentry : fs.entryAt place = some (.file number)
    · rw [fileAt_update_self hentry]
      rfl
    · rwa [fileAt_update_of_ne hentry]
  searchRefusal_eq := by
    intro place component hsome
    unfold searchRefusal
    by_cases hentry : fs.entryAt place = some (.file number)
    · rw [fileAt_update_self hentry, fileAt_of_entryAt hentry]
      exact File.lookupRefusal_holding _ _ _
    · rw [fileAt_update_of_ne hentry]

theorem extends_put (hentry : fs.entryAt place = none) (hnone : fs.fileAt place = none) (file : File) :
    fs.Extends (fs.put place file) where
  workingDirectory_eq := rfl
  entryAt_eq := by
    intro other hother
    refine entryAt_put_of_ne ?_ file
    rintro rfl
    simp [hentry, hnone] at hother
  isSome_fileAt := by
    intro other hother
    have hne : other ≠ place := by
      rintro rfl
      simp [hnone] at hother
    rwa [fileAt_put_of_ne hne]
  searchRefusal_eq := by
    intro other component hother
    have hne : other ≠ place := by
      rintro rfl
      simp [hnone] at hother
    unfold searchRefusal
    rw [fileAt_put_of_ne hne]

theorem extends_afterWrite (fs : FileSystem) (path : String) (data : Bytes) :
    fs.Extends (fs.afterWrite path data) := by
  rcases afterWrite_cases fs path data with hsame | ⟨place, -, hcases⟩
  · rw [hsame]
    exact ⟨rfl, fun _ _ => rfl, fun _ => id, fun _ _ _ => rfl⟩
  · rcases hcases with ⟨number, bytes, -, hafter⟩ | ⟨hentry, hnone, file, hafter⟩
    · rw [hafter]
      exact extends_update fs number bytes
    · rw [hafter]
      exact extends_put hentry hnone file

/-- A path that led to another file opens it as before. -/
theorem openFile_afterWrite_of_apart {name : String} (hresolve : fs.resolve name = .ok place)
    (hapart : ∀ destination, fs.destination path = .ok destination → ¬fs.Shared destination place) :
    (fs.afterWrite path data).openFile name = fs.openFile name := by
  have hkept := (extends_afterWrite fs path data).resolve hresolve
  simp only [openFile, hresolve, hkept, fileAt_afterWrite_of_apart hapart]

end FileSystem
end ScanLatency
