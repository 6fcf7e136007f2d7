import ScanLatency.Program
import Std.Time

/-! The command line. It copies the files that the arguments name, computes the outcome of the
program on the copy, prints it, and writes the exported report. The clock of such a run stands
still: it shows which reads a run makes and what they give, not how long a device takes. -/
namespace ScanLatency.CommandLine

/-- The variables that the program looks at. -/
def variableNames : List String :=
  Parameter.all.filterMap (·.standIn) ++ ["NO_COLOR", "FORCE_COLOR", "CLICOLOR_FORCE", "RUST_LOG"]

def readEnvironment : IO Environment := do
  let bindings ← variableNames.filterMapM fun name => do
    return (← IO.getEnv name).map fun value => (name, value)
  return { bindings, terminal := ← (← IO.getStdout).isTty }

def readTime : IO String := do
  let now ← Std.Time.Timestamp.now
  return (Std.Time.DateTime.ofTimestamp now Std.Time.TimeZone.ZoneRules.UTC).format
    "uuuu-MM-dd'T'HH:mm:ss.SSSSSSSSSxxx"

def readFresh : IO UInt64 := do
  let bytes ← IO.getRandomBytes 8
  return bytes.foldl (fun w b => (w <<< 8) ||| b.toUInt64) 0

def errorNumber : IO.Error → Nat
  | .noFileOrDirectory .. => 2
  | .permissionDenied .. => 13
  | _ => 5

/-- Copies what stands at a place, or what a link there leads to. -/
def copyPlace (fs : FileSystem) (place : Place) : IO FileSystem := do
  let path := (← IO.currentDir) / ("/" ++ "/".intercalate place.reverse)
  if ← path.isDir then return fs.put place { kind := .directory }
  else if ← path.pathExists then
    match ← (IO.FS.readBinFile path).toBaseIO with
    | .ok data => return fs.put place { kind := .regular (.ofArray data) }
    | .error e =>
      return fs.put place
        { kind := .regular (.ofArray .empty), openRefusal := some (errorNumber e) }
  else return fs

/-- Copies what stands along a path. -/
def copyAlong (fs : FileSystem) : Place → List String → IO FileSystem
  | _, [] => return fs
  | place, component :: rest =>
    match Path.enter place component with
    | .error _ => return fs
    | .ok next => do
      let fs ← if (fs.fileAt next).isSome then pure fs else copyPlace fs next
      copyAlong fs next rest

/-- Copies the files that the arguments name. -/
def copyFiles (g : Given) : IO FileSystem := do
  let here := (Path.cut (← IO.currentDir).toString.toList).map String.ofList
  let fs : FileSystem := { workingDirectory := (here.filter (· ≠ "")).reverse }
  (g.file.toList ++ g.json.toList).foldlM (fun fs name =>
    let p := Path.ofString name
    copyAlong fs (p.start fs.workingDirectory) (p.parents ++ [p.last])) fs

/-- An entry of standard error with the time at which it is printed. -/
def printEntry (time : String) (color : Bool) : ErrorEntry → IO Unit
  | .notice n => IO.eprintln s!"{time} {Console.logEntry n}"
  | .line l => IO.eprintln (Console.Line.render color l)

/-- Writes the exported report where the arguments want it. -/
def writeExport (g : Given) (o : Outcome) : IO Unit := do
  match g.json with
  | none => return
  | some path =>
    match o.files.openFile path with
    | .error _ => return
    | .ok f =>
      match f.file.kind with
      | .regular data => IO.FS.writeBinFile path data.toArray
      | _ => return

end ScanLatency.CommandLine

open ScanLatency ScanLatency.CommandLine

def main (arguments : List String) : IO UInt32 := do
  let environment ← readEnvironment
  let given := match CommandLine.parse environment.get? arguments with
    | .ok g => g
    | .error _ => {}
  let time ← readTime
  let i : Invocation := {
    arguments
    environment
    files := ← copyFiles given
    fresh := ← readFresh
    provenance := ⟨time, "linux x86_64"⟩ }
  let o := i.run
  IO.print o.output
  let color := (given.defaulted environment).color
  o.errors.forM (printEntry time color)
  if o.exitCode = Outcome.success then writeExport given o
  return UInt32.ofNat o.exitCode
