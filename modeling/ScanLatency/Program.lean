import ScanLatency.CommandLine.Settings
import ScanLatency.Console.LogEntry
import ScanLatency.Console.Report
import ScanLatency.Export
import ScanLatency.FileRun

/-! The program as a whole: from its arguments, its environment and the files to an exit code, two
outputs and the files that it leaves behind. -/
namespace ScanLatency
open Console

/-- All that the outcome of the program depends on. -/
structure Invocation where
  arguments : List String
  environment : CommandLine.Environment := {}
  files : FileSystem := {}
  /-- The readings that the clock shows one after the other. -/
  readings : Nat → UInt64 := fun _ => 0
  /-- The seed of the offsets if none is asked for. -/
  fresh : UInt64 := 0
  provenance : Provenance := ⟨"", ""⟩

/-- What is written to standard error: entries of the log, and lines. -/
inductive ErrorEntry
  | notice (n : Notice)
  | line (l : Line)
  deriving DecidableEq

/-- What the program leaves behind. -/
structure Outcome where
  exitCode : Nat
  output : String := ""
  errors : List ErrorEntry := []
  files : FileSystem

namespace Outcome

/-- The exit codes. -/
abbrev success : Nat := 0
abbrev failed : Nat := 1
abbrev refused : Nat := 2
abbrev aborted : Nat := 101

end Outcome

namespace Program

def versionText : String := s!"plotbench {version}\n"

/-- One option as the help shows it. -/
def optionText (s : CommandLine.Spelling) : String :=
  let short := match s.short with
    | some letter => String.ofList ['-', letter, ',', ' ']
    | none => "    "
  let value := match s.meaning with
    | .parameter p => s!" <{p.valueName}>"
    | _ => ""
  s!"  {short}--{s.long}{value}\n"

def usageText : String := "Usage: plotbench [OPTIONS] <FILE>\n"

def helpText : String :=
  "Seek versus sequential read latency benchmark for grouped plot layouts\n\n" ++ usageText ++
    "\nOptions:\n" ++ String.join (CommandLine.options.map optionText)

/-- A failure with the step that failed and why. -/
def failureLines (context cause : String) : List ErrorEntry :=
  [.line (Line.plain s!"Error: {context}"), .line [], .line (Line.plain "Caused by:"),
    .line (Line.plain s!"    {cause}")]

/-- What an event writes to standard error. -/
def errorEntry (filter : LogFilter) : Event → Option ErrorEntry
  | .notice n => if filter.admits n then some (.notice n) else none
  | e => (errorLine e).map .line

/-- The result of writing the exported report: what it adds to the output and to the errors, and
the files after it. -/
structure Exported where
  exitCode : Nat
  output : String := ""
  errors : List ErrorEntry := []
  files : FileSystem

/-- Writes the exported report to the path that the settings name, if they name one. -/
def exportTo (i : Invocation) (c : Settings) (e : Export) : Exported :=
  match c.json with
  | none => { exitCode := Outcome.success, files := i.files }
  | some path =>
    match i.files.write path e.bytes with
    | .error failed =>
      { exitCode := Outcome.failed
        errors := failureLines "Failed to export JSON" failed.message
        files := failed.files }
    | .ok files =>
      { exitCode := Outcome.success
        output := s!"Results exported to: {path}\n"
        files }

/-- What is printed before the first pattern. -/
def openingLines (c : Settings) (fileSize : UInt64) : List Line :=
  bannerLines c ++ fileLines c.path fileSize

/-- The outcome of a run that ended. -/
def finish (i : Invocation) (c : Settings) (r : RunReport) (journal : List Event) :
    Except Abort Outcome := do
  let summary ← summaryLines c.color r
  let e ← Export.ofRun c i.provenance r
  let exported := exportTo i c e
  let filter := LogFilter.ofEnvironment (i.environment.get? "RUST_LOG") c.verbose
  return {
    exitCode := exported.exitCode
    output := printed c.color
      (openingLines c r.fileSize ++ journal.filterMap outputLine ++ summary) ++ exported.output
    errors := journal.filterMap (errorEntry filter) ++ exported.errors
    files := exported.files }

def benchmark (i : Invocation) (c : Settings) : Outcome :=
  match c.runFile i.files i.readings i.fresh with
  | .error cause =>
    { exitCode := Outcome.refused, errors := [.line (Line.plain cause.message)], files := i.files }
  | .ok ended =>
    match ended.bind fun (r, s) => finish i c r s.journal.toList with
    | .ok outcome => outcome
    | .error abort =>
      { exitCode := Outcome.aborted
        errors := [.line (Line.plain abort.message)]
        files := i.files }

/-- What is written when the arguments give nothing to run. -/
def stop (i : Invocation) : CommandLine.Stop → Outcome
  | .request .help => { exitCode := Outcome.success, output := helpText, files := i.files }
  | .request .version => { exitCode := Outcome.success, output := versionText, files := i.files }
  | .usage e =>
    let text := e.printed i.environment.keepsControls
    { exitCode := Outcome.refused
      errors := [.line (Line.plain text), .line [], .line (Line.plain usageText)]
      files := i.files }

end Program

def Invocation.run (i : Invocation) : Outcome :=
  match CommandLine.parse i.environment.get? i.arguments with
  | .error reason => Program.stop i reason
  | .ok given =>
    match given.settings i.environment with
    | .error cause =>
      { exitCode := Outcome.failed
        errors := Program.failureLines "Failed to create benchmark config" cause.message
        files := i.files }
    | .ok c => Program.benchmark i c

end ScanLatency
