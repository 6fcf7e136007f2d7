import ScanLatency.FileSystem
import ScanLatency.Run

/-! A run on a file. The file is opened and its size taken before anything else happens; then the
page cache is disabled if that is asked for, and the offsets are seeded. What the run reports about
the cache is what disabling it gave, whatever the drops during the run give. -/
namespace ScanLatency

/-- Why a run did not start. -/
inductive RunError
  | cannotOpen (path : String) (cause : IoError)
  | cannotStat (path : String) (cause : IoError)
  deriving DecidableEq, Repr

def RunError.message : RunError → String
  | .cannotOpen path cause => s!"cannot open file: {path}: {cause.message}"
  | .cannotStat path cause => s!"cannot stat file: {path}: {cause.message}"

namespace FileSystem

/-- Opens the file of a run and makes sure that its size is known. -/
def openTarget (fs : FileSystem) (path : String) : Except RunError OpenFile :=
  match fs.openFile path with
  | .error cause => .error (.cannotOpen path cause)
  | .ok file =>
    match file.file.sizeRefusal with
    | some number => .error (.cannotStat path (.system number))
    | none => .ok file

end FileSystem

abbrev FileSession := Session OpenFile SeededOffsets

namespace Settings

/-- Tries to disable the page cache, and notes every refusal and the outcome. -/
def disableCache (path : String) (s : FileSession) : Bool × FileSession :=
  let (outcomes, device) := s.device.disableCache
  let s := (Advice.refusals outcomes).foldl (fun s e => s.note (.adviceRefused e))
    ({ s with device } : FileSession)
  match Advice.anyTaken outcomes with
  | .ok () => (true, s.note (.cacheDisabled path))
  | .error cause => (false, s.note (.cacheNotDisabled cause))

def runOpen (c : Settings) (seed : UInt64) (file : OpenFile) :
    Except Abort (RunReport × FileSession) := do
  let s : FileSession := ⟨file, .ofSeed seed, #[]⟩
  let (cacheDisabled, s) := if c.noCache then disableCache c.path s else (false, s)
  let (report, s) ← c.run (s.note (.offsetSeed seed))
  return ({ report with seed := some seed, cacheDisabled }, s)

/-- Runs the whole suite on the file that the settings name, by a clock that shows the given
readings. Without a seed of its own the run is seeded with the fresh one. -/
def runFile (c : Settings) (fs : FileSystem) (readings : Nat → UInt64) (fresh : UInt64) :
    Except RunError (Except Abort (RunReport × FileSession)) :=
  (fs.openTarget c.path).map fun file => c.runOpen (c.seed.getD fresh) { file with readings }

end Settings
end ScanLatency
