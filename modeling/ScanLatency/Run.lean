import ScanLatency.Comparison
import ScanLatency.Session

/-! A whole run: every pattern of the suite, each repeated as often as asked. A pattern that fails
is reported and skipped, and the samples of its earlier iterations are discarded; the patterns
after it run all the same. To keep reads cold, the cache is dropped before every iteration until a
drop fails once. One entry of the log is left out: at its most detailed levels it also tells the
parameters of every pattern before its first iteration, in an order that is not determined. The
progress shown while a pattern runs is left out as well. -/
namespace ScanLatency
open Number

/-- What a run is asked to do. -/
structure Settings where
  path : String
  groupSize : UInt64 := 64
  scanElements : UInt64 := 8192
  iterations : UInt64 := 1
  noCache : Bool := false
  seed : Option UInt64 := none
  divisor : Binary64 := defaultDivisor
  color : Bool := false
  verbose : Bool := false
  json : Option String := none
  deriving DecidableEq

def Settings.layout (c : Settings) : Layout := ⟨c.groupSize, c.scanElements⟩

/-- A pattern without a result, and why. -/
structure SkippedPattern where
  kind : PatternKind
  cause : PatternError
  deriving DecidableEq, Repr

/-- Everything a run measured. Results and skips are in execution order. -/
structure RunReport where
  fileSize : UInt64
  layout : Layout
  results : List PatternResult
  skipped : List SkippedPattern
  comparison : Comparison
  seed : Option UInt64 := none
  cacheDisabled : Bool := false
  deriving DecidableEq

namespace RunReport

def result? (r : RunReport) (kind : PatternKind) : Option PatternResult :=
  r.results.find? (·.kind = kind)

/-- The statistics of one kind; none if it was skipped or has no samples. -/
def statistics (r : RunReport) (kind : PatternKind) : Except Abort (Option Statistics) :=
  match r.result? kind with
  | none => .ok none
  | some result => result.statistics

def totalSamples (r : RunReport) : Nat :=
  r.results.foldl (fun total result => total + result.sampleCount) 0

end RunReport

/-- The state between two patterns: the session, whether the cache is still being dropped, and
what the patterns so far gave. -/
structure RunState (δ ο : Type) where
  session : Session δ ο
  keepCold : Bool
  results : Array PatternResult := #[]
  skipped : Array SkippedPattern := #[]

namespace Session

variable {δ ο : Type} [Device δ] [OffsetSource ο]

/-- Drops the cache if it is to be dropped. A failure is noted and ends all dropping. -/
def chill (keepCold : Bool) (s : Session δ ο) : Bool × Session δ ο :=
  if keepCold then
    match Device.dropCache s.device with
    | (.ok (), device) => (true, { s with device })
    | (.error cause, device) => (false, ({ s with device } : Session δ ο).note (.cacheKept cause))
  else (false, s)

/-- Repeats a pattern, `iteration` being the number of the next repetition. Stops at the first
repetition that fails. -/
def repeated (planned : PlannedPattern) :
    Nat → Nat → Bool → Array Sample → Session δ ο →
      Except Abort (Except PatternError (Array Sample) × Bool × Session δ ο)
  | 0, _, keepCold, samples, s => .ok (.ok samples, keepCold, s)
  | remaining + 1, iteration, keepCold, samples, s =>
    let (keepCold, s) := s.chill keepCold
    match s.run planned.pattern with
    | (.error (.aborted abort), _) => .error abort
    | (.error (.failed cause), s) =>
      .ok (.error cause, keepCold, s.note (.iterationFailed planned.kind iteration cause))
    | (.ok more, s) =>
      match Word.sum (more.toList.map (·.nanos)) with
      | .error abort => .error abort
      | .ok _ => repeated planned remaining (iteration + 1) keepCold (samples ++ more) s

end Session

namespace RunState

variable {δ ο : Type} [Device δ] [OffsetSource ο]

def record (e : Event) (s : Session δ ο) : Session δ ο := { s with journal := s.journal.push e }

/-- Enters a failed pattern. A failed operation deserves a warning, a file too small does not. -/
def skip (kind : PatternKind) (cause : PatternError) (state : RunState δ ο) : RunState δ ο :=
  let session := if cause.isSizing then state.session
    else state.session.note (.aborted kind cause)
  { state with
    session := record (.skipped kind cause) session
    skipped := state.skipped.push ⟨kind, cause⟩ }

/-- Enters a completed pattern, with a warning if any of its reads came back short. -/
def complete (result : PatternResult) (state : RunState δ ο) : Except Abort (RunState δ ο) :=
  match result.statistics with
  | .error abort => .error abort
  | .ok statistics =>
    let session := if result.shortReads = 0 then state.session
      else state.session.note (.cameShort result.kind result.shortReads result.sampleCount)
    .ok { state with
      session := record (.completed result.label statistics) session
      results := state.results.push result }

/-- Runs one planned pattern and enters its outcome. -/
def step (iterations fileSize : UInt64) (planned : PlannedPattern) (state : RunState δ ο) :
    Except Abort (RunState δ ο) :=
  match state.session.repeated planned iterations.toNat 1 state.keepCold #[] with
  | .error abort => .error abort
  | .ok (.error cause, keepCold, session) =>
    .ok ({ state with session, keepCold }.skip planned.kind cause)
  | .ok (.ok samples, keepCold, session) =>
    { state with session, keepCold }.complete
      ((PatternResult.ofPlanned planned fileSize).extend samples)

def steps (iterations fileSize : UInt64) :
    List PlannedPattern → RunState δ ο → Except Abort (RunState δ ο)
  | [], state => .ok state
  | planned :: rest, state =>
    match step iterations fileSize planned state with
    | .error abort => .error abort
    | .ok state => steps iterations fileSize rest state

end RunState

namespace Settings

variable {δ ο : Type} [Device δ] [OffsetSource ο]

/-- Runs every pattern of the suite in a session. -/
def run (c : Settings) (s : Session δ ο) : Except Abort (RunReport × Session δ ο) := do
  let fileSize := Device.size s.device
  let s := s.note (.started PatternKind.all.length c.iterations fileSize)
  let state ← RunState.steps c.iterations fileSize c.layout.suite ⟨s, c.noCache, #[], #[]⟩
  let results := state.results.toList
  let comparison ← Comparison.ofResults c.groupSize c.divisor results
  return ({
    fileSize
    layout := c.layout
    results
    skipped := state.skipped.toList
    comparison }, state.session)

end Settings
end ScanLatency
