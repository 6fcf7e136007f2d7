import ScanLatency.CommandLine.Parser
import ScanLatency.Number.Shortest
import ScanLatency.Run

/-! From the command line to the settings of a run: defaults, the checks that the values have to
pass, and whether colors are used. -/
namespace ScanLatency
open Number

inductive SettingsError
  | groupSize
  | scanElements
  | iterations
  | divisor (x : Binary64)
  deriving DecidableEq

/-- Numbers in messages: every digit is written out, and whole numbers have no point. -/
def plainStyle : NumeralStyle := ⟨fun _ => true, false, false, .up⟩

def SettingsError.message : SettingsError → String
  | .groupSize => "Group size must be at least 1"
  | .scanElements => "Proof fragment scan size must be at least 1"
  | .iterations => "Number of tests must be at least 1"
  | .divisor x =>
    s!"Normalization divisor must be a positive number, got {x.shortestText plainStyle}"

/-- The first check that settings do not pass. -/
def Settings.fault? (c : Settings) : Option SettingsError :=
  if c.groupSize = 0 then some .groupSize
  else if c.scanElements = 0 then some .scanElements
  else if c.iterations = 0 then some .iterations
  else if c.divisor.isFinite && 0 < c.divisor then none
  else some (.divisor c.divisor)

/-- Settings pass just when they pass each of the four checks. -/
theorem Settings.fault?_eq_none_iff {c : Settings} : c.fault? = none ↔
    c.groupSize ≠ 0 ∧ c.scanElements ≠ 0 ∧ c.iterations ≠ 0 ∧
      (c.divisor.isFinite && decide (0 < c.divisor)) = true := by
  unfold fault?
  by_cases hgroup : c.groupSize = 0
  · simp [hgroup]
  by_cases hscan : c.scanElements = 0
  · simp [hgroup, hscan]
  by_cases hiterations : c.iterations = 0
  · simp [hgroup, hscan, hiterations]
  · simp [hgroup, hscan, hiterations]

namespace CommandLine

/-- What surrounds a program besides its arguments and files. -/
structure Environment where
  bindings : List (String × String) := []
  /-- Whether standard output is a terminal. -/
  terminal : Bool := false
  deriving DecidableEq, Repr

namespace Environment

def get? (e : Environment) (name : String) : Option String := e.bindings.lookup name

/-- Whether colors are welcome when the arguments say nothing. The mere presence of a variable
decides, whatever its value. -/
def colors (e : Environment) : Bool :=
  if (e.get? "NO_COLOR").isSome then false
  else (e.get? "FORCE_COLOR").isSome || e.terminal

/-- Whether a variable has a value that is not empty. -/
def isFilled (e : Environment) (name : String) : Bool := (e.get? name).any (· ≠ "")

/-- Whether messages about the command line keep what steers a terminal, wherever they go. -/
def keepsControls (e : Environment) : Bool := !e.isFilled "NO_COLOR" && e.isFilled "CLICOLOR_FORCE"

end Environment

/-- The settings with defaults for what was not given, unchecked. -/
def Given.defaulted (e : Environment) (g : Given) : Settings :=
  let c : Settings := { path := g.file.getD "" }
  { c with
    groupSize := g.groupSize.getD c.groupSize
    scanElements := g.scanElements.getD c.scanElements
    iterations := g.iterations.getD c.iterations
    noCache := g.hasSwitch .noCache
    seed := g.seed
    divisor := g.divisor.getD c.divisor
    color := g.hasSwitch .color || (!g.hasSwitch .noColor && e.colors)
    verbose := g.hasSwitch .verbose
    json := g.json }

def Given.settings (e : Environment) (g : Given) : Except SettingsError Settings :=
  let c := g.defaulted e
  match c.fault? with
  | some fault => .error fault
  | none => .ok c

/-- The arguments give the defaulted settings, or none that pass. -/
theorem Given.settings_eq_ok_iff {e : Environment} {g : Given} {c : Settings} :
    g.settings e = .ok c ↔ g.defaulted e = c ∧ c.fault? = none := by
  unfold settings
  constructor
  · intro h
    simp only at h
    split at h
    next => cases h
    next hfault =>
      cases h
      exact ⟨rfl, hfault⟩
  · rintro ⟨rfl, hfault⟩
    simp only [hfault]

end CommandLine
end ScanLatency
