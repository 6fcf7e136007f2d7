import ScanLatency.Console.ControlSequence
import ScanLatency.Console.Style
import ScanLatency.Number.Literal

/-! What a command line can say: one file, options with a value, options without one, and requests
for a text. The table `options` holds every spelling; names are never abbreviated. -/
namespace ScanLatency.CommandLine
open Console Number

/-- Options that take a value. -/
inductive Parameter
  | groupSize
  | scanElements
  | iterations
  | seed
  | divisor
  | json
  deriving DecidableEq, Repr

/-- Options that take none. -/
inductive Switch
  | noCache
  | noColor
  | color
  | verbose
  deriving DecidableEq, Repr

/-- Requests for a text instead of a run. -/
inductive Request
  | help
  | version
  deriving DecidableEq, Repr

/-- What the name of an option stands for. -/
inductive Meaning
  | parameter (p : Parameter)
  | switch (s : Switch)
  | request (r : Request)
  deriving DecidableEq, Repr

/-- The names of one option: two dashes and a word, perhaps also one dash and a letter. -/
structure Spelling where
  meaning : Meaning
  long : String
  short : Option Char := none
  deriving DecidableEq, Repr

namespace Parameter

/-- Every parameter, in the order in which the environment is asked for them. -/
def all : List Parameter := [.groupSize, .scanElements, .iterations, .seed, .divisor, .json]

def long : Parameter → String
  | .groupSize => "group-size"
  | .scanElements => "proof-fragment-scan-size"
  | .iterations => "num-tests"
  | .seed => "seed"
  | .divisor => "normalization-divisor"
  | .json => "json"

def valueName : Parameter → String
  | .groupSize => "N"
  | .scanElements => "ELEMENTS"
  | .iterations => "N"
  | .seed => "SEED"
  | .divisor => "D"
  | .json => "PATH"

/-- The environment variable that stands in for an absent option. -/
def standIn : Parameter → Option String
  | .groupSize => some "PLOTBENCH_GROUP_SIZE"
  | .scanElements => some "PLOTBENCH_SCAN_SIZE"
  | .iterations => some "PLOTBENCH_NUM_TESTS"
  | .seed => some "PLOTBENCH_SEED"
  | .divisor => some "PLOTBENCH_NORMALIZATION_DIVISOR"
  | .json => none

end Parameter

def Switch.long : Switch → String
  | .noCache => "no-cache"
  | .noColor => "no-color"
  | .color => "color"
  | .verbose => "verbose"

def Request.long : Request → String
  | .help => "help"
  | .version => "version"

def Meaning.long : Meaning → String
  | .parameter p => p.long
  | .switch s => s.long
  | .request r => r.long

def options : List Spelling := [
  ⟨.parameter .groupSize, Parameter.groupSize.long, some 'n'⟩,
  ⟨.parameter .scanElements, Parameter.scanElements.long, some 's'⟩,
  ⟨.parameter .iterations, Parameter.iterations.long, some 't'⟩,
  ⟨.switch .noCache, Switch.noCache.long, none⟩,
  ⟨.parameter .seed, Parameter.seed.long, none⟩,
  ⟨.parameter .divisor, Parameter.divisor.long, none⟩,
  ⟨.parameter .json, Parameter.json.long, none⟩,
  ⟨.switch .noColor, Switch.noColor.long, none⟩,
  ⟨.switch .color, Switch.color.long, none⟩,
  ⟨.switch .verbose, Switch.verbose.long, some 'v'⟩,
  ⟨.request .help, Request.help.long, some 'h'⟩,
  ⟨.request .version, Request.version.long, some 'V'⟩]

def ofLong (name : String) : Option Meaning := (options.find? (·.long = name)).map (·.meaning)

def ofShort (letter : Char) : Option Meaning :=
  (options.find? (·.short = some letter)).map (·.meaning)

/-- What is given a value or set: the file or an option. -/
inductive Argument
  | file
  | parameter (p : Parameter)
  | switch (s : Switch)
  deriving DecidableEq, Repr

def Argument.text : Argument → String
  | .file => "<FILE>"
  | .parameter p => s!"--{p.long} <{p.valueName}>"
  | .switch s => s!"--{s.long}"

inductive ValueError
  | count (e : CountError)
  | real (e : RealError)
  deriving DecidableEq, Repr

def ValueError.message : ValueError → String
  | .count e => e.message
  | .real e => e.message

inductive UsageError
  | unexpectedArgument (text : String)
  | unexpectedValue (value : String) (option : Meaning)
  | missingValue (argument : Argument)
  | invalidValue (value : String) (argument : Argument) (reason : ValueError)
  | repeated (argument : Argument)
  | conflict (first second : Switch)
  | missingFile
  deriving DecidableEq, Repr

namespace UsageError

/-- An error as a line, with what it quotes from the command line shown in a given way. -/
def line (quoted : String → String) : UsageError → Line
  | .unexpectedArgument text =>
    [⟨"unexpected argument '", .plain⟩, ⟨quoted text, .offending⟩, ⟨"' found", .plain⟩]
  | .unexpectedValue value option =>
    [⟨"unexpected value '", .plain⟩, ⟨quoted value, .offending⟩, ⟨"' for '", .plain⟩,
      ⟨"--" ++ option.long, .bold⟩, ⟨"' found; no more were expected", .plain⟩]
  | .missingValue argument =>
    [⟨"a value is required for '", .plain⟩, ⟨argument.text, .bold⟩,
      ⟨"' but none was supplied", .plain⟩]
  | .invalidValue value argument reason =>
    [⟨"invalid value '", .plain⟩, ⟨quoted value, .offending⟩, ⟨"' for '", .plain⟩,
      ⟨argument.text, .bold⟩, ⟨"': " ++ reason.message, .plain⟩]
  | .repeated argument =>
    [⟨"the argument '", .plain⟩, ⟨argument.text, .offending⟩,
      ⟨"' cannot be used multiple times", .plain⟩]
  | .conflict first second =>
    [⟨"the argument '", .plain⟩, ⟨"--" ++ first.long, .offending⟩,
      ⟨"' cannot be used with '", .plain⟩, ⟨"--" ++ second.long, .offending⟩, ⟨"'", .plain⟩]
  | .missingFile => Line.plain "the following required arguments were not provided:"

/-- The text of an error without control sequences. -/
def message (e : UsageError) : String := (e.line Console.shown).render false

/-- An error as it is printed: without control sequences, unless they are kept; then it is styled,
too. -/
def printed (keepsControls : Bool) (e : UsageError) : String :=
  Line.render keepsControls
    (⟨"error:", .errorMark⟩ :: ⟨" ", .plain⟩ ::
      e.line (if keepsControls then id else Console.streamed))

end UsageError

/-- Why the arguments give nothing to run. -/
inductive Stop
  | request (r : Request)
  | usage (e : UsageError)
  deriving DecidableEq, Repr

example : ofLong "num-tests" = some (.parameter .iterations) := by decide
example : UsageError.missingFile.printed false =
    "error: the following required arguments were not provided:" := by decide +kernel
example : ofLong "group" = none ∧ ofShort 'v' = some (.switch .verbose) := by decide

end ScanLatency.CommandLine
