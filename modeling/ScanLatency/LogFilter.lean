import ScanLatency.Journal
import ScanLatency.LogFilter.Directive

/-! Which notices reach the log. A filter is a list of directives; of those that are about a notice
the one that says most decides. -/
namespace ScanLatency

/-- Graver notices come first. -/
def Level.rank : Level → Nat
  | .warning => 2
  | .info => 3
  | .debug => 4

def Level.name : Level → String
  | .warning => "WARN"
  | .info => "INFO"
  | .debug => "DEBUG"

/-- The part of the program that a notice comes from. -/
def Notice.source : Notice → String
  | .shortRead .. | .shortContinuation .. => "plotbench::bench::pattern"
  | .adviceRefused _ => "plotbench::platform"
  | _ => "plotbench::bench::runner"

/-- The field that holds the text of a notice; notices have no other. -/
abbrev textField : String := "message"

def LogLimit.admits (limit : LogLimit) (level : Level) : Bool := level.rank ≤ limit.rank

namespace LogDirective

/-- Whether a directive is about notices from a source. Notices belong to no span, and their field
has no value that a test could know. -/
def covers (d : LogDirective) (source : String) : Bool :=
  d.span.isNone
    && d.source.all (fun start => start.toList.isPrefixOf source.toList)
    && d.field.all (fun test => test = ⟨textField, none⟩)

/-- Directives that say more about a notice come first: a longer start of its source, then a
field. -/
def precedence (d : LogDirective) : Nat :=
  2 * d.source.elim 0 (fun start => start.length + 1) + d.field.elim 0 (fun _ => 1)

end LogDirective

/-- The directives that decide about notices. -/
structure LogFilter where
  directives : List LogDirective
  deriving DecidableEq, Repr

namespace LogFilter

def uniform (limit : LogLimit) : LogFilter := ⟨[{ limit }]⟩

/-- Directives between commas; without any, errors alone are let through. One that cannot be read
spoils the filter. -/
def ofString? (text : String) : Option LogFilter := do
  let parts := (text.splitOn ",").filter (· ≠ "")
  let directives ← parts.mapM LogDirective.ofString?
  return if directives.isEmpty then uniform .error else ⟨directives⟩

/-- The directive that decides about a source: the one that says most, and of equal ones the
last. -/
def directive? (f : LogFilter) (source : String) : Option LogDirective :=
  f.directives.foldl (fun best d =>
    if d.covers source && best.all (·.precedence ≤ d.precedence) then some d else best) none

def admits (f : LogFilter) (n : Notice) : Bool :=
  match f.directive? n.source with
  | some d => d.limit.admits n.level
  | none => false

/-- The filter of a program: what the environment asks for, if that can be read; otherwise
warnings, and with `verbose` information as well. -/
def ofEnvironment (wanted : Option String) (verbose : Bool) : LogFilter :=
  match wanted.bind ofString? with
  | some f => f
  | none => uniform (if verbose then .info else .warning)

end LogFilter
end ScanLatency
