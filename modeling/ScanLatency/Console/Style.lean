/-! Styled lines. A line is a list of spans; a console that shows no colors prints their texts, one
that does wraps each styled span in the escape sequences of its style. -/
namespace ScanLatency.Console

inductive Style
  | plain
  | bold
  | dimmed
  | yellow
  | boldCyan
  | boldGreen
  | boldYellow
  /-- The word that announces an error. -/
  | errorMark
  /-- What an error is about. -/
  | offending
  deriving DecidableEq, Repr

/-- The sequence that selects a graphic rendition. -/
def escape (code : String) : String := "\x1b[" ++ code ++ "m"

namespace Style

/-- The renditions to select before a text, outermost first, and those to select after it. -/
def codes : Style → List String × List String
  | .plain => ([], [])
  | .bold => (["1"], ["0"])
  | .dimmed => (["2"], ["0"])
  | .yellow => (["33"], ["39"])
  | .boldCyan => (["1", "36"], ["39", "0"])
  | .boldGreen => (["1", "32"], ["39", "0"])
  | .boldYellow => (["1", "33"], ["39", "0"])
  | .errorMark => (["1", "31"], ["0"])
  | .offending => (["33"], ["0"])

def wrap (style : Style) (text : String) : String :=
  String.join (style.codes.1.map escape) ++ text ++ String.join (style.codes.2.map escape)

end Style

/-- A text in one style. -/
structure Span where
  text : String
  style : Style := .plain
  deriving DecidableEq, Repr

/-- A line without its end. -/
abbrev Line := List Span

def Line.plain (text : String) : Line := [⟨text, .plain⟩]

def Span.render (color : Bool) (s : Span) : String :=
  if color then s.style.wrap s.text else s.text

def Line.render (color : Bool) (l : Line) : String := String.join (l.map (Span.render color))

/-- Lines as they are printed, each with its end. -/
def printed (color : Bool) (lines : List Line) : String :=
  String.join (lines.map fun l => Line.render color l ++ "\n")

theorem printed_append (color : Bool) (before after : List Line) :
    printed color (before ++ after) = printed color before ++ printed color after := by
  simp [printed, String.join_append]

example : printed true [[⟨"a", .boldCyan⟩, ⟨"b", .plain⟩]] =
    "\x1b[1m\x1b[36ma\x1b[39m\x1b[0mb\n" := by decide +kernel

end ScanLatency.Console
