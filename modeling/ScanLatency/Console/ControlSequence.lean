/-! Control sequences: texts that steer a terminal instead of being shown on it. A sequence starts
with the escape character; what follows decides where it ends. Leaving the sequences and the control
characters out of a text makes it safe to show. -/
namespace ScanLatency.Console

/-- Where a reader stands with respect to control sequences. -/
inductive Mode
  /-- Outside every sequence. -/
  | ground
  /-- After the escape character. -/
  | escape
  /-- After the escape character and marks. -/
  | escapeMark
  /-- In a sequence that ends with a letter. -/
  | sequence
  /-- At the start of a string for the device. -/
  | device
  /-- In the parameters of a string for the device. -/
  | deviceParameter
  /-- After the marks of a string for the device. -/
  | deviceMark
  /-- In a string that only its terminator ends. -/
  | deviceString
  /-- In a command, which a bell ends as well. -/
  | command
  deriving DecidableEq, Repr

namespace Mode

/-- The encoded byte that ends a string. -/
abbrev terminator : UInt8 := 0x9c

/-- The blanks that are shown wherever they stand, except in strings. -/
def isBlankControl (c : Char) : Bool := c = '\t' || c = '\n' || c = '\x0c' || c = '\r'

def isMark (c : Char) : Bool := ' ' ≤ c && c ≤ '/'

def isFinal (c : Char) : Bool := '@' ≤ c && c ≤ '~'

/-- The mode after a printable character behind the escape character. -/
def afterEscape (c : Char) : Mode :=
  match c with
  | 'P' => .device
  | 'X' | '^' | '_' => .deviceString
  | '[' => .sequence
  | ']' => .command
  | c => if isMark c then .escapeMark else .ground

/-- The mode after a printable character of plain text. -/
def afterPrintable (m : Mode) (c : Char) : Mode :=
  match m with
  | .ground => .ground
  | .escape => afterEscape c
  | .escapeMark => if isMark c then .escapeMark else .ground
  | .sequence => if isFinal c then .ground else .sequence
  | .device =>
    if isFinal c then .deviceString else if isMark c then .deviceMark else .deviceParameter
  | .deviceParameter =>
    if isFinal c || '<' ≤ c then .deviceString
    else if isMark c then .deviceMark else .deviceParameter
  | .deviceMark => if isMark c then .deviceMark else .deviceString
  | .deviceString => .deviceString
  | .command => .command

/-- Whether a sequence in this mode carries out control characters, so that blanks are shown. -/
def carriesOut : Mode → Bool
  | .ground | .escape | .escapeMark | .sequence => true
  | .device | .deviceParameter | .deviceMark | .deviceString | .command => false

/-- The mode after a character, and whether the character is shown. -/
def step (m : Mode) (c : Char) : Mode × Bool :=
  if c = '\x1b' then (.escape, false)
  else if c = '\x18' || c = '\x1a' then (.ground, false)
  else if c.toNat < 32 then
    if m = .command && c = '\x07' then (.ground, false)
    else (m, m.carriesOut && isBlankControl c)
  else if c = '\x7f' then (m, false)
  else if c.toNat < 127 then (m.afterPrintable c, m = .ground)
  else if m = .ground then (.ground, true)
  else if m = .deviceString && (String.utf8EncodeChar c).contains terminator then (.ground, false)
  else (m, false)

end Mode

/-- The characters of a text that are shown, from a mode on. A character shown inside a sequence
ends the sequence. -/
def shownFrom (m : Mode) : List Char → List Char
  | [] => []
  | c :: rest =>
    let (next, shown) := m.step c
    if shown then c :: shownFrom .ground rest else shownFrom next rest

/-- A text without control characters and control sequences. -/
def shown (text : String) : String := String.ofList (shownFrom .ground text.toList)

/-- No escape character is ever shown. -/
theorem escape_not_mem_shownFrom (m : Mode) (cs : List Char) : '\x1b' ∉ shownFrom m cs := by
  induction cs generalizing m with
  | nil => simp [shownFrom]
  | cons c rest ih =>
    by_cases hc : c = '\x1b'
    · subst hc
      exact ih .escape
    · intro h
      simp only [shownFrom] at h
      split at h
      next => exact (List.mem_cons.1 h).elim (fun he => hc he.symm) (ih .ground)
      next => exact ih _ h

/-- The characters of a text that reach a terminal through a stream. A blank inside a sequence only
interrupts it: the sequence goes on at the next control character, unless a character of another
script came between them. -/
def streamedFrom (m : Mode) (interrupted : Bool) : List Char → List Char
  | [] => []
  | c :: rest =>
    let (next, shown) := (if interrupted then Mode.ground else m).step c
    if shown then c :: streamedFrom (if c.toNat < 128 then m else .ground) true rest
    else streamedFrom (if interrupted then (m.step c).1 else next) false rest

/-- A text as it is left by a stream to something that is no terminal. -/
def streamed (text : String) : String := String.ofList (streamedFrom .ground false text.toList)

example : shown "a\x1b[31mb\x07c\td" = "abc\td" := by decide +kernel
example : shown "\x1b]0;t\x07on" = "on" ∧ shown "a\x1béb" = "a" := by decide +kernel
example : shown "\x1b[3\t1m\x07x" = "\t1mx" ∧ streamed "\x1b[3\t1m\x07x" = "\t1m" := by
  decide +kernel

end ScanLatency.Console
