import ScanLatency.LogFilter

/-! Entries of the log as they are printed: the level, then the text. Characters that could start a
control sequence are written out, so that no text steers the terminal. -/
namespace ScanLatency.Console

def hexDigit (n : Nat) : Char := if n < 10 then Char.ofNat (48 + n) else Char.ofNat (87 + n)

def hexPair (code : Nat) : List Char := [hexDigit (code / 16), hexDigit (code % 16)]

/-- The control characters that are written out with two digits; the others of plain text are
harmless. -/
def steering : List Char := ['\x07', '\x08', '\x0c', '\x1b', '\x7f']

def logChar (c : Char) : List Char :=
  if steering.contains c then ['\\', 'x'] ++ hexPair c.toNat
  else if 128 ≤ c.toNat && c.toNat < 160 then ['\\', 'u', '\x7b'] ++ hexPair c.toNat ++ ['\x7d']
  else [c]

def logText (text : String) : String := String.ofList (text.toList.flatMap logChar)

def logEntry (n : Notice) : String := s!"{n.level.name} {logText n.text}"

theorem hexDigit_ne {d : Char} (h : d ∈ steering) {n : Nat} (hn : n < 16) : d ≠ hexDigit n := by
  have digits : (List.range 16).all (fun n => !steering.contains (hexDigit n)) = true := by decide
  rintro rfl
  have := List.all_eq_true.1 digits n (List.mem_range.2 hn)
  simp_all

theorem not_mem_hexPair {d : Char} (h : d ∈ steering) {code : Nat} (hc : code < 256) :
    d ∉ hexPair code := by
  have high := hexDigit_ne h (show code / 16 < 16 by omega)
  have low := hexDigit_ne h (Nat.mod_lt code (by decide))
  simp [hexPair, high, low]

/-- No steering character is left in the log. -/
theorem not_mem_logChar {d : Char} (h : d ∈ steering) (c : Char) : d ∉ logChar c := by
  have marks : steering.all (fun d => !List.contains ['\\', 'x', 'u', '\x7b', '\x7d'] d) = true := by
    decide
  have hd := List.all_eq_true.1 marks d h
  unfold logChar
  split
  next hc =>
    have small : steering.all (·.toNat < 256) = true := by decide
    have := not_mem_hexPair h (by simpa using List.all_eq_true.1 small c (by simpa using hc))
    simp_all
  next hc =>
    split
    next hb =>
      have := not_mem_hexPair h (show c.toNat < 256 by simp at hb; omega)
      simp_all
    next =>
      intro hm
      simp_all

example : logText "q\x7f\x85.bin" = "q\\x7f\\u\x7b85\x7d.bin" := by decide +kernel

end ScanLatency.Console
