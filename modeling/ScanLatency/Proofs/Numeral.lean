import Mathlib.Algebra.Order.Ring.Rat
import ScanLatency.Number.FixedPoint

/-! Reading numerals back. A numeral is a run of digits, or two runs with a point between them; its
value is an exact rational. What a natural number or a count of decimal steps is written as reads
back as the same value. -/
namespace ScanLatency.Number

def digitsNumber (digits : List Char) : ℕ := Nat.ofDigitChars 10 digits 0

/-- The number that a numeral shows: digits, and after a point further digits. -/
def readNumeral (numeral : List Char) : Option ℚ :=
  let whole := numeral.takeWhile Char.isDigit
  if whole.isEmpty then none
  else match numeral.dropWhile Char.isDigit with
    | [] => some (digitsNumber whole : ℚ)
    | point :: fraction =>
      if point = '.' ∧ fraction ≠ [] ∧ fraction.all Char.isDigit then
        some ((digitsNumber (whole ++ fraction) : ℚ) / 10 ^ fraction.length)
      else none

example : readNumeral "12.50".toList = some (25 / 2) ∧ readNumeral "7".toList = some 7 := by
  decide +kernel
example : readNumeral ".5".toList = none ∧ readNumeral "5.".toList = none := by decide +kernel

/-! ### Digits -/

theorem toList_toString (n : ℕ) : (toString n).toList = Nat.toDigits 10 n := by
  rw [Nat.toString_eq_repr, Nat.toList_repr]

theorem isDigit_toDigits (n : ℕ) : ∀ c ∈ Nat.toDigits 10 n, c.isDigit = true :=
  fun _ hc => Nat.isDigit_of_mem_toDigits (by decide) (by decide) hc

theorem blank_notMem_of_isDigit {digits : List Char} (h : ∀ c ∈ digits, c.isDigit = true) :
    ' ' ∉ digits := fun hmem => absurd (h ' ' hmem) (by decide)

theorem digitsNumber_toDigits (n : ℕ) : digitsNumber (Nat.toDigits 10 n) = n :=
  Nat.ofDigitChars_ten_toDigits

theorem digitsNumber_append (front back : List Char) :
    digitsNumber (front ++ back) = 10 ^ back.length * digitsNumber front + digitsNumber back := by
  rw [digitsNumber, Nat.ofDigitChars_append, Nat.ofDigitChars_eq_ofDigitChars_zero]
  rfl

namespace FixedPoint

variable {width n : ℕ}

theorem toList_padded (width n : ℕ) : (padded width n).toList =
    List.replicate (width - (Nat.toDigits 10 n).length) '0' ++ Nat.toDigits 10 n := by
  have hlength : (toString n).length = (Nat.toDigits 10 n).length := by
    rw [← String.length_toList, toList_toString]
  simp only [padded, String.toList_append, String.toList_ofList, toList_toString, hlength]

theorem isDigit_padded (width n : ℕ) : ∀ c ∈ (padded width n).toList, c.isDigit = true := by
  intro c hc
  rw [toList_padded, List.mem_append, List.mem_replicate] at hc
  rcases hc with ⟨-, rfl⟩ | hc
  · decide
  · exact isDigit_toDigits n c hc

theorem digitsNumber_padded (width n : ℕ) : digitsNumber (padded width n).toList = n := by
  have hzeros (k : ℕ) : digitsNumber (List.replicate k '0') = 0 :=
    Nat.ofDigitChars_replicate_zero
  rw [toList_padded, digitsNumber_append, hzeros, digitsNumber_toDigits, Nat.mul_zero, Nat.zero_add]

/-- Digits that fit are filled up to the width. -/
theorem length_padded (hwidth : 0 < width) (h : n < 10 ^ width) :
    (padded width n).toList.length = width := by
  have hfits : (Nat.toDigits 10 n).length ≤ width :=
    (Nat.length_toDigits_le_iff (by decide) hwidth).2 h
  rw [toList_padded, List.length_append, List.length_replicate]
  omega

end FixedPoint

/-! ### Numerals -/

/-- A run of digits is read as its number. -/
theorem readNumeral_toString (n : ℕ) : readNumeral (toString n).toList = some (n : ℚ) := by
  have htake : (Nat.toDigits 10 n ++ []).takeWhile Char.isDigit = Nat.toDigits 10 n ++ [] :=
    List.takeWhile_append_of_pos (isDigit_toDigits n)
  have hdrop : (Nat.toDigits 10 n ++ []).dropWhile Char.isDigit = [] :=
    List.dropWhile_append_of_pos (isDigit_toDigits n)
  rw [List.append_nil] at htake hdrop
  simp [readNumeral, htake, hdrop, digitsNumber_toDigits]

/-- Two runs of digits are read as one, in steps of the last place. -/
theorem readNumeral_point {whole fraction : List Char} (hwhole : ∀ c ∈ whole, c.isDigit = true)
    (hfraction : ∀ c ∈ fraction, c.isDigit = true) (hne : whole ≠ []) (hne' : fraction ≠ []) :
    readNumeral (whole ++ '.' :: fraction) =
      some ((digitsNumber (whole ++ fraction) : ℚ) / 10 ^ fraction.length) := by
  have htake : (whole ++ '.' :: fraction).takeWhile Char.isDigit = whole := by
    rw [List.takeWhile_append_of_pos hwhole]
    exact List.append_nil whole
  have hdrop : (whole ++ '.' :: fraction).dropWhile Char.isDigit = '.' :: fraction := by
    rw [List.dropWhile_append_of_pos hwhole]
    rfl
  have hempty : whole.isEmpty = false := List.isEmpty_eq_false_iff.2 hne
  have hdigits : fraction.all Char.isDigit = true := List.all_eq_true.2 hfraction
  simp only [readNumeral, htake, hdrop, hempty, hdigits, Bool.false_eq_true, if_false]
  exact if_pos ⟨trivial, hne', trivial⟩

namespace FixedPoint

variable {steps places : ℕ}

theorem toList_text (hplaces : 0 < places) : (text ⟨false, steps, places⟩).toList =
    (toString (steps / 10 ^ places)).toList ++
      '.' :: (padded places (steps % 10 ^ places)).toList := by
  simp [text, Nat.pos_iff_ne_zero.1 hplaces]

/-- A numeral with a point is read as its steps of the last place. -/
theorem readNumeral_text (hplaces : 0 < places) :
    readNumeral (text ⟨false, steps, places⟩).toList = some ((steps : ℚ) / 10 ^ places) := by
  have hscale : 0 < 10 ^ places := Nat.pow_pos (by decide)
  have hlength := length_padded hplaces (Nat.mod_lt steps hscale)
  have hne : (padded places (steps % 10 ^ places)).toList ≠ [] := by
    rw [← List.length_pos_iff, hlength]
    exact hplaces
  rw [toList_text hplaces, toList_toString,
    readNumeral_point (isDigit_toDigits _) (isDigit_padded _ _) Nat.toDigits_ne_nil hne,
    digitsNumber_append, hlength, digitsNumber_toDigits, digitsNumber_padded, Nat.div_add_mod]

theorem blank_notMem_text (hplaces : 0 < places) :
    ' ' ∉ (text ⟨false, steps, places⟩).toList := by
  rw [toList_text hplaces, toList_toString, List.mem_append, List.mem_cons]
  rintro (h | h | h)
  · exact blank_notMem_of_isDigit (isDigit_toDigits _) h
  · exact absurd h (by decide)
  · exact blank_notMem_of_isDigit (isDigit_padded _ _) h

end FixedPoint

theorem blank_notMem_toString (n : ℕ) : ' ' ∉ (toString n).toList := by
  rw [toList_toString]
  exact blank_notMem_of_isDigit (isDigit_toDigits n)

/-! ### Amounts -/

/-- A number of some unit. -/
structure Amount where
  number : ℚ
  symbol : String
  deriving DecidableEq

/-- A numeral, a blank, and the symbol of the unit. -/
def readAmount (text : String) : Option Amount :=
  match text.toList.dropWhile (· ≠ ' ') with
  | [] => none
  | _ :: symbol =>
    (readNumeral (text.toList.takeWhile (· ≠ ' '))).map (⟨·, String.ofList symbol⟩)

example : readAmount "1.5 MiB" = some ⟨3 / 2, "MiB"⟩ ∧ readAmount "15" = none := by decide +kernel

/-- A numeral is read up to the blank, and the rest is the symbol. -/
theorem readAmount_numeral {numeral : String} {number : ℚ} (symbol : String)
    (hblank : ' ' ∉ numeral.toList) (h : readNumeral numeral.toList = some number) :
    readAmount (numeral ++ " " ++ symbol) = some ⟨number, symbol⟩ := by
  have hlist : (numeral ++ " " ++ symbol).toList = numeral.toList ++ ' ' :: symbol.toList := by
    simp
  have hnumeral : ∀ c ∈ numeral.toList, decide (c ≠ ' ') = true := by
    intro c hc
    rw [decide_eq_true_eq]
    rintro rfl
    exact hblank hc
  have htake : (numeral.toList ++ ' ' :: symbol.toList).takeWhile (· ≠ ' ') = numeral.toList := by
    rw [List.takeWhile_append_of_pos hnumeral]
    exact List.append_nil _
  have hdrop : (numeral.toList ++ ' ' :: symbol.toList).dropWhile (· ≠ ' ') =
      ' ' :: symbol.toList := by
    rw [List.dropWhile_append_of_pos hnumeral]
    rfl
  rw [readAmount, hlist, htake, hdrop, h]
  simp

end ScanLatency.Number
