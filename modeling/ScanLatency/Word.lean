/-! Arithmetic on 64-bit words whose exact result may not fit a word. A checked operation reports
the misfit, a saturating one stays at the largest word, and `Abort` lists what ends a whole program
when nobody handles the misfit. Everything is decided on the exact natural numbers. -/
namespace ScanLatency

abbrev wordCount : Nat := 18446744073709551616

/-- The largest number of bytes one allocation may hold. -/
abbrev allocationLimit : Nat := 9223372036854775807

/-- The ways in which arithmetic, or an allocation whose size it gives, ends the program instead of returning a value. -/
inductive Abort
  | additionOverflow
  | subtractionOverflow
  | capacityOverflow
  | durationOverflow
  deriving DecidableEq, Repr

def Abort.message : Abort → String
  | .additionOverflow => "attempt to add with overflow"
  | .subtractionOverflow => "attempt to subtract with overflow"
  | .capacityOverflow => "capacity overflow"
  | .durationOverflow => "overflow in Duration::new"

/-- A sequence of steps returns a value just when each of its steps does. -/
theorem bind_eq_ok_iff {α β : Type} {x : Except Abort α} {f : α → Except Abort β} {result : β} :
    (x >>= f) = .ok result ↔ ∃ a, x = .ok a ∧ f a = .ok result := by
  cases x with
  | error abort => exact ⟨nofun, nofun⟩
  | ok a =>
    constructor
    · intro h
      exact ⟨a, rfl, h⟩
    · rintro ⟨_, ⟨⟩, h⟩
      exact h

/-- What is read off an outcome is read off what it returns. -/
theorem map_eq_ok_iff {ε α β : Type} {x : Except ε α} {f : α → β} {b : β} :
    x.map f = .ok b ↔ ∃ a, x = .ok a ∧ f a = b := by
  cases x <;> simp [Except.map]

/-- Sets a number of bytes aside. -/
def reserve (bytes : Nat) : Except Abort Unit :=
  if allocationLimit < bytes then .error .capacityOverflow else .ok ()

namespace Word

/-- The word of an exact value, unless the value is too large. -/
def ofNat? (n : Nat) : Option UInt64 :=
  if n < wordCount then some (UInt64.ofNat n) else none

/-- The word nearest to an exact value: too large a value becomes the largest word. -/
def ofNatClamped (n : Nat) : UInt64 := (ofNat? n).getD (UInt64.ofNat (wordCount - 1))

def checkedAdd (a b : UInt64) : Option UInt64 := ofNat? (a.toNat + b.toNat)
def checkedMul (a b : UInt64) : Option UInt64 := ofNat? (a.toNat * b.toNat)
def saturatingMul (a b : UInt64) : UInt64 := ofNatClamped (a.toNat * b.toNat)

/-- The difference, or `none` where it would be negative. -/
def checkedSub (a b : UInt64) : Option UInt64 := if b ≤ a then some (a - b) else none

/-- The difference, or zero where it would be negative. -/
def saturatingSub (a b : UInt64) : UInt64 := (checkedSub a b).getD 0

def exactSum (words : List UInt64) : Nat := words.foldl (fun total word => total + word.toNat) 0

/-- The sum of two words, or an abort where it does not fit a word. -/
def add (a b : UInt64) : Except Abort UInt64 :=
  match checkedAdd a b with
  | some total => .ok total
  | none => .error .additionOverflow

/-- The difference of two words, or an abort where it would be negative. -/
def sub (a b : UInt64) : Except Abort UInt64 :=
  match checkedSub a b with
  | some difference => .ok difference
  | none => .error .subtractionOverflow

/-- The sum of a list of words: one word or an abort, whatever the order of the list. -/
def sum (words : List UInt64) : Except Abort UInt64 :=
  match ofNat? (exactSum words) with
  | some total => .ok total
  | none => .error .additionOverflow

theorem toNat_of_ofNat? {n : Nat} {w : UInt64} (h : ofNat? n = some w) : w.toNat = n := by
  unfold ofNat? at h
  split at h
  next hn =>
    cases h
    exact UInt64.toNat_ofNat_of_lt hn
  next => cases h

theorem ofNat?_eq_none_iff (n : Nat) : ofNat? n = none ↔ wordCount ≤ n := by
  unfold ofNat?
  split <;> simp <;> omega

theorem ofNat?_eq_some_iff {n : Nat} {w : UInt64} : ofNat? n = some w ↔ w.toNat = n := by
  constructor
  · exact toNat_of_ofNat?
  · rintro rfl
    simp [ofNat?, UInt64.toNat_lt w]

theorem toNat_ofNatClamped (n : Nat) : (ofNatClamped n).toNat = min n (wordCount - 1) := by
  unfold ofNatClamped
  cases h : ofNat? n with
  | some w =>
    have hw := toNat_of_ofNat? h
    have hlt : w.toNat < wordCount := UInt64.toNat_lt w
    show w.toNat = _
    omega
  | none =>
    have hn := (ofNat?_eq_none_iff n).1 h
    show wordCount - 1 = _
    omega

theorem toNat_saturatingMul (a b : UInt64) :
    (saturatingMul a b).toNat = min (a.toNat * b.toNat) (wordCount - 1) := toNat_ofNatClamped _

theorem checkedSub_eq_none_iff (a b : UInt64) : checkedSub a b = none ↔ a.toNat < b.toNat := by
  unfold checkedSub
  split
  next h => simpa using UInt64.le_iff_toNat_le.1 h
  next h => simpa using UInt64.lt_iff_toNat_lt.1 (UInt64.not_le.1 h)

theorem toNat_add_of_checkedSub {a b d : UInt64} (h : checkedSub a b = some d) :
    d.toNat + b.toNat = a.toNat := by
  unfold checkedSub at h
  split at h
  next hle =>
    cases h
    have hle' := UInt64.le_iff_toNat_le.1 hle
    rw [UInt64.toNat_sub_of_le _ _ hle]
    omega
  next => cases h

theorem toNat_saturatingSub (a b : UInt64) : (saturatingSub a b).toNat = a.toNat - b.toNat := by
  unfold saturatingSub
  cases h : checkedSub a b with
  | some d =>
    have hd := toNat_add_of_checkedSub h
    show d.toNat = _
    omega
  | none =>
    have hlt := (checkedSub_eq_none_iff a b).1 h
    show 0 = _
    omega

theorem toNat_min (a b : UInt64) : (min a b).toNat = min a.toNat b.toNat := by
  show (if a ≤ b then a else b).toNat = _
  split
  next h => exact (Nat.min_eq_left (UInt64.le_iff_toNat_le.1 h)).symm
  next h =>
    have hlt := UInt64.lt_iff_toNat_lt.1 (UInt64.not_le.1 h)
    exact (Nat.min_eq_right (Nat.le_of_lt hlt)).symm

theorem toNat_pos {w : UInt64} (h : w ≠ 0) : 0 < w.toNat :=
  Nat.pos_of_ne_zero fun hzero => h (UInt64.toNat_inj.1 hzero)

theorem ofNat?_toNat (w : UInt64) : ofNat? w.toNat = some w := ofNat?_eq_some_iff.2 rfl

theorem foldl_add_toNat (words : List UInt64) (start : Nat) :
    words.foldl (fun total word => total + word.toNat) start = start + exactSum words := by
  unfold exactSum
  induction words generalizing start with
  | nil => rfl
  | cons w words ih =>
    rw [List.foldl_cons, List.foldl_cons, ih (start + w.toNat), ih (0 + w.toNat)]
    omega

@[simp] theorem exactSum_nil : exactSum [] = 0 := rfl

@[simp] theorem exactSum_cons (w : UInt64) (words : List UInt64) :
    exactSum (w :: words) = w.toNat + exactSum words := by
  show words.foldl _ (0 + w.toNat) = _
  rw [foldl_add_toNat, Nat.zero_add]

theorem exactSum_append (words more : List UInt64) :
    exactSum (words ++ more) = exactSum words + exactSum more := by
  unfold exactSum
  rw [List.foldl_append, foldl_add_toNat more]
  rfl

theorem toNat_add {a b total : UInt64} (h : add a b = .ok total) :
    total.toNat = a.toNat + b.toNat := by
  unfold add at h
  split at h
  next w hw =>
    cases h
    exact toNat_of_ofNat? hw
  next => cases h

/-- A sum that returns a word returns the exact sum. -/
theorem toNat_sum {words : List UInt64} {total : UInt64} (h : sum words = .ok total) :
    total.toNat = exactSum words := by
  unfold sum at h
  split at h
  next w hw =>
    cases h
    exact toNat_of_ofNat? hw
  next => cases h

/-- A sum whose exact value fits a word returns. -/
theorem sum_ok {words : List UInt64} (h : exactSum words < wordCount) :
    ∃ total, sum words = .ok total := by
  unfold sum
  cases hsum : ofNat? (exactSum words) with
  | some total => exact ⟨total, rfl⟩
  | none => exact absurd h (Nat.not_lt.2 ((ofNat?_eq_none_iff _).1 hsum))

example : checkedMul 4294967296 4294967296 = none := by decide
example : saturatingMul 4294967296 4294967296 = 18446744073709551615 := by decide
example : sum [18446744073709551615, 1] = .error .additionOverflow := by rfl

end Word
end ScanLatency
