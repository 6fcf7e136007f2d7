import ScanLatency.Proofs.Observation
import ScanLatency.Proofs.Sizing

/-! Which refusal a pattern gets. Its span is compared as an exact number: a span beyond all words is
an overflow, a span beyond the device a matter of size, and the error tells that span and that size.
A refused pattern has touched nothing: no call was made, no offset drawn, and no time passed. -/
namespace ScanLatency

namespace Pattern

variable {p : Pattern} {fileSize : UInt64} {name : String}

theorem requiredSpan_eq_some_iff {required : UInt64} :
    p.requiredSpan = some required ↔ required.toNat = p.exactSpan := by
  rw [requiredSpan_eq, Word.ofNat?_eq_some_iff]

theorem requiredSpan_eq_none_iff : p.requiredSpan = none ↔ wordCount ≤ p.exactSpan := by
  rw [requiredSpan_eq, Word.ofNat?_eq_none_iff]

theorem maxStart_eq_overflow_iff : p.maxStart fileSize = .error (.spanOverflow name) ↔
    name = p.runName ∧ p.requiredSpan = none := by
  unfold maxStart
  cases p.requiredSpan with
  | none => simp [eq_comm]
  | some required => cases h : Word.checkedSub fileSize required <;> simp [h]

theorem maxStart_eq_sizing_iff {required size : UInt64} :
    p.maxStart fileSize = .error (.sizing name required size) ↔
      name = p.runName ∧ size = fileSize ∧ p.requiredSpan = some required ∧
        fileSize.toNat < required.toNat := by
  unfold maxStart
  cases p.requiredSpan with
  | none => simp
  | some span =>
    cases hsub : Word.checkedSub fileSize span with
    | none =>
      have hlt := (Word.checkedSub_eq_none_iff _ _).1 hsub
      simp only [hsub, Except.error.injEq, PatternError.sizing.injEq, Option.some.injEq]
      constructor
      · rintro ⟨rfl, rfl, rfl⟩
        exact ⟨rfl, rfl, rfl, hlt⟩
      · rintro ⟨rfl, rfl, rfl, _⟩
        exact ⟨rfl, rfl, rfl⟩
    | some limit =>
      have hroom := Word.toNat_add_of_checkedSub hsub
      simp only [hsub, reduceCtorEq, Option.some.injEq, false_iff]
      rintro ⟨_, _, rfl, hlt⟩
      omega

end Pattern

namespace Session

variable {δ ο : Type} [Device δ] [OffsetSource ο]

/-- The errors of the size check are exact, and come before anything else is done. A pattern overflows
if and only if no word holds its span; it is refused for its size if and only if its span is held by
a word and exceeds the device, and the error tells both numbers. The span that decides is the one
that the pattern states. -/
theorem refusals_exact (p : Pattern) (s : Session δ ο) :
    (∀ name, (s.run p).1 = .error (.failed (.spanOverflow name)) ↔
      name = p.runName ∧ wordCount ≤ p.exactSpan) ∧
    (∀ name required size, (s.run p).1 = .error (.failed (.sizing name required size)) ↔
      name = p.runName ∧ size = Device.size s.device ∧ required.toNat = p.exactSpan ∧
        size.toNat < p.exactSpan) ∧
    (∀ cause, (s.run p).1 = .error (.failed cause) → cause.isSizing →
      (s.run p).2 = s ∧ (s.observed.run p).2.device.calls = #[] ∧
        (s.observed.run p).2.source.draws = #[]) ∧
    (∀ required, p.requiredSpan = some required ↔ required.toNat = p.exactSpan) := by
  refine ⟨?overflow, ?sizing, ?untouched, fun _ => Pattern.requiredSpan_eq_some_iff⟩
  case overflow =>
    intro name
    rw [run_eq_refused_iff rfl, Pattern.maxStart_eq_overflow_iff, Pattern.requiredSpan_eq_none_iff]
  case sizing =>
    intro name required size
    rw [run_eq_refused_iff rfl, Pattern.maxStart_eq_sizing_iff, Pattern.requiredSpan_eq_some_iff]
    constructor
    · rintro ⟨rfl, rfl, hspan, hlt⟩
      exact ⟨rfl, rfl, hspan, hspan ▸ hlt⟩
    · rintro ⟨rfl, rfl, hspan, hlt⟩
      exact ⟨rfl, rfl, hspan, hspan ▸ hlt⟩
  case untouched =>
    intro cause h hsizing
    have hcause := (run_eq_refused_iff hsizing).1 h
    have hobserved : s.observed.run p = (_, s.observed) := run_of_maxStart_error hcause
    rw [run_of_maxStart_error hcause, hobserved]
    exact ⟨rfl, rfl, rfl⟩

/-- Jumps that together span all words, to the byte, and the same jumps with room for the read. -/
theorem refusals_exact_last_byte :
    let s : Session MemoryStore ScriptedOffsets := ⟨.ofBytes (.counting 1000), ⟨#[7], 0⟩, #[]⟩
    let p := Pattern.strideSeeks 4294967296 4294967295 4294967295
    (∃ name, (s.run (.strideSeeks 4294967296 4294967295 4294967296)).1 =
      .error (.failed (.spanOverflow name))) ∧
    (∃ name, (s.run p).1 = .error (.failed (.sizing name 18446744073709551615 1000))) ∧
    (s.run p).2 = s ∧ (s.observed.run p).2.device.calls = #[] ∧
      (s.observed.run p).2.source.draws = #[] := by
  intro s p
  obtain ⟨hoverflow, -, -, -⟩ := refusals_exact (.strideSeeks 4294967296 4294967295 4294967296) s
  obtain ⟨-, hsizing, huntouched, -⟩ := refusals_exact p s
  have hrefused : (s.run p).1 =
      .error (.failed (.sizing p.runName 18446744073709551615 1000)) := by
    refine (hsizing _ _ _).2 ⟨rfl, rfl, ?_, ?_⟩
    all_goals decide
  exact ⟨⟨_, (hoverflow _).2 ⟨rfl, by decide⟩⟩, ⟨_, hrefused⟩, huntouched _ hrefused rfl⟩

end Session
end ScanLatency
