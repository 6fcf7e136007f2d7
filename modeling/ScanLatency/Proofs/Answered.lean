import ScanLatency.Proofs.Coldness
import ScanLatency.Proofs.OffsetIndependence

/-! What calls that all succeed make of a device. A pattern goes on only as long as its calls
succeed, so that everything up to the call that ends it is such a chain: its records, its operations
and its time can be counted call by call. -/
namespace ScanLatency

namespace Device

variable {δ ε : Type} [Device δ] [Device ε]

/-- The second device is what calls that all succeeded have made of the first; the numbers are those
of the seeks and of the reads among them. -/
inductive Answered (d : δ) : ℕ → ℕ → δ → Prop
  | refl : Answered d 0 0 d
  | now {i j e} (h : Answered d i j e) : Answered d i j (Clock.now e).2
  | seek {i j e e'} {offset : UInt64} (h : Answered d i j e)
      (sought : Device.seek offset e = (.ok (), e')) : Answered d (i + 1) j e'
  | read {i j e e'} {length got : UInt64} (h : Answered d i j e)
      (fetched : Device.read length e = (.ok got, e')) : Answered d i (j + 1) e'

namespace Answered

variable {d e f : δ} {i j k l : ℕ}

theorem reaches (h : Answered d i j e) : Reaches d e := by
  induction h with
  | refl => exact .refl
  | now _ ih => exact ih.now
  | @seek _ _ _ _ offset _ sought ih =>
    have hseek := ih.seek offset
    rwa [sought] at hseek
  | @read _ _ _ _ length _ _ fetched ih =>
    have hread := ih.read length
    rwa [fetched] at hread

theorem trans (h : Answered d i j e) (h' : Answered e k l f) : Answered d (i + k) (j + l) f := by
  induction h' with
  | refl => exact h
  | now _ ih => exact ih.now
  | seek _ sought ih => exact ih.seek sought
  | read _ fetched ih => exact ih.read fetched

theorem map {g : δ → ε} (hg : Morphism g) (h : Answered d i j e) : Answered (g d) i j (g e) := by
  induction h with
  | refl => exact .refl
  | now _ ih =>
    have hnow := ih.now
    rwa [hg.now] at hnow
  | seek _ sought ih => exact ih.seek (by rw [hg.seek, sought]; rfl)
  | read _ fetched ih => exact ih.read (by rw [hg.read, fetched]; rfl)

/-- An access that gives something is a seek, if it has a target, and a read. -/
theorem access {target : Option UInt64} {length got : UInt64}
    (h : Device.access target length d = (.ok got, e)) :
    Answered d target.toList.length 1 e := by
  cases target with
  | none => exact .read .refl h
  | some offset =>
    obtain ⟨_, hseek, hread⟩ := access_some_ok h
    exact .read (.seek .refl hseek) hread

theorem sample {target : Option UInt64} {length : UInt64} {sample : Sample}
    (h : Device.sample target length d = (.ok sample, e)) :
    Answered d target.toList.length 1 e := by
  obtain ⟨_, _, haccess, rfl, _⟩ := sampled_ok h
  have hopen : Answered d 0 0 (Clock.now d).2 := .now .refl
  simpa using (hopen.trans (access haccess)).now

end Answered
end Device

/-- Each call is recorded once. -/
theorem Watched.size_calls {δ : Type} [Device δ] {w w' : Watched δ} {i j : ℕ}
    (h : Device.Answered w i j w') : w'.calls.size = w.calls.size + i + j := by
  induction h with
  | refl => rfl
  | now _ ih => exact ih
  | seek _ sought ih =>
    simp only [Device.seek, Prod.mk.injEq] at sought
    rw [← sought.2, Array.size_push, ih]
    omega
  | read _ fetched ih =>
    simp only [Device.read, Prod.mk.injEq] at fetched
    rw [← fetched.2, Array.size_push, ih]
    omega

/-- Draws stay on record. -/
theorem Logged.draws_isPrefix {ο : Type} [OffsetSource ο] (max : UInt64) (l : Logged ο) :
    l.draws.toList <+: (OffsetSource.draw max l).2.draws.toList := ⟨_, Array.toList_push.symm⟩

namespace MemoryStore

/-- Operations stay on record, whatever is called. -/
theorem operations_isPrefix {m e : MemoryStore} (h : Device.Reaches m e) :
    m.operations.toList <+: e.operations.toList :=
  kept_of_reaches (m.operations.toList <+: ·.operations.toList)
    (fun _ _ _ he => he.trans ⟨_, Array.toList_push.symm⟩) h List.prefix_rfl

/-- Each call that succeeds is recorded as one operation. -/
theorem size_operations {m e : MemoryStore} {i j : ℕ} (h : Device.Answered m i j e) :
    e.operations.size = m.operations.size + i + j := by
  induction h with
  | refl => rfl
  | now _ ih => exact ih
  | seek _ sought ih =>
    simp only [Device.seek] at sought
    split at sought
    next heq =>
      cases sought
      obtain ⟨_, _, rfl⟩ := seek_ok heq
      simp only [record, Array.size_push, ih]
      omega
    next => cases sought
  | read _ fetched ih =>
    simp only [Device.read] at fetched
    split at fetched
    next heq =>
      cases fetched
      obtain ⟨_, _, _, rfl⟩ := skim_ok heq
      simp only [record, Array.size_push, ih]
      omega
    next => cases fetched

end MemoryStore
end ScanLatency
