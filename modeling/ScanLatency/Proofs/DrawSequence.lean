import Mathlib.Data.Nat.Notation
import ScanLatency.Proofs.OffsetRange

/-! Sources asked for one offset after the other. Whatever the maxima are, a seeded source keeps to
each of them, and a scripted source replays its script lowered to them, over and over. -/
namespace ScanLatency

namespace OffsetSource

variable {ο : Type} [OffsetSource ο]

/-- An offset for each maximum in turn, and the source after the last draw. -/
def drawAll : List UInt64 → ο → List UInt64 × ο
  | [], source => ([], source)
  | max :: maxima, source =>
    let (offset, source) := draw max source
    let (offsets, source) := drawAll maxima source
    (offset :: offsets, source)

@[simp] theorem drawAll_nil (source : ο) : drawAll [] source = ([], source) := rfl

@[simp] theorem drawAll_cons (max : UInt64) (maxima : List UInt64) (source : ο) :
    drawAll (max :: maxima) source =
      ((draw max source).1 :: (drawAll maxima (draw max source).2).1,
        (drawAll maxima (draw max source).2).2) := rfl

/-- Each draw finds the source that the draws before it have left. -/
theorem getElem?_drawAll (maxima : List UInt64) (source : ο) (k : ℕ) :
    (drawAll maxima source).1[k]? =
      maxima[k]?.map fun max => (draw max (drawAll (maxima.take k) source).2).1 := by
  induction maxima generalizing source k with
  | nil => rfl
  | cons max maxima ih =>
    cases k with
    | zero => rfl
    | succ k =>
      rw [drawAll_cons, List.getElem?_cons_succ, List.getElem?_cons_succ, List.take_succ_cons,
        drawAll_cons]
      exact ih (draw max source).2 k

end OffsetSource

namespace ScriptedOffsets

open OffsetSource (drawAll)

/-- A script that is not empty has an entry for every draw. -/
theorem draw_of_ne_empty {script : Array UInt64} (h : script ≠ #[]) (max : UInt64) (n : ℕ) :
    ∃ entry, script[n % script.size]? = some entry ∧
      OffsetSource.draw max (ScriptedOffsets.mk script n) =
        (min entry max, ScriptedOffsets.mk script (n + 1)) := by
  have hindex : n % script.size < script.size := Nat.mod_lt _ (Array.size_pos_iff.2 h)
  refine ⟨script[n % script.size], Array.getElem?_eq_getElem hindex, ?_⟩
  show draw max _ = _
  simp only [draw, Array.getElem?_eq_getElem hindex]

theorem drawAll_snd_of_ne_empty {script : Array UInt64} (h : script ≠ #[]) (maxima : List UInt64)
    (n : ℕ) :
    (drawAll maxima (ScriptedOffsets.mk script n)).2 =
      ScriptedOffsets.mk script (n + maxima.length) := by
  induction maxima generalizing n with
  | nil => rfl
  | cons max maxima ih =>
    obtain ⟨_, _, hdraw⟩ := draw_of_ne_empty h max n
    rw [OffsetSource.drawAll_cons, hdraw, ih, List.length_cons, Nat.add_right_comm, Nat.add_assoc]

theorem drawAll_snd_of_empty (maxima : List UInt64) (n : ℕ) :
    (drawAll maxima (ScriptedOffsets.mk #[] n)).2 = ScriptedOffsets.mk #[] n := by
  induction maxima with
  | nil => rfl
  | cons max maxima ih => exact ih

end ScriptedOffsets

namespace OffsetSource

/-- Sources keep their contract over any sequence of draws. A seeded source gives a random fraction of
the results that each maximum allows, rounded down, and so never more than the maximum. A scripted
source, asked no more often than a word counts, gives the entries of its script in turn, from its
start again whenever it runs out, each lowered to its maximum; an empty script gives zero. -/
theorem drawAll_keeps_contract (maxima : List UInt64) :
    (∀ (seed : UInt64) (k : ℕ) (max : UInt64), maxima[k]? = some max →
      ∃ offset, (drawAll maxima (SeededOffsets.ofSeed seed)).1[k]? = some offset ∧ offset ≤ max ∧
        offset.toNat =
          (drawAll (maxima.take k) (SeededOffsets.ofSeed seed)).2.stream.fraction *
            (max.toNat + 1) / (wordCount * wordCount)) ∧
    ∀ script : Array UInt64, maxima.length < wordCount →
      (drawAll maxima (ScriptedOffsets.mk script 0)).2.drawn < wordCount ∧
      ∀ (k : ℕ) (max : UInt64), maxima[k]? = some max →
        (script = #[] → (drawAll maxima (ScriptedOffsets.mk script 0)).1[k]? = some 0) ∧
        (script ≠ #[] → ∃ entry, script[k % script.size]? = some entry ∧
          (drawAll maxima (ScriptedOffsets.mk script 0)).1[k]? = some (min entry max)) := by
  refine ⟨?seeded, ?scripted⟩
  case seeded =>
    intro seed k max hk
    let source := (drawAll (maxima.take k) (SeededOffsets.ofSeed seed)).2
    refine ⟨(draw max source).1, ?_, LawfulOffsetSource.draw_le max source, ?_⟩
    · rw [getElem?_drawAll, hk]
      rfl
    · exact SeededOffsets.toNat_uniform max source.stream
  case scripted =>
    intro script hfew
    by_cases hempty : script = #[]
    · subst hempty
      refine ⟨?_, fun k max hk => ⟨fun _ => ?_, fun hne => absurd rfl hne⟩⟩
      · rw [ScriptedOffsets.drawAll_snd_of_empty]
        decide
      · rw [getElem?_drawAll, hk, ScriptedOffsets.drawAll_snd_of_empty]
        rfl
    · refine ⟨?_, fun k max hk => ⟨fun h => absurd h hempty, fun _ => ?_⟩⟩
      · rw [ScriptedOffsets.drawAll_snd_of_ne_empty hempty, Nat.zero_add]
        exact hfew
      · obtain ⟨hlt, -⟩ := List.getElem?_eq_some_iff.1 hk
        obtain ⟨entry, hentry, hdraw⟩ := ScriptedOffsets.draw_of_ne_empty hempty max k
        refine ⟨entry, hentry, ?_⟩
        rw [getElem?_drawAll, hk, ScriptedOffsets.drawAll_snd_of_ne_empty hempty, Nat.zero_add,
          List.length_take_of_le (Nat.le_of_lt hlt), Option.map_some, hdraw]

/-- The largest word, zero and a maximum below the script's second entry, drawn from a seed, from a
script that starts again and from an empty one. -/
theorem drawAll_keeps_contract_second_round :
    let maxima : List UInt64 := [18446744073709551615, 0, 99, 99]
    maxima.length < wordCount ∧ maxima[3]? = some 99 ∧ (#[10, 500] : Array UInt64) ≠ #[] ∧
      (∃ offset, (drawAll maxima (SeededOffsets.ofSeed 42)).1[3]? = some offset ∧ offset ≤ 99) ∧
      (drawAll maxima (ScriptedOffsets.mk #[10, 500] 0)).1[3]? = some 99 ∧
      (drawAll maxima (ScriptedOffsets.mk #[] 0)).1[3]? = some 0 := by
  intro maxima
  have hfew : maxima.length < wordCount := by decide
  have hscript : (#[10, 500] : Array UInt64) ≠ #[] := by decide
  obtain ⟨hseeded, hscripted⟩ := drawAll_keeps_contract maxima
  obtain ⟨offset, hoffset, hle, -⟩ := hseeded 42 3 99 rfl
  obtain ⟨entry, hentry, hvalue⟩ := ((hscripted #[10, 500] hfew).2 3 99 rfl).2 hscript
  obtain rfl : 500 = entry := Option.some.inj hentry
  have hzero := ((hscripted #[] hfew).2 3 99 rfl).1 rfl
  exact ⟨hfew, rfl, hscript, ⟨offset, hoffset, hle⟩, hvalue, hzero⟩

end OffsetSource
end ScanLatency
