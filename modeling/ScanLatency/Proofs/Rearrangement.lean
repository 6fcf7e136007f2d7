import Mathlib.Logic.Relation
import ScanLatency.Comparison
import ScanLatency.Proofs.Summary

/-! Results as multisets of durations. A sum is exact before it is rounded and a sorted list has no
memory of the order before, so neither the summary of a pattern nor the comparison of a run tells
two arrangements of the same durations apart; the comparison never looks at the strided scan. -/
namespace ScanLatency

/-! ### Sums and summaries of permuted durations -/

namespace Word

variable {words words' : List UInt64}

theorem exactSum_perm (h : words.Perm words') : exactSum words = exactSum words' := by
  induction h with
  | nil => rfl
  | cons w _ ih => simp [ih]
  | swap w v words =>
    simp only [exactSum_cons]
    omega
  | trans _ _ ih ih' => exact ih.trans ih'

theorem sum_perm (h : words.Perm words') : sum words = sum words' := by
  simp [sum, exactSum_perm h]

theorem sum_eq_overflow_iff :
    sum words = .error .additionOverflow ↔ wordCount ≤ exactSum words := by
  rw [← ofNat?_eq_none_iff]
  unfold sum
  cases ofNat? (exactSum words) <;> simp

end Word

namespace Statistics

variable {durations durations' : List UInt64}

theorem ascending_perm (h : durations.Perm durations') :
    ascending durations = ascending durations' := by
  have hperm : (ascending durations).toList.Perm (ascending durations').toList :=
    (perm_ascending durations).trans (h.trans (perm_ascending durations').symm)
  apply Array.toList_inj.1
  exact hperm.eq_of_pairwise (fun _ _ _ _ => UInt64.le_antisymm) (pairwise_ascending durations)
    (pairwise_ascending durations')

theorem ofDurations_perm (h : durations.Perm durations') :
    ofDurations durations = ofDurations durations' := by
  have hempty : durations.isEmpty = durations'.isEmpty := by
    rw [Bool.eq_iff_iff]
    simp only [List.isEmpty_iff_length_eq_zero, h.length_eq]
  unfold ofDurations
  rw [hempty, Word.sum_perm h, ascending_perm h, h.length_eq]

/-- Nothing but the sum keeps a summary from being made. -/
theorem ofDurations_eq_overflow_iff :
    ofDurations durations = .error .additionOverflow ↔ wordCount ≤ Word.exactSum durations := by
  by_cases hne : durations = []
  · simp [hne, ofDurations]
  · have hempty : ¬durations.isEmpty = true := by simpa using hne
    constructor
    · intro h
      by_contra hsum
      obtain ⟨_, -, hok⟩ := ofDurations_eq hne (Nat.lt_of_not_le hsum)
      cases h.symm.trans hok
    · intro h
      rw [ofDurations, if_neg hempty, Word.sum_eq_overflow_iff.2 h]
      rfl

end Statistics

/-! ### Tellings of one pattern's samples -/

namespace PatternResult

variable {r r' : PatternResult} {batches : List (Array Sample)}

def extendAll (r : PatternResult) (batches : List (Array Sample)) : PatternResult :=
  batches.foldl extend r

@[simp] theorem kind_extendAll (r : PatternResult) (batches : List (Array Sample)) :
    (r.extendAll batches).kind = r.kind := by
  unfold extendAll
  induction batches generalizing r with
  | nil => rfl
  | cons samples batches ih => exact ih (r.extend samples)

theorem toList_extendAll (r : PatternResult) (batches : List (Array Sample)) :
    (r.extendAll batches).samples.toList = r.samples.toList ++ batches.flatMap (·.toList) := by
  unfold extendAll
  induction batches generalizing r with
  | nil => simp
  | cons samples batches ih => simp [ih, extend]

/-- The same durations told in another way: in another order, in other batches, or with other byte
counts and marks beside them. -/
inductive Retold : PatternResult → PatternResult → Prop
  | permuted {r : PatternResult} {samples : Array Sample}
      (h : samples.toList.Perm r.samples.toList) : Retold r { r with samples }
  | rebatched {r : PatternResult} {batches batches' : List (Array Sample)}
      (h : (batches.flatMap (·.toList)).Perm (batches'.flatMap (·.toList))) :
      Retold (r.extendAll batches) (r.extendAll batches')
  | remarked {r : PatternResult} {samples : Array Sample}
      (h : samples.toList.map (·.nanos) = r.samples.toList.map (·.nanos)) :
      Retold r { r with samples }

namespace Retold

theorem kind_eq (h : Retold r r') : r'.kind = r.kind := by
  cases h with
  | permuted | remarked => rfl
  | rebatched => simp

theorem durations_perm (h : Retold r r') : r'.durations.Perm r.durations := by
  cases h with
  | permuted h => exact h.map (·.nanos)
  | rebatched h =>
    simp only [durations, toList_extendAll]
    exact ((h.symm.append_left _).map (·.nanos))
  | remarked h => exact .of_eq h

end Retold
end PatternResult

/-! ### Tellings of a run's results -/

namespace Comparison

variable {r r' : PatternResult} {before after : List PatternResult} {kind : PatternKind}
  {results results' : List PatternResult}

/-- One change to the results of a run that no comparison is about. -/
inductive Restated : List PatternResult → List PatternResult → Prop
  | retold {r r' : PatternResult} {before after : List PatternResult} (h : r.Retold r') :
      Restated (before ++ r :: after) (before ++ r' :: after)
  | replaced {r r' : PatternResult} {before after : List PatternResult}
      (h : r.kind = .strideScan) (h' : r'.kind = .strideScan) :
      Restated (before ++ r :: after) (before ++ r' :: after)
  | removed {r : PatternResult} {before after : List PatternResult} (h : r.kind = .strideScan) :
      Restated (before ++ r :: after) (before ++ after)

theorem totalMs_of_perm (hkind : r'.kind = r.kind) (h : r'.durations.Perm r.durations) :
    totalMs (before ++ r' :: after) kind = totalMs (before ++ r :: after) kind := by
  have htotal : r'.totalNanos = r.totalNanos := Word.sum_perm h
  unfold totalMs
  rw [List.find?_append, List.find?_append, List.find?_cons, List.find?_cons, hkind]
  cases before.find? (·.kind = kind) with
  | some s => rfl
  | none => by_cases hr : r.kind = kind <;> simp [hr, htotal]

theorem totalMs_of_ne (hkind : r.kind ≠ kind) :
    totalMs (before ++ r :: after) kind = totalMs (before ++ after) kind := by
  simp [totalMs, hkind]

theorem Restated.totalMs_eq (h : Restated results results') (hkind : kind ≠ .strideScan) :
    totalMs results' kind = totalMs results kind := by
  have hother {r : PatternResult} (hr : r.kind = .strideScan) : r.kind ≠ kind :=
    fun hr' => hkind (hr'.symm.trans hr)
  cases h with
  | retold h => exact totalMs_of_perm h.kind_eq h.durations_perm
  | replaced h h' => rw [totalMs_of_ne (hother h'), totalMs_of_ne (hother h)]
  | removed h => exact (totalMs_of_ne (hother h)).symm

theorem Restated.ofResults_eq (h : Restated results results') (groupSize : UInt64)
    (divisor : Number.Binary64) :
    ofResults groupSize divisor results' = ofResults groupSize divisor results := by
  have hgrouped : PatternKind.groupedScan ≠ .strideScan := by decide
  have hsingles : PatternKind.singlesScan ≠ .strideScan := by decide
  have hlarge : PatternKind.largeSequential ≠ .strideScan := by decide
  have hsingle : PatternKind.singleSequential ≠ .strideScan := by decide
  unfold ofResults
  rw [h.totalMs_eq hgrouped, h.totalMs_eq hsingles, h.totalMs_eq hlarge, h.totalMs_eq hsingle]

/-- Results that differ by any number of permutations, of new batches, of new marks and of changes
to the strided scan are compared alike, aborts included. The summary and the total of a pattern are
those of its samples in any order, and are missing just if the exact sum of the durations is no
word. -/
theorem ofResults_eq_of_restated :
    (∀ results results', Relation.EqvGen Restated results results' → ∀ groupSize divisor,
      ofResults groupSize divisor results = ofResults groupSize divisor results') ∧
    (∀ (r : PatternResult) (samples : Array Sample), samples.toList.Perm r.samples.toList →
      { r with samples }.statistics = r.statistics ∧ { r with samples }.totalNanos = r.totalNanos) ∧
    ∀ r : PatternResult, (r.statistics = .error .additionOverflow ↔
        wordCount ≤ Word.exactSum r.durations) ∧
      (r.totalNanos = .error .additionOverflow ↔ wordCount ≤ Word.exactSum r.durations) := by
  refine ⟨?_, ?_, fun r => ⟨Statistics.ofDurations_eq_overflow_iff, Word.sum_eq_overflow_iff⟩⟩
  · intro results results' h groupSize divisor
    induction h with
    | rel _ _ hstep => exact (hstep.ofResults_eq groupSize divisor).symm
    | refl => rfl
    | symm _ _ _ ih => exact ih.symm
    | trans _ _ _ _ _ ih ih' => exact ih.trans ih'
  · intro r samples h
    have hdurations := (PatternResult.Retold.permuted h).durations_perm
    exact ⟨Statistics.ofDurations_perm hdurations, Word.sum_perm hdurations⟩

/-- A grouped scan whose two samples change places, after which one of them is marked short and the
strided scan behind them is dropped; a third sample makes the sum too large in every order. -/
theorem ofResults_eq_of_marked_swap :
    let grouped : PatternResult :=
      ⟨.groupedScan, .groupedScan 2 4, "", 8, #[⟨7, 4, false⟩, ⟨5, 4, false⟩]⟩
    let strided : PatternResult := ⟨.strideScan, .strideSeeks 0 4 4, "", 8, #[⟨9, 4, false⟩]⟩
    let swapped := { grouped with samples := #[⟨5, 4, false⟩, ⟨7, 4, false⟩] }
    let marked := { grouped with samples := #[⟨5, 3, true⟩, ⟨7, 4, false⟩] }
    let long := { grouped with samples := #[⟨18446744073709551615, 4, false⟩, ⟨5, 4, false⟩] }
    ofResults 2 defaultDivisor [grouped, strided] = ofResults 2 defaultDivisor [marked] ∧
      swapped.statistics = grouped.statistics ∧
      { long with samples := #[⟨5, 4, false⟩, ⟨18446744073709551615, 4, false⟩] }.statistics =
        .error .additionOverflow := by
  intro grouped strided swapped marked long
  obtain ⟨hresults, hsamples, hoverflow⟩ := ofResults_eq_of_restated
  refine ⟨hresults _ _ ?_ 2 defaultDivisor, (hsamples grouped _ (by decide)).1, ?_⟩
  · have hremoved : Restated ([grouped] ++ strided :: []) ([grouped] ++ []) := .removed rfl
    have hswapped : Restated ([] ++ grouped :: []) ([] ++ swapped :: []) :=
      .retold (.permuted (by decide))
    have hmarked : Restated ([] ++ swapped :: []) ([] ++ marked :: []) :=
      .retold (.remarked (by decide))
    exact .trans _ _ _ (.rel _ _ hremoved) (.trans _ _ _ (.rel _ _ hswapped) (.rel _ _ hmarked))
  · rw [(hsamples long _ (by decide)).1, (hoverflow long).1]
    decide

end Comparison
end ScanLatency
