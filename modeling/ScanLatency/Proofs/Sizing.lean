import Mathlib.Tactic.Ring
import ScanLatency.Memory.Store
import ScanLatency.Proofs.Reads
import ScanLatency.Suite

/-! Which patterns a device is too small for. A pattern is refused exactly when its span, computed
without any bound on numbers, exceeds the size of the device. Saturated products do not spoil this:
below the largest word a saturated number and the exact one cannot be told apart, and sums and
products of such numbers cannot either. -/
namespace ScanLatency

namespace Word

/-- Two numbers that are equal, or both at least the largest word. -/
def Indistinct (a b : ℕ) : Prop := min a (wordCount - 1) = min b (wordCount - 1)

namespace Indistinct

theorem refl (a : ℕ) : Indistinct a a := rfl

theorem trans {a b c : ℕ} (h : Indistinct a b) (h' : Indistinct b c) : Indistinct a c :=
  Eq.trans h h'

theorem eq_or_le {a b : ℕ} (h : Indistinct a b) :
    a = b ∨ wordCount - 1 ≤ a ∧ wordCount - 1 ≤ b := by
  unfold Indistinct at h
  omega

theorem of_le {a b : ℕ} (ha : wordCount - 1 ≤ a) (hb : wordCount - 1 ≤ b) : Indistinct a b := by
  unfold Indistinct
  omega

theorem add {a b c d : ℕ} (h : Indistinct a b) (h' : Indistinct c d) :
    Indistinct (a + c) (b + d) := by
  unfold Indistinct at *
  omega

/-- Zero absorbs what saturated; every other factor keeps it above the largest word. -/
theorem mul {a b c d : ℕ} (h : Indistinct a b) (h' : Indistinct c d) :
    Indistinct (a * c) (b * d) := by
  rcases h.eq_or_le with rfl | ⟨ha, hb⟩ <;> rcases h'.eq_or_le with rfl | ⟨hc, hd⟩
  · exact refl _
  · rcases Nat.eq_zero_or_pos a with rfl | hpos
    · simpa using refl 0
    · exact of_le (hc.trans (Nat.le_mul_of_pos_left c hpos)) (hd.trans (Nat.le_mul_of_pos_left d hpos))
  · rcases Nat.eq_zero_or_pos c with rfl | hpos
    · simpa using refl 0
    · exact of_le (ha.trans (Nat.le_mul_of_pos_right a hpos)) (hb.trans (Nat.le_mul_of_pos_right b hpos))
  · have hone : 0 < wordCount - 1 := by decide
    exact of_le (ha.trans (Nat.le_mul_of_pos_right a (by omega)))
      (hb.trans (Nat.le_mul_of_pos_right b (by omega)))

theorem saturatingMul (a b : UInt64) : Indistinct (saturatingMul a b).toNat (a.toNat * b.toNat) := by
  rw [toNat_saturatingMul]
  unfold Indistinct
  omega

/-- A number below the largest word compares alike with both. -/
theorem lt_iff {a b n : ℕ} (h : Indistinct a b) (hn : n < wordCount - 1) : n < a ↔ n < b := by
  unfold Indistinct at h
  omega

end Indistinct
end Word

namespace Pattern

/-- The bytes that a pattern must be able to address, however many they are. -/
def exactSpan : Pattern → ℕ
  | .randomSeeks _ blockSize => blockSize.toNat
  | .strideSeeks jumps stride blockSize => jumps.toNat * stride.toNat + blockSize.toNat
  | .sequentialLarge totalBytes => totalBytes.toNat
  | .groupedScan n scanSize => n.toNat * scanSize.toNat
  | .singlesScan _ scanSize => scanSize.toNat

/-- The span is known exactly as long as it fits a word. -/
theorem requiredSpan_eq (p : Pattern) : p.requiredSpan = Word.ofNat? p.exactSpan := by
  cases p with
  | randomSeeks count blockSize => exact (Word.ofNat?_toNat blockSize).symm
  | strideSeeks jumps stride blockSize =>
    show (Word.ofNat? (jumps.toNat * stride.toNat)).bind _ =
      Word.ofNat? (jumps.toNat * stride.toNat + blockSize.toNat)
    cases h : Word.ofNat? (jumps.toNat * stride.toNat) with
    | none =>
      have hle := (Word.ofNat?_eq_none_iff _).1 h
      exact ((Word.ofNat?_eq_none_iff _).2 (by omega)).symm
    | some jumped =>
      rw [← Word.toNat_of_ofNat? h]
      rfl
  | sequentialLarge totalBytes => exact (Word.ofNat?_toNat totalBytes).symm
  | groupedScan n scanSize => rfl
  | singlesScan n scanSize => exact (Word.ofNat?_toNat scanSize).symm

/-- A pattern that fits may start wherever its whole span still lies inside the file. -/
theorem toNat_add_of_maxStart {p : Pattern} {fileSize limit : UInt64}
    (h : p.maxStart fileSize = .ok limit) : limit.toNat + p.exactSpan = fileSize.toNat := by
  unfold maxStart at h
  rw [requiredSpan_eq] at h
  split at h
  next => cases h
  next required hspan =>
    split at h
    next l hsub =>
      cases h
      rw [← Word.toNat_of_ofNat? hspan]
      exact Word.toNat_add_of_checkedSub hsub
    next => cases h

theorem lt_exactSpan_of_maxStart {p : Pattern} {fileSize : UInt64} {cause : PatternError}
    (h : p.maxStart fileSize = .error cause) :
    fileSize.toNat < p.exactSpan ∧ cause.isSizing = true := by
  unfold maxStart at h
  rw [requiredSpan_eq] at h
  split at h
  next hspan =>
    cases h
    have hle := (Word.ofNat?_eq_none_iff _).1 hspan
    have hlt : fileSize.toNat < wordCount := UInt64.toNat_lt fileSize
    exact ⟨by omega, rfl⟩
  next required hspan =>
    split at h
    next => cases h
    next hsub =>
      cases h
      rw [← Word.toNat_of_ofNat? hspan]
      exact ⟨(Word.checkedSub_eq_none_iff _ _).1 hsub, rfl⟩

end Pattern

namespace Session

variable {δ ο : Type} [Device δ] [OffsetSource ο]

theorem run_of_maxStart_error {p : Pattern} {s : Session δ ο} {cause : PatternError}
    (h : p.maxStart (Device.size s.device) = .error cause) :
    s.run p = (.error (.failed cause), s) := by
  simp only [run, h]

/-- A pattern is refused by its size check alone. -/
theorem run_eq_refused_iff {p : Pattern} {s : Session δ ο} {cause : PatternError}
    (hsizing : cause.isSizing) : (s.run p).1 = .error (.failed cause) ↔
      p.maxStart (Device.size s.device) = .error cause := by
  constructor
  · intro h
    rcases stops_of_run (Prod.ext h rfl : s.run p = (_, (s.run p).2)) with
      ⟨cause', hcause, hhalt, _⟩ | ⟨_, _, ⟨_, _, _, hhalt, _⟩ | ⟨_, _, _, _, _, _, _, hstops⟩⟩
    · cases hhalt
      exact hcause
    · cases hhalt
    · obtain ⟨_, _, rfl, _⟩ := hstops.io
      cases hsizing
  · intro h
    rw [run_of_maxStart_error h]

/-- The pattern is refused because the device is too small for it, or any device would be. -/
def Rejects (s : Session δ ο) (p : Pattern) : Prop :=
  ∃ cause, (s.run p).1 = .error (.failed cause) ∧ cause.isSizing = true

/-- A pattern is refused for its size if and only if its exact span exceeds the size. -/
theorem rejects_iff (s : Session δ ο) (p : Pattern) :
    s.Rejects p ↔ (Device.size s.device).toNat < p.exactSpan := by
  constructor
  · rintro ⟨cause, hrun, hsizing⟩
    exact (Pattern.lt_exactSpan_of_maxStart ((run_eq_refused_iff hsizing).1 hrun)).1
  · intro hlt
    cases h : p.maxStart (Device.size s.device) with
    | error cause =>
      obtain ⟨_, hsizing⟩ := Pattern.lt_exactSpan_of_maxStart h
      exact ⟨cause, (run_eq_refused_iff hsizing).2 h, hsizing⟩
    | ok limit =>
      have hroom := Pattern.toNat_add_of_maxStart h
      omega

end Session

namespace Layout

def exactJumps (l : Layout) : ℕ := max 1 (524288 / l.scanElements.toNat)

/-- The bytes that the pattern of a kind spans, from four bytes an entry, without any bound on
numbers. -/
def exactSpan (l : Layout) (kind : PatternKind) : ℕ :=
  let scan := 4 * l.scanElements.toNat
  match kind with
  | .groupedScan => l.groupSize.toNat * scan
  | .singlesScan => scan
  | .strideScan => scan + (l.exactJumps - 1) * (l.groupSize.toNat * scan)
  | .largeSequential => l.groupSize.toNat * scan * l.exactJumps
  | .singleSequential => scan * l.exactJumps

theorem toNat_jumpsAcrossGroups (l : Layout) : l.jumpsAcrossGroups.toNat = l.exactJumps := by
  unfold jumpsAcrossGroups exactJumps
  have hentries : entriesPerPartition.toNat = 524288 := by decide
  split
  next h => simp [h]
  next h =>
    have hdiv : (entriesPerPartition / l.scanElements).toNat = 524288 / l.scanElements.toNat := by
      rw [UInt64.toNat_div, hentries]
    show (if _ then _ else _ : UInt64).toNat = _
    split
    next hle =>
      have := UInt64.le_iff_toNat_le.1 hle
      rw [← hdiv]
      exact (max_eq_right this).symm
    next hlt =>
      have := UInt64.lt_iff_toNat_lt.1 (UInt64.not_le.1 hlt)
      rw [← hdiv]
      exact (max_eq_left (Nat.le_of_lt this)).symm

theorem scanBytes_indistinct (l : Layout) :
    Word.Indistinct l.scanBytes.toNat (4 * l.scanElements.toNat) := by
  rw [Nat.mul_comm]
  exact .saturatingMul _ _

theorem jumpDistance_indistinct (l : Layout) :
    Word.Indistinct l.jumpDistance.toNat (l.groupSize.toNat * (4 * l.scanElements.toNat)) :=
  (Word.Indistinct.saturatingMul _ _).trans (.mul (.refl _) l.scanBytes_indistinct)

/-- Whatever saturated on the way, the span of a planned pattern is the exact one of its kind, or
both are beyond every device. -/
theorem suite_indistinct (l : Layout) {planned : PlannedPattern} (h : planned ∈ l.suite) :
    Word.Indistinct planned.pattern.exactSpan (l.exactSpan planned.kind) := by
  have hjumps := l.toNat_jumpsAcrossGroups
  simp only [suite, List.mem_cons, List.not_mem_nil, or_false] at h
  rcases h with rfl | rfl | rfl | rfl | rfl
  · exact .mul (.refl _) l.scanBytes_indistinct
  · exact l.scanBytes_indistinct
  · have hone := l.one_le_jumpsAcrossGroups
    have hpred : (l.jumpsAcrossGroups - 1).toNat = l.exactJumps - 1 := by
      rw [UInt64.toNat_sub_of_le _ 1 (UInt64.le_iff_toNat_le.2 hone), hjumps]
      rfl
    show Word.Indistinct ((l.jumpsAcrossGroups - 1).toNat * _ + _) _
    rw [hpred, Nat.add_comm]
    exact .add l.scanBytes_indistinct (.mul (.refl _) l.jumpDistance_indistinct)
  · refine (Word.Indistinct.saturatingMul _ _).trans ?_
    rw [hjumps]
    exact .mul l.jumpDistance_indistinct (.refl _)
  · refine (Word.Indistinct.saturatingMul _ _).trans ?_
    rw [hjumps]
    exact .mul l.scanBytes_indistinct (.refl _)

/-- The whole partition of a group that is not empty contains what every other pattern spans. -/
theorem exactSpan_le_largeSequential (l : Layout) (h : 1 ≤ l.groupSize.toNat) (kind : PatternKind) :
    l.exactSpan kind ≤ l.exactSpan .largeSequential := by
  obtain ⟨n, hn⟩ : ∃ n, l.groupSize.toNat = n + 1 := ⟨_, (Nat.sub_add_cancel h).symm⟩
  obtain ⟨j, hj⟩ : ∃ j, l.exactJumps = j + 1 := ⟨_, (Nat.sub_add_cancel (Nat.le_max_left 1 _)).symm⟩
  simp only [exactSpan, hn, hj, Nat.add_sub_cancel]
  generalize 4 * l.scanElements.toNat = scan
  have hlarge : (n + 1) * scan * (j + 1) = scan + j * ((n + 1) * scan) + n * scan := by ring
  cases kind with
  | groupedScan => exact Nat.le_mul_of_pos_right _ (Nat.succ_pos j)
  | singlesScan => simp only [hlarge]; omega
  | strideScan => simp only [hlarge]; omega
  | largeSequential => exact le_refl _
  | singleSequential => exact Nat.mul_le_mul_right _ (Nat.le_mul_of_pos_left _ (Nat.succ_pos n))

variable {δ ο : Type} [Device δ] [OffsetSource ο]

/-- On a device of any size below the largest word, a planned pattern is refused if and only if its
exact span exceeds the size. Hence for a group that is not empty, if its whole partition fits, so
does every other pattern. -/
theorem suite_rejects_iff (l : Layout) (s : Session δ ο)
    (hsize : (Device.size s.device).toNat < wordCount - 1) :
    (∀ planned ∈ l.suite, s.Rejects planned.pattern ↔
      (Device.size s.device).toNat < l.exactSpan planned.kind) ∧
    (1 ≤ l.groupSize.toNat →
      ∀ large ∈ l.suite, large.kind = .largeSequential → ¬ s.Rejects large.pattern →
        ∀ planned ∈ l.suite, ¬ s.Rejects planned.pattern) := by
  have hexact : ∀ planned ∈ l.suite, s.Rejects planned.pattern ↔
      (Device.size s.device).toNat < l.exactSpan planned.kind := by
    intro planned hmem
    rw [Session.rejects_iff]
    exact (l.suite_indistinct hmem).lt_iff hsize
  refine ⟨hexact, ?_⟩
  intro hgroup large hlarge hkind hfits planned hmem
  rw [hexact large hlarge, hkind] at hfits
  rw [hexact planned hmem]
  have hle := l.exactSpan_le_largeSequential hgroup planned.kind
  omega

/-- A group so large that its distances saturate, on the largest device that the theorem covers. -/
theorem suite_rejects_iff_saturated :
    let l : Layout := ⟨4611686018427387904, 8192⟩
    let s : Session MemoryStore ScriptedOffsets :=
      ⟨.ofBytes (.counting 18446744073709551614), ⟨#[7], 0⟩, #[]⟩
    (Device.size s.device).toNat < wordCount - 1 ∧
      ∀ planned ∈ l.suite, s.Rejects planned.pattern ↔
        18446744073709551614 < l.exactSpan planned.kind :=
  ⟨by decide, (suite_rejects_iff ⟨4611686018427387904, 8192⟩ _ (by decide)).1⟩

end Layout
end ScanLatency
