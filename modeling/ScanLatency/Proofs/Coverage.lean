import Mathlib.Order.Bounds.Basic
import ScanLatency.Proofs.SampleCount
import ScanLatency.Proofs.Script

/-! How much of a partition a layout reads. Its scans are as many as the partition holds whole, at
least one. They cover the partition if their size divides it, or is not below it. In every other
layout one scan more would be needed: the rest behind the last whole scan is neither part of the
single transfer nor touched by the stride scan. -/
namespace ScanLatency

/-- The offsets and lengths of the reads that follow a seek, in order. -/
def DeviceCall.soughtReads : List DeviceCall → List (UInt64 × UInt64)
  | .seek offset _ :: .read length _ :: calls => (offset, length) :: soughtReads calls
  | _ :: calls => soughtReads calls
  | [] => []

namespace Layout

/-- The least positive number of scans that hold all entries of a partition. -/
def IsLeastCover (l : Layout) (scans : ℕ) : Prop :=
  IsLeast {k | 1 ≤ k ∧ entriesPerPartition.toNat ≤ k * l.scanElements.toNat} scans

/-- Whole scans leave no rest of a partition, or a single scan holds all of it. -/
def Fills (l : Layout) : Prop :=
  l.scanElements.toNat ∣ entriesPerPartition.toNat ∨
    entriesPerPartition.toNat ≤ l.scanElements.toNat

/-- A stride scan touches a piece of the partition, each piece being as long as a scan: its read of
that number asks for one scan, that many jump distances behind the start. -/
def Touches (l : Layout) (start : UInt64) (calls : List DeviceCall) (piece : ℕ) : Prop :=
  ∃ offset, (DeviceCall.soughtReads calls)[piece]? = some (offset, l.scanBytes) ∧
    offset.toNat = start.toNat + piece * l.jumpDistance.toNat

theorem isLeastCover_succ_iff (l : Layout) (k : ℕ) : l.IsLeastCover (k + 1) ↔
    entriesPerPartition.toNat ≤ (k + 1) * l.scanElements.toNat ∧
      (k = 0 ∨ k * l.scanElements.toNat < entriesPerPartition.toNat) := by
  constructor
  · rintro ⟨⟨_, hcovers⟩, hleast⟩
    refine ⟨hcovers, Nat.eq_zero_or_pos k |>.imp_right fun hpos => ?_⟩
    by_contra hfewer
    exact absurd (hleast ⟨hpos, Nat.not_lt.1 hfewer⟩) (Nat.not_succ_le_self k)
  · rintro ⟨hcovers, hmissing⟩
    refine ⟨⟨Nat.succ_pos k, hcovers⟩, fun m ⟨hpos, hm⟩ => ?_⟩
    by_contra hfewer
    have hle : m * l.scanElements.toNat ≤ k * l.scanElements.toNat :=
      Nat.mul_le_mul_right _ (by omega)
    omega

theorem rest_pos {l : Layout} (h : ¬l.Fills) :
    0 < entriesPerPartition.toNat % l.scanElements.toNat :=
  Nat.pos_of_ne_zero fun hzero => h (.inl (Nat.dvd_of_mod_eq_zero hzero))

section Scans

variable (l : Layout) (hscan : 1 ≤ l.scanElements.toNat)
include hscan

/-- A layout fills its partitions, or it leaves a rest of them behind its whole scans. -/
theorem fills_or_rest : l.Fills ∧ l.IsLeastCover l.exactJumps ∨
    ¬l.Fills ∧ l.IsLeastCover (l.exactJumps + 1) ∧
      l.exactJumps * l.scanElements.toNat + entriesPerPartition.toNat % l.scanElements.toNat =
        entriesPerPartition.toNat := by
  have hentries : entriesPerPartition.toNat = 524288 := by decide
  have hdiv := Nat.div_add_mod' 524288 l.scanElements.toNat
  have hmod := Nat.mod_lt 524288 hscan
  have hfills : l.Fills ↔ 524288 % l.scanElements.toNat = 0 ∨ 524288 ≤ l.scanElements.toNat := by
    rw [Fills, hentries, Nat.dvd_iff_mod_eq_zero]
  rw [hfills, hentries, exactJumps]
  generalize 524288 % l.scanElements.toNat = rest at hdiv hmod ⊢
  cases hscans : 524288 / l.scanElements.toNat with
  | zero =>
    -- A scan is larger than the partition.
    rw [hscans, Nat.zero_mul] at hdiv
    refine .inl ⟨.inr (by omega), (l.isLeastCover_succ_iff 0).2 ⟨?_, .inl rfl⟩⟩
    omega
  | succ k =>
    rw [hscans, Nat.succ_mul] at hdiv
    rw [show max 1 (k + 1) = k + 1 by omega, l.isLeastCover_succ_iff, l.isLeastCover_succ_iff,
      hentries]
    simp only [Nat.succ_mul]
    have hnone : k = 0 → k * l.scanElements.toNat = 0 := fun hk => by rw [hk, Nat.zero_mul]
    omega

/-- The layout counts as many scans as a partition needs just if they fill it. -/
theorem isLeastCover_iff : l.IsLeastCover l.exactJumps ↔ l.Fills := by
  rcases l.fills_or_rest hscan with ⟨hfills, hcover⟩ | ⟨hrest, hcover, _⟩
  · exact iff_of_true hcover hfills
  · exact iff_of_false (fun h => absurd (h.unique hcover) (by omega)) hrest

/-- The single transfer holds the partition just if its scans fill it; otherwise it ends where the
last whole scan does. -/
theorem singleSequentialBytes_cases :
    l.Fills ∧ bytesPerEntry.toNat * entriesPerPartition.toNat ≤ l.singleSequentialBytes.toNat ∨
    ¬l.Fills ∧ l.singleSequentialBytes.toNat +
        bytesPerEntry.toNat * (entriesPerPartition.toNat % l.scanElements.toNat) =
      bytesPerEntry.toNat * entriesPerPartition.toNat := by
  have hentries : entriesPerPartition.toNat = 524288 := by decide
  have hbytes : bytesPerEntry.toNat = 4 := by decide
  have hsaturated : Word.Indistinct l.singleSequentialBytes.toNat
      (4 * (l.exactJumps * l.scanElements.toNat)) := by
    rw [Nat.mul_comm l.exactJumps, ← Nat.mul_assoc]
    exact l.suite_indistinct (List.mem_of_getElem? (i := 4) rfl)
  rcases l.fills_or_rest hscan with ⟨hfills, hcover⟩ | ⟨hrest, -, hsum⟩
  · have hcovers := hcover.1.2
    rw [hentries] at hcovers
    have hlt := hsaturated.lt_iff (n := 4 * 524288 - 1) (by decide)
    refine .inl ⟨hfills, ?_⟩
    rw [hentries, hbytes]
    omega
  · -- So small a transfer does not saturate.
    rw [hentries] at hsum
    refine .inr ⟨hrest, ?_⟩
    rw [hentries, hbytes]
    rcases hsaturated.eq_or_le with heq | ⟨-, hhuge⟩
    · omega
    · unfold wordCount at hhuge
      omega

/-- Every piece of the partition has a whole scan of its own just if the scans fill it. -/
theorem forall_piece_lt_iff :
    (∀ piece, piece * l.scanElements.toNat < entriesPerPartition.toNat → piece < l.exactJumps) ↔
      l.Fills := by
  rcases l.fills_or_rest hscan with ⟨hfills, hcover⟩ | ⟨hrest, hcover, _⟩
  · refine iff_of_true (fun piece hpiece => ?_) hfills
    by_contra hbeyond
    have hle : l.exactJumps * l.scanElements.toNat ≤ piece * l.scanElements.toNat :=
      Nat.mul_le_mul_right _ (Nat.not_lt.1 hbeyond)
    have hcovers := hcover.1.2
    omega
  · refine iff_of_false (fun h => ?_) hrest
    obtain ⟨-, hnone | hlast⟩ := (l.isLeastCover_succ_iff _).1 hcover
    · exact absurd hnone (Nat.ne_of_gt l.exactJumps_pos)
    · exact absurd (h _ hlast) (Nat.lt_irrefl _)

end Scans

end Layout

theorem Step.soughtReads_soughtRead (length : UInt64) {offsets : List UInt64}
    {fetched : List Fetched} (hlength : offsets.length = fetched.length) :
    DeviceCall.soughtReads
        ((List.zipWith (soughtRead length) offsets fetched).flatten.filterMap (·.call?)) =
      offsets.map (·, length) := by
  induction offsets generalizing fetched with
  | nil =>
    rw [List.zipWith_nil_left]
    rfl
  | cons offset offsets ih =>
    cases fetched with
    | nil => cases hlength
    | cons r fetched =>
      rw [List.map_cons, ← ih (Nat.succ.inj hlength)]
      rfl

/-- The reads of a completed stride pattern have one length and are a stride apart. -/
theorem Session.soughtReads_of_strideSeeks {δ ο : Type} [Device δ] [OffsetSource ο]
    [LawfulOffsetSource ο] {jumps stride length : UInt64} {s : Session δ ο} {samples : Array Sample}
    {w : Session (Watched δ) (Logged ο)}
    (h : s.observed.run (.strideSeeks jumps stride length) = (.ok samples, w)) :
    ∃ (start : UInt64) (offsets : List UInt64),
      DeviceCall.soughtReads w.device.calls.toList = offsets.map (·, length) ∧
      offsets.map (·.toNat) =
        (List.range (jumps.toNat + 1)).map (start.toNat + · * stride.toNat) := by
  obtain ⟨limit, fetched, steps, -, ⟨start, -, offsets, hoffsets, rfl⟩, hyields, htraced⟩ :=
    script_of_run (fun _ => 0) h
  have hcount : offsets.length = fetched.length := by simpa using congrArg List.length hoffsets
  have hreads : jumps.toNat + 1 = fetched.length := by
    have hlength := congrArg List.length hyields
    rwa [List.length_map, List.length_map, Array.length_toList, size_of_run h] at hlength
  refine ⟨start, offsets, ?_, by rw [hoffsets, ← hreads]⟩
  rw [htraced.recorded.1]
  exact Step.soughtReads_soughtRead length hcount

namespace Layout

/-- What a completed stride scan of a layout has touched: the pieces of as many whole scans as the
layout counts. -/
theorem touches_iff (l : Layout) {δ ο : Type} [Device δ] [OffsetSource ο] [LawfulOffsetSource ο]
    {stride : PlannedPattern} (hmem : stride ∈ l.suite) (hkind : stride.kind = .strideScan)
    {s : Session δ ο} {samples : Array Sample} {w : Session (Watched δ) (Logged ο)}
    (h : s.observed.run stride.pattern = (.ok samples, w)) :
    ∃ start, ∀ piece, l.Touches start w.device.calls.toList piece ↔ piece < l.exactJumps := by
  have hreads := l.reads_suite hmem
  simp only [suite, List.mem_cons, List.not_mem_nil, or_false] at hmem
  rcases hmem with rfl | rfl | rfl | rfl | rfl
  case inr.inr.inl =>
    obtain ⟨start, offsets, hsought, hoffsets⟩ := Session.soughtReads_of_strideSeeks h
    rw [show (l.jumpsAcrossGroups - 1).toNat + 1 = l.exactJumps from hreads] at hoffsets
    have hlength : offsets.length = l.exactJumps := by simpa using congrArg List.length hoffsets
    refine ⟨start, fun piece => ?_⟩
    rw [Touches, hsought, List.getElem?_map]
    rcases Nat.lt_or_ge piece l.exactJumps with hlt | hge
    · refine iff_of_true ?_ hlt
      have hpiece := congrArg (·[piece]?) hoffsets
      simp only [List.getElem?_map, List.getElem?_range hlt] at hpiece
      obtain ⟨offset, hoffset, hplace⟩ := Option.map_eq_some_iff.1 hpiece
      exact ⟨offset, by rw [hoffset]; rfl, hplace⟩
    · refine iff_of_false ?_ (Nat.not_lt.2 hge)
      rintro ⟨offset, hoffset, -⟩
      rw [List.getElem?_eq_none (hlength ▸ hge)] at hoffset
      cases hoffset
  all_goals cases hkind

/-- How much of a partition a layout reads, by whether its scans fill the partition. -/
structure PartitionReading (l : Layout) : Prop where
  cover_iff : l.IsLeastCover l.jumpsAcrossGroups.toNat ↔ l.Fills
  /-- Where the layout counts too few scans, it counts one too few. -/
  cover_succ : ¬l.Fills → l.IsLeastCover (l.jumpsAcrossGroups.toNat + 1)
  transfer_iff : bytesPerEntry.toNat * entriesPerPartition.toNat ≤ l.singleSequentialBytes.toNat ↔
    l.Fills
  /-- What the single transfer misses is the rest behind the whole scans. -/
  transfer_rest : ¬l.Fills → l.singleSequentialBytes.toNat +
      bytesPerEntry.toNat * (entriesPerPartition.toNat % l.scanElements.toNat) =
    bytesPerEntry.toNat * entriesPerPartition.toNat
  /-- A completed stride scan has touched every piece but this rest. -/
  stride : ∀ {δ ο : Type} [Device δ] [OffsetSource ο] [LawfulOffsetSource ο],
    ∀ stride ∈ l.suite, stride.kind = .strideScan →
    ∀ (s : Session δ ο) (samples : Array Sample) (t : Session δ ο),
      s.run stride.pattern = (.ok samples, t) →
    ∃ w start, s.observed.run stride.pattern = (.ok samples, w) ∧
      (∀ piece, l.Touches start w.device.calls.toList piece ↔ piece < l.jumpsAcrossGroups.toNat) ∧
      ((∀ piece, piece * l.scanElements.toNat < entriesPerPartition.toNat →
        l.Touches start w.device.calls.toList piece) ↔ l.Fills)

/-- A layout reads whole partitions if and only if its scans fill them: if the size of a scan divides
that of the partition, or is not below it. Otherwise it leaves out the rest behind the whole scans,
for which one scan more would be needed. -/
theorem partition_read_iff (l : Layout) (hscan : 1 ≤ l.scanElements.toNat) : l.PartitionReading := by
  have hcover := l.isLeastCover_iff hscan
  have hcases := l.fills_or_rest hscan
  have hpieces := l.forall_piece_lt_iff hscan
  have htransfer := l.singleSequentialBytes_cases hscan
  rw [← l.toNat_jumpsAcrossGroups] at hcover hcases hpieces
  refine ⟨hcover, fun hrest => ?succ, ?transfer, fun hrest => ?rest, ?stride⟩
  case succ => exact (hcases.resolve_left fun h => hrest h.1).2.1
  case transfer =>
    rcases htransfer with ⟨hfills, hle⟩ | ⟨hrest, hsum⟩
    · exact iff_of_true hle hfills
    · have hpos := rest_pos hrest
      have hbytes : bytesPerEntry.toNat = 4 := by decide
      rw [hbytes] at hsum ⊢
      exact iff_of_false (by omega) hrest
  case rest => exact (htransfer.resolve_left fun h => hrest h.1).2
  case stride =>
    intro δ ο _ _ _ stride hmem hkind s samples t hrun
    obtain ⟨w, hw, -⟩ := Session.observed_of_run hrun
    obtain ⟨start, htouches⟩ := l.touches_iff hmem hkind hw
    rw [← l.toNat_jumpsAcrossGroups] at htouches
    refine ⟨w, start, hw, htouches, ?_⟩
    simp only [htouches]
    exact hpieces

/-- Scans of 200000 entries: two of them leave 124288 entries of a partition. -/
theorem partition_read_iff_two_scans :
    let l : Layout := ⟨1, 200000⟩
    let s : Session MemoryStore ScriptedOffsets := ⟨.ofBytes (.counting 3000000), ⟨#[7], 0⟩, #[]⟩
    1 ≤ l.scanElements.toNat ∧ l.jumpsAcrossGroups = 2 ∧ l.IsLeastCover 3 ∧
      l.singleSequentialBytes.toNat + 4 * 124288 = 4 * 524288 ∧
      ∀ stride ∈ l.suite, stride.kind = .strideScan → ∃ samples w start,
        s.observed.run stride.pattern = (.ok samples, w) ∧
        ∀ piece, l.Touches start w.device.calls.toList piece ↔ piece < 2 := by
  intro l s
  have hread := partition_read_iff l (by decide)
  have hrest : ¬l.Fills := by unfold Fills; decide
  have hjumps : l.jumpsAcrossGroups = 2 := by decide
  have hcover := hread.cover_succ hrest
  rw [hjumps] at hcover
  refine ⟨by decide, hjumps, hcover, by decide, ?_⟩
  intro stride hmem hkind
  have hcompletes : l.suite.all (fun planned => (s.run planned.pattern).1.isOk) = true := by
    decide +kernel
  have hok := List.all_eq_true.1 hcompletes stride hmem
  rcases hrun : s.run stride.pattern with ⟨halt | samples, t⟩
  · rw [hrun] at hok
    cases hok
  · obtain ⟨w, start, hw, htouches, -⟩ := hread.stride stride hmem hkind s samples t hrun
    rw [hjumps] at htouches
    exact ⟨samples, w, start, hw, htouches⟩

/-- The scans that a layout counts do not always cover a partition. -/
theorem not_forall_isLeastCover :
    ¬∀ l : Layout, 1 ≤ l.scanElements.toNat → l.IsLeastCover l.jumpsAcrossGroups.toNat := by
  intro h
  have hcovers := (h ⟨1, 200000⟩ (by decide)).1.2
  exact absurd hcovers (by decide)

end Layout
end ScanLatency
