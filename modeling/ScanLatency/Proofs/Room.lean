import ScanLatency.Proofs.Reads
import ScanLatency.Proofs.Sizing

/-! Room for the reads of a pattern. An offset that a pattern seeks always leaves room for what is
still to be read from there on, so that every read finds its target. -/
namespace ScanLatency

namespace Schedule

/-- The bytes from the start of one read to the end of the `n`-th read after it. Reads with an
offset of their own span nothing but themselves. -/
def extent (sch : Schedule) (n : ℕ) : ℕ :=
  match sch.later with
  | .redrawn => sch.length.toNat
  | .spaced stride => n * stride.toNat + sch.length.toNat
  | .contiguous => (n + 1) * sch.length.toNat

theorem length_le_extent (sch : Schedule) (n : ℕ) : sch.length.toNat ≤ sch.extent n := by
  unfold extent
  split
  · exact le_refl _
  · exact Nat.le_add_left _ _
  · exact Nat.le_mul_of_pos_left _ (Nat.succ_pos n)

/-- With `n` reads to come, the offset sought last leaves room for them. A read in place does not
depend on it. -/
def RoomAfter (sch : Schedule) (size n : ℕ) (last : Option UInt64) : Prop :=
  ∀ offset ∈ last, sch.later ≠ .contiguous → offset.toNat + sch.extent n ≤ size

/-- A target that leaves room for its own read and the `n` after it. There is none only for a read
in place, which other reads have come before. -/
structure Placed (sch : Schedule) (size n : ℕ) (last target : Option UInt64) : Prop where
  room : ∀ offset ∈ target, offset.toNat + sch.extent n ≤ size
  inPlace : target = none → last ≠ none ∧ sch.later = .contiguous

theorem placed_some {sch : Schedule} {size n : ℕ} {offset : UInt64} (last : Option UInt64)
    (h : offset.toNat + sch.extent n ≤ size) : sch.Placed size n last (some offset) where
  room o ho := by
    cases ho
    exact h
  inPlace := nofun

/-- After a read the same room is left for the reads that remain. -/
theorem Placed.roomAfter {sch : Schedule} {size n : ℕ} {last target : Option UInt64}
    (h : sch.Placed size n last target) : sch.RoomAfter size n (target.or last) := by
  intro offset hoffset hlater
  cases target with
  | none => exact absurd (h.inPlace rfl).2 hlater
  | some o =>
    cases hoffset
    exact h.room offset rfl

theorem roomAfter_none (sch : Schedule) (size n : ℕ) : sch.RoomAfter size n none := nofun

end Schedule

/-- The span that a pattern checks covers all of its reads. -/
theorem Pattern.extent_le_exactSpan (p : Pattern) {n : ℕ} (h : n + 1 ≤ p.schedule.reads) :
    p.schedule.extent n ≤ p.exactSpan := by
  cases p with
  | randomSeeks count blockSize => exact le_refl _
  | strideSeeks jumps stride blockSize =>
    exact Nat.add_le_add_right (Nat.mul_le_mul_right _ (Nat.le_of_succ_le_succ h)) _
  | sequentialLarge totalBytes =>
    have hn : n = 0 := Nat.le_zero.1 (Nat.le_of_succ_le_succ h)
    subst hn
    exact le_of_eq (Nat.one_mul _)
  | groupedScan m scanSize => exact Nat.mul_le_mul_right _ h
  | singlesScan m scanSize => exact le_refl _

/-- From the last start that a pattern may take there is room for each of its reads and those after
it. -/
theorem Pattern.limit_add_extent_le {p : Pattern} {size limit : UInt64}
    (h : p.maxStart size = .ok limit) (n : ℕ) (hn : n + 1 ≤ p.schedule.reads) :
    limit.toNat + p.schedule.extent n ≤ size.toNat := by
  have hextent := p.extent_le_exactSpan hn
  have hsize := toNat_add_of_maxStart h
  omega

namespace Session

variable {ο : Type} [OffsetSource ο]

/-- Memory that is set aside changes neither the start nor the source. -/
theorem prepare_cons_ok {p : Pattern} {limit : UInt64} {pr : Pattern.Preparation}
    {prs : List Pattern.Preparation} {start₀ start : Option UInt64} {source source' : ο}
    (h : prepare p limit (pr :: prs) start₀ source = (.ok start, source')) (hpr : pr ≠ .start) :
    prepare p limit prs start₀ source = (.ok start, source') := by
  cases pr with
  | start => exact absurd rfl hpr
  | buffer =>
    unfold prepare at h
    split at h
    next => cases h
    next => exact h
  | samples =>
    unfold prepare at h
    split at h
    next => cases h
    next => exact h

variable [LawfulOffsetSource ο]

/-- A start drawn ahead of the first read is at most the limit. -/
theorem start_le_of_prepare {p : Pattern} {limit : UInt64} {prs : List Pattern.Preparation}
    {start₀ start : Option UInt64} {source source' : ο} (hstart : ∀ offset ∈ start₀, offset ≤ limit)
    (h : prepare p limit prs start₀ source = (.ok start, source')) :
    ∀ offset ∈ start, offset ≤ limit := by
  induction prs generalizing start₀ source with
  | nil =>
    cases h
    exact hstart
  | cons pr prs ih =>
    cases pr with
    | start =>
      apply ih _ h
      intro offset hoffset
      cases hoffset
      exact LawfulOffsetSource.draw_le limit source
    | buffer => exact ih hstart (prepare_cons_ok h nofun)
    | samples => exact ih hstart (prepare_cons_ok h nofun)

/-- The next target is always found, with room for the reads that remain: adding a stride cannot
leave the file, let alone overflow. -/
theorem nextTarget_ok {sch : Schedule} {limit size : UInt64} {start last : Option UInt64} {n : ℕ}
    (source : ο) (hlimit : limit.toNat + sch.extent n ≤ size.toNat)
    (hstart : ∀ offset ∈ start, offset ≤ limit) (hlast : sch.RoomAfter size.toNat (n + 1) last) :
    ∃ target, (nextTarget limit sch.later start last source).1 = .ok target ∧
      sch.Placed size.toNat n last target := by
  have placed {offset : UInt64} (h : offset ≤ limit) :
      sch.Placed size.toNat n last (some offset) := by
    have hle := UInt64.le_iff_toNat_le.1 h
    exact Schedule.placed_some last (by omega)
  have drawn : ∃ target, (drawTarget limit source).1 = .ok target ∧
      sch.Placed size.toNat n last target :=
    ⟨_, rfl, placed (LawfulOffsetSource.draw_le limit source)⟩
  cases last with
  | none =>
    cases start with
    | none => exact drawn
    | some offset => exact ⟨some offset, rfl, placed (hstart offset rfl)⟩
  | some offset =>
    cases hlater : sch.later with
    | redrawn => exact drawn
    | contiguous => exact ⟨none, rfl, nofun, fun _ => ⟨nofun, hlater⟩⟩
    | spaced stride =>
      have hroom := hlast offset rfl (by rw [hlater]; nofun)
      have hextent : sch.extent (n + 1) = stride.toNat + sch.extent n := by
        simp only [Schedule.extent, hlater]
        ring
      have hsize : size.toNat < wordCount := UInt64.toNat_lt size
      cases hsum : Word.checkedAdd offset stride with
      | none =>
        have := (Word.ofNat?_eq_none_iff _).1 hsum
        omega
      | some sum =>
        have hexact := Word.toNat_of_ofNat? hsum
        exact ⟨some sum, by simp [nextTarget, Word.add, hsum, Except.map],
          Schedule.placed_some _ (by omega)⟩

/-- After some of the reads there is room for the `n` that remain. -/
theorem Reads.roomAfter {δ : Type} [Device δ] {p : Pattern} {limit size : UInt64}
    {start last : Option UInt64} {reads : List Read} {s t : Session δ ο}
    (h : Reads p limit start last s reads t) (hstart : ∀ offset ∈ start, offset ≤ limit) (n : ℕ)
    (hlimit : ∀ m, m + 1 ≤ reads.length + n → limit.toNat + p.schedule.extent m ≤ size.toNat)
    (hlast : p.schedule.RoomAfter size.toNat (reads.length + n) last) :
    p.schedule.RoomAfter size.toNat n (lastSought last reads) := by
  induction h with
  | done => rwa [List.length_nil, Nat.zero_add] at hlast
  | @read last target sample source _ rest s _ htarget _ _ ih =>
    rw [List.length_cons, Nat.succ_add] at hlimit hlast
    obtain ⟨target', htarget', hplaced⟩ :=
      nextTarget_ok s.source (hlimit _ (le_refl _)) hstart hlast
    rw [htarget] at htarget'
    cases htarget'
    exact ih (fun m hm => hlimit m (Nat.le_succ_of_le hm)) hplaced.roomAfter

/-- A pattern that has not made all of its reads finds a target for the next one. -/
theorem Reads.exists_target {δ : Type} [Device δ] {p : Pattern} {limit size : UInt64}
    {start : Option UInt64} {reads : List Read} {s t : Session δ ο}
    (h : Reads p limit start none s reads t) (hlimit : p.maxStart size = .ok limit)
    (hstart : ∀ offset ∈ start, offset ≤ limit) (hlength : reads.length < p.schedule.reads) :
    ∃ target n, (nextTarget limit p.schedule.later start (lastSought none reads) t.source).1 =
        .ok target ∧ p.schedule.Placed size.toNat n (lastSought none reads) target := by
  obtain ⟨n, hn⟩ : ∃ n, p.schedule.reads = reads.length + (n + 1) :=
    ⟨p.schedule.reads - reads.length - 1, by omega⟩
  have hroom := Pattern.limit_add_extent_le hlimit
  have hlast := h.roomAfter hstart (n + 1) (hn ▸ hroom) (p.schedule.roomAfter_none _ _)
  obtain ⟨target, htarget, hplaced⟩ := nextTarget_ok t.source (hroom n (by omega)) hstart hlast
  exact ⟨target, n, htarget, hplaced⟩

end Session
end ScanLatency
