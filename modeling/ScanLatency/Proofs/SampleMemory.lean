import ScanLatency.Proofs.Completion
import ScanLatency.Proofs.Script

/-! What ends the program. The size check of a pattern bounds the bytes that its reads span, not the
number of reads: reads of no bytes, reads without a stride and reads with an offset of their own
each take up room in memory for a sample without adding to the span. A pattern that fits aborts just
when its samples ask for more memory than one allocation may hold; nothing else that it computes can
overflow. -/
namespace ScanLatency

namespace Pattern

variable (p : Pattern)

/-- How a pattern aborts for lack of memory: its samples are too many to be counted, or else to be
laid out. -/
def sampleAbort : Abort :=
  if p.schedule.reads < wordCount then .capacityOverflow else .additionOverflow

/-- The number of samples is known exactly as long as it fits a word. -/
theorem exists_expectedSamples_iff :
    (∃ count, p.expectedSamples = .ok count) ↔ p.schedule.reads < wordCount := by
  constructor
  · rintro ⟨count, hcount⟩
    rw [← expectedSamples_eq_reads hcount]
    exact UInt64.toNat_lt count
  · exact exists_expectedSamples

/-- Too many samples to be counted are an overflow of the one addition. -/
theorem expectedSamples_error {abort : Abort} (h : p.expectedSamples = .error abort) :
    abort = .additionOverflow := by
  cases p with
  | strideSeeks jumps stride blockSize =>
    unfold expectedSamples at h
    dsimp only at h
    split at h
    next => cases h
    next =>
      cases h
      rfl
  | _ => cases h

theorem reserveSamples_eq : p.reserveSamples =
    if allocationLimit < p.schedule.reads * sampleSize then .error p.sampleAbort else .ok () := by
  unfold reserveSamples sampleAbort
  cases hcount : p.expectedSamples with
  | ok count =>
    have hreads := expectedSamples_eq_reads hcount
    have hword : p.schedule.reads < wordCount := p.exists_expectedSamples_iff.1 ⟨count, hcount⟩
    rw [if_pos hword, ← hreads]
    rfl
  | error abort =>
    obtain rfl := p.expectedSamples_error hcount
    have hword : ¬p.schedule.reads < wordCount := by
      rw [← exists_expectedSamples_iff, hcount]
      rintro ⟨_, ⟨⟩⟩
    have hlarge : allocationLimit < p.schedule.reads * sampleSize := by
      unfold wordCount at hword
      unfold allocationLimit sampleSize
      omega
    rw [if_neg hword, if_pos hlarge]

theorem samples_mem_preparations : .samples ∈ p.preparations := by
  unfold preparations
  split <;> simp

/-- Sets aside the memory that preparations ask for. Nothing but the pattern decides whether it is
there. -/
def allot (p : Pattern) : List Preparation → Except Abort Unit
  | [] => .ok ()
  | .start :: rest => p.allot rest
  | .buffer :: rest => p.reserveBuffer.bind fun _ => p.allot rest
  | .samples :: rest => p.reserveSamples.bind fun _ => p.allot rest

def Allotted : Prop := p.allot p.preparations = .ok ()

theorem allot_ok_iff (prs : List Preparation) : p.allot prs = .ok () ↔
    (.buffer ∈ prs → p.reserveBuffer = .ok ()) ∧ (.samples ∈ prs → p.reserveSamples = .ok ()) := by
  induction prs with
  | nil => simp [allot]
  | cons pr prs ih =>
    cases pr with
    | start => simpa [allot] using ih
    | buffer => cases h : p.reserveBuffer <;> simp [allot, h, ih, Except.bind]
    | samples => cases h : p.reserveSamples <;> simp [allot, h, ih, Except.bind]

theorem allotted_iff : p.Allotted ↔
    (.buffer ∈ p.preparations → p.reserveBuffer = .ok ()) ∧ p.reserveSamples = .ok () := by
  rw [Allotted, allot_ok_iff]
  simp only [p.samples_mem_preparations, forall_const]

variable {p}

/-- There is memory for a read where there is memory for the span. -/
theorem reserveBuffer_of_span (hspan : p.exactSpan ≤ allocationLimit)
    (hmem : .buffer ∈ p.preparations) : p.reserveBuffer = .ok () :=
  reserve_of_le ((length_le_exactSpan hmem).trans hspan)

end Pattern

namespace Session

variable {δ ο : Type} [Device δ] [OffsetSource ο] {p : Pattern}

omit [Device δ] in
/-- Preparations go through, or abort, as the memory that they ask for is there or not. -/
theorem map_prepare (p : Pattern) (limit : UInt64) (prs : List Pattern.Preparation)
    (start : Option UInt64) (source : ο) :
    (prepare p limit prs start source).1.map (fun _ => ()) = p.allot prs := by
  induction prs generalizing start source with
  | nil => rfl
  | cons pr prs ih =>
    cases pr with
    | start => exact ih _ _
    | buffer =>
      cases h : p.reserveBuffer with
      | error abort => simp [prepare, Pattern.allot, h, Except.map, Except.bind]
      | ok => simpa [prepare, Pattern.allot, h, Except.bind] using ih start source
    | samples =>
      cases h : p.reserveSamples with
      | error abort => simp [prepare, Pattern.allot, h, Except.map, Except.bind]
      | ok => simpa [prepare, Pattern.allot, h, Except.bind] using ih start source

/-- A completed run has passed its size check and found its memory. -/
theorem allotted_of_run {samples : Array Sample} {s t : Session δ ο}
    (h : s.run p = (.ok samples, t)) :
    ∃ limit, p.maxStart (Device.size s.device) = .ok limit ∧ p.Allotted := by
  obtain ⟨limit, _, _, _, hlimit, hprepare, _⟩ := reads_of_run h
  have hallot := map_prepare p limit p.preparations none s.source
  rw [hprepare] at hallot
  exact ⟨limit, hlimit, hallot.symm⟩

omit [Device δ] in
/-- Preparations that find no memory for the samples abort for it. -/
theorem prepare_aborts (limit : UInt64) {prs : List Pattern.Preparation} {abort : Abort}
    (hbuffer : .buffer ∈ prs → p.reserveBuffer = .ok ())
    (hsamples : p.reserveSamples = .error abort) (hmem : .samples ∈ prs) (start : Option UInt64)
    (source : ο) : ∃ source', prepare p limit prs start source = (.error abort, source') := by
  induction prs generalizing start source with
  | nil => cases hmem
  | cons pr prs ih =>
    have ih := ih fun hmem => hbuffer (List.mem_cons_of_mem _ hmem)
    cases pr with
    | start => exact ih (List.mem_of_ne_of_mem (by decide) hmem) _ _
    | buffer =>
      simp only [prepare, hbuffer List.mem_cons_self]
      exact ih (List.mem_of_ne_of_mem (by decide) hmem) start source
    | samples =>
      simp only [prepare, hsamples]
      exact ⟨source, rfl⟩

/-- A pattern that fits and finds memory for its samples goes through its preparations. -/
theorem prepare_of_fits (hspan : p.exactSpan ≤ allocationLimit)
    (hreads : p.schedule.reads * Pattern.sampleSize ≤ allocationLimit) (limit : UInt64)
    (source : ο) : ∃ start source',
      prepare p limit p.preparations none source = (.ok start, source') := by
  have hsamples : p.reserveSamples = .ok () := by
    rw [p.reserveSamples_eq, if_neg (Nat.not_lt.2 hreads)]
  exact prepare_completes (Pattern.reserveBuffer_of_span hspan) hsamples none source

/-- How a pattern can abort on a device that does not: it fits, and its samples ask for too much
memory. Nothing has been asked of the device by then. -/
theorem run_aborted_eq [LawfulOffsetSource ο] {s s' : Session δ ο} {abort : Abort}
    (hsize : (Device.size s.device).toNat ≤ allocationLimit)
    (hd : Device.Avoids Halt.isAborted s.device) (h : s.run p = (.error (.aborted abort), s')) :
    p.exactSpan ≤ (Device.size s.device).toNat ∧
      allocationLimit < p.schedule.reads * Pattern.sampleSize ∧ abort = p.sampleAbort ∧
      s'.device = s.device := by
  rcases stops_of_run h with ⟨_, _, hhalt, _⟩ | ⟨limit, hlimit,
    ⟨abort', source, hprepare, hhalt, rfl⟩ |
    ⟨start, source, reads, t, hprepare, hreads, hlength, hstops⟩⟩
  · cases hhalt
  · cases hhalt
    have hspan := Pattern.toNat_add_of_maxStart hlimit
    have hfits : p.exactSpan ≤ allocationLimit := by omega
    have hlarge : allocationLimit < p.schedule.reads * Pattern.sampleSize := by
      by_contra hle
      obtain ⟨_, _, hcompletes⟩ := prepare_of_fits hfits (Nat.not_lt.1 hle) limit s.source
      rw [hprepare] at hcompletes
      cases hcompletes
    have hsamples : p.reserveSamples = .error p.sampleAbort := by
      rw [p.reserveSamples_eq, if_pos hlarge]
    obtain ⟨_, haborts⟩ := prepare_aborts limit (Pattern.reserveBuffer_of_span hfits)
      hsamples p.samples_mem_preparations none s.source
    rw [hprepare] at haborts
    cases haborts
    exact ⟨by omega, hlarge, rfl, rfl⟩
  · have hnot := hreads.isAborted_of_stops hlimit (start_le_of_prepare (by simp) hprepare) hlength
      hd hstops
    cases hnot

/-- On a device that does not abort, of a size that memory could hold, a pattern aborts if and only
if it fits the device and its samples need more memory than one allocation may hold; the device is
left alone then. All other runs complete or fail. The number of samples of a pattern is known if
and only if it fits a word. -/
theorem run_aborts_iff [LawfulOffsetSource ο] (p : Pattern) {s : Session δ ο}
    (hsize : (Device.size s.device).toNat < 2 ^ 63) (hd : Device.Avoids Halt.isAborted s.device) :
    ((∃ abort, (s.run p).1 = .error (.aborted abort)) ↔
      p.exactSpan ≤ (Device.size s.device).toNat ∧
        allocationLimit < p.schedule.reads * Pattern.sampleSize) ∧
    (∀ abort, (s.run p).1 = .error (.aborted abort) →
      abort = p.sampleAbort ∧ (s.run p).2.device = s.device) ∧
    ((∃ count, p.expectedSamples = .ok count) ↔ p.schedule.reads < wordCount) := by
  have hlimit : (Device.size s.device).toNat ≤ allocationLimit := Nat.le_of_lt_succ hsize
  have haborted {abort : Abort} (h : (s.run p).1 = .error (.aborted abort)) :=
    run_aborted_eq hlimit hd (Prod.ext h rfl : s.run p = (_, (s.run p).2))
  refine ⟨⟨?_, ?_⟩, ?_, p.exists_expectedSamples_iff⟩
  · rintro ⟨abort, h⟩
    obtain ⟨hspan, hlarge, _⟩ := haborted h
    exact ⟨hspan, hlarge⟩
  · rintro ⟨hspan, hlarge⟩
    refine ⟨p.sampleAbort, ?_⟩
    have hsamples : p.reserveSamples = .error p.sampleAbort := by
      rw [p.reserveSamples_eq, if_pos hlarge]
    unfold run
    cases hmax : p.maxStart (Device.size s.device) with
    | error cause =>
      have hlt := (Pattern.lt_exactSpan_of_maxStart hmax).1
      omega
    | ok limit =>
      have hbuffer := Pattern.reserveBuffer_of_span (hspan.trans hlimit)
      obtain ⟨source', hprepare⟩ :=
        prepare_aborts limit hbuffer hsamples p.samples_mem_preparations none s.source
      simp only [hprepare]
  · intro abort h
    obtain ⟨_, _, habort, hdevice⟩ := haborted h
    exact ⟨habort, hdevice⟩

/-- Reads with an offset of their own span one read only, however many they are. -/
theorem run_aborts_iff_singles :
    let s : Session FaultyStore ScriptedOffsets :=
      ⟨{ store := .ofBytes (.counting 10) }, ⟨#[3], 0⟩, #[]⟩
    (∃ abort, (s.run (.singlesScan 384307168202282326 4)).1 = .error (.aborted abort)) ∧
      ¬∃ abort, (s.run (.singlesScan 384307168202282325 11)).1 = .error (.aborted abort) := by
  intro s
  have hd : Device.Dependable s.device := FaultyStore.Still.dependable (f := s.device)
    (show s.device.Still {} from ⟨⟨rfl, rfl, rfl⟩, rfl⟩)
  have hsize : (Device.size s.device).toNat < 2 ^ 63 := by decide
  refine ⟨(run_aborts_iff _ hsize hd.avoids).1.2 ⟨by decide, by decide⟩, ?_⟩
  rw [(run_aborts_iff _ hsize hd.avoids).1]
  decide

/-- A walk of as many jumps as a word counts, none of which leads anywhere, fits ten bytes. Its
reads are one more than a word counts. -/
theorem not_forall_run_returns :
    ¬∀ (p : Pattern) (s : Session MemoryStore ScriptedOffsets),
      (Device.size s.device).toNat < 2 ^ 63 →
      (∃ outcome : Except PatternError (Array Sample), (s.run p).1 = outcome.mapError .failed) ∧
        ∃ count, p.expectedSamples = .ok count := by
  intro h
  obtain ⟨⟨outcome, hrun⟩, _⟩ := h (.strideSeeks 18446744073709551615 0 1)
    ⟨.ofBytes (.counting 10), ⟨#[3], 0⟩, #[]⟩ (by decide)
  have habort : (run (.strideSeeks 18446744073709551615 0 1)
      (⟨.ofBytes (.counting 10), ⟨#[3], 0⟩, #[]⟩ : Session MemoryStore ScriptedOffsets)).1 =
        .error (.aborted .additionOverflow) := by decide +kernel
  rw [habort] at hrun
  cases outcome <;> cases hrun

end Session
end ScanLatency
