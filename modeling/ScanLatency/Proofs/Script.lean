import ScanLatency.Proofs.OffsetIndependence
import ScanLatency.Proofs.OffsetRange
import ScanLatency.Proofs.Room

/-! What a pattern does, step by step. On a device that answers every call, a pattern that fits
completes, and its draws, seeks and reads are exactly those of its script, in their order. How many
bytes a read gives is up to the device; reads in place start where the read before them ended, so
that they cover one range without gap or overlap however short they come back. -/
namespace ScanLatency

namespace Device

variable {δ ε : Type} [Device δ] [Device ε]

/-- Seeks inside `size` bytes succeed, and so do all reads, whatever is called before. How much a
read gives is left open. -/
structure Answers (size : UInt64) (d : δ) : Prop where
  seek : ∀ {e}, Reaches d e → ∀ offset ≤ size, (Device.seek offset e).1 = .ok ()
  read : ∀ {e}, Reaches d e → ∀ length, ∃ got, (Device.read length e).1 = .ok got

namespace Answers

variable {size : UInt64} {d : δ}

theorem of_reaches (h : Answers size d) {e : δ} (hreach : Reaches d e) : Answers size e where
  seek he := h.seek (hreach.trans he)
  read he := h.read (hreach.trans he)

theorem access (h : Answers size d) {target : Option UInt64}
    (htarget : ∀ offset ∈ target, offset ≤ size) (length : UInt64) :
    ∃ got, (Device.access target length d).1 = .ok got := by
  cases target with
  | none => exact h.read .refl length
  | some offset =>
    have hseek := h.seek .refl offset (htarget offset rfl)
    have hread := h.read (.seek offset .refl) length
    unfold Device.access
    dsimp only
    split
    next heq =>
      rw [heq] at hseek
      cases hseek
    next heq => rwa [heq] at hread

theorem sample (h : Answers size d) {target : Option UInt64}
    (htarget : ∀ offset ∈ target, offset ≤ size) (length : UInt64) :
    ∃ sample, (Device.sample target length d).1 = .ok sample := by
  obtain ⟨got, haccess⟩ := (h.of_reaches (.now .refl)).access htarget length
  unfold Device.sample sampled
  dsimp only
  split
  next heq =>
    rw [heq] at haccess
    cases haccess
  next heq =>
    rw [heq] at haccess
    cases haccess
  next => exact ⟨_, rfl⟩

end Answers

/-- The device has a read position: seeks set it, reads start from it and move it on by what they
give, and looking at the clock leaves it alone. -/
structure Positioned (position : δ → ℕ) (d : δ) : Prop where
  now : ∀ {e}, Reaches d e → position (Clock.now e).2 = position e
  seek : ∀ {e e'} {offset : UInt64}, Reaches d e → Device.seek offset e = (.ok (), e') →
    position e' = offset.toNat
  read : ∀ {e e'} {length got : UInt64}, Reaches d e → Device.read length e = (.ok got, e') →
    position e' = position e + got.toNat

namespace Positioned

variable {position : δ → ℕ} {d : δ}

theorem of_reaches (h : Positioned position d) {e : δ} (hreach : Reaches d e) :
    Positioned position e where
  now he := h.now (hreach.trans he)
  seek he := h.seek (hreach.trans he)
  read he := h.read (hreach.trans he)

theorem of_map {f : δ → ε} (hf : Morphism f) {position : ε → ℕ} (h : Positioned position (f d)) :
    Positioned (fun e => position (f e)) d where
  now {e} he := by
    have hnow := h.now (hf.reaches he)
    rwa [hf.now] at hnow
  seek he heq := h.seek (hf.reaches he) (by rw [hf.seek, heq]; rfl)
  read he heq := h.read (hf.reaches he) (by rw [hf.read, heq]; rfl)

end Positioned
end Device

/-- How a read went: where it started, and how many bytes it gave. -/
structure Fetched where
  place : ℕ
  got : UInt64

/-- One thing that a pattern does. A read tells where it started and what it gave. -/
inductive Step
  | draw (max offset : UInt64)
  | seek (offset : UInt64)
  | read (place : ℕ) (length got : UInt64)

namespace Step

def draw? : Step → Option Draw
  | .draw max offset => some ⟨max, offset⟩
  | _ => none

def call? : Step → Option DeviceCall
  | .draw .. => none
  | .seek offset => some (.seek offset (.ok ()))
  | .read _ length got => some (.read length (.ok got))

def readOf (length : UInt64) (r : Fetched) : Step := .read r.place length r.got

def soughtRead (length offset : UInt64) (r : Fetched) : List Step := [.seek offset, readOf length r]

def drawnRead (limit length offset : UInt64) (r : Fetched) : List Step :=
  .draw limit offset :: soughtRead length offset r

/-- Each read starts where the step before it left the read position. -/
def Placed : ℕ → List Step → Prop
  | _, [] => True
  | position, .draw .. :: steps => Placed position steps
  | _, .seek offset :: steps => Placed offset.toNat steps
  | position, .read place _ got :: steps => place = position ∧ Placed (position + got.toNat) steps

end Step

/-- The steps of a pattern that may start up to `limit`, given how its reads went. -/
def Pattern.Script (limit : UInt64) (reads : List Fetched) (steps : List Step) : Pattern → Prop
  | .randomSeeks _ length | .singlesScan _ length =>
    ∃ offsets : List UInt64, offsets.length = reads.length ∧ (∀ offset ∈ offsets, offset ≤ limit) ∧
      steps = (List.zipWith (Step.drawnRead limit length) offsets reads).flatten
  | .strideSeeks _ stride length =>
    ∃ start ≤ limit, ∃ offsets : List UInt64,
      offsets.map (·.toNat) = (List.range reads.length).map (start.toNat + · * stride.toNat) ∧
      steps = .draw limit start :: (List.zipWith (Step.soughtRead length) offsets reads).flatten
  | .sequentialLarge length =>
    ∃ start ≤ limit, steps = .draw limit start :: .seek start :: reads.map (Step.readOf length)
  | .groupedScan n length =>
    if n = 0 then steps = []
    else ∃ start ≤ limit, steps = .draw limit start :: .seek start :: reads.map (Step.readOf length)

theorem Pattern.preparations_groupedScan {n length : UInt64} (hn : n ≠ 0) :
    (Pattern.groupedScan n length).preparations = [.samples, .start, .buffer] := by
  simp [preparations]

namespace Session

variable {δ ο : Type} [Device δ] [OffsetSource ο]

/-- Steps that lead from one session to another, in order. Between them the clock may be read and
notices written. -/
inductive Traced (position : δ → ℕ) : Session δ ο → List Step → Session δ ο → Prop
  | done {s} : Traced position s [] s
  | draw {s steps t} (max : UInt64)
      (tail : Traced position { s with source := (OffsetSource.draw max s.source).2 } steps t) :
      Traced position s (.draw max (OffsetSource.draw max s.source).1 :: steps) t
  | seek {s device steps t} {offset : UInt64}
      (sought : Device.seek offset s.device = (.ok (), device))
      (tail : Traced position { s with device } steps t) :
      Traced position s (.seek offset :: steps) t
  | read {s device steps t} {length got : UInt64}
      (fetched : Device.read length s.device = (.ok got, device))
      (tail : Traced position { s with device } steps t) :
      Traced position s (.read (position s.device) length got :: steps) t
  | clock {s steps t} (tail : Traced position { s with device := (Clock.now s.device).2 } steps t) :
      Traced position s steps t
  | note {s steps t} {n : Notice} (tail : Traced position (s.note n) steps t) :
      Traced position s steps t

namespace Traced

variable {position : δ → ℕ} {s t : Session δ ο} {steps : List Step}

/-- On a device with a read position the reads are where the steps say. -/
theorem placed (h : Traced position s steps t) (hp : Device.Positioned position s.device) :
    Step.Placed (position s.device) steps := by
  induction h with
  | done => exact trivial
  | draw _ _ ih => exact ih hp
  | @seek s _ _ _ offset sought _ ih =>
    have hreach : Device.Reaches s.device (Device.seek offset s.device).2 := .seek offset .refl
    rw [sought] at hreach
    have hrest := ih (hp.of_reaches hreach)
    rwa [hp.seek .refl sought] at hrest
  | @read s _ _ _ length _ fetched _ ih =>
    have hreach : Device.Reaches s.device (Device.read length s.device).2 := .read length .refl
    rw [fetched] at hreach
    have hrest := ih (hp.of_reaches hreach)
    rw [hp.read .refl fetched] at hrest
    exact ⟨rfl, hrest⟩
  | clock _ ih =>
    have hrest := ih (hp.of_reaches (.now .refl))
    rwa [hp.now .refl] at hrest
  | note _ ih => exact ih hp

/-- The calls and the draws on record are those of the steps. -/
theorem recorded {position : Watched δ → ℕ} {s t : Session (Watched δ) (Logged ο)}
    (h : Traced position s steps t) :
    t.device.calls.toList = s.device.calls.toList ++ steps.filterMap (·.call?) ∧
      t.source.draws.toList = s.source.draws.toList ++ steps.filterMap (·.draw?) := by
  induction h with
  | done => simp
  | @draw s _ _ max _ ih =>
    obtain ⟨hcalls, hdraws⟩ := ih
    have hpushed : (OffsetSource.draw max s.source).2.draws =
        s.source.draws.push ⟨max, (OffsetSource.draw max s.source).1⟩ := rfl
    refine ⟨hcalls, ?_⟩
    rw [hdraws, hpushed]
    simp [Step.draw?]
  | @seek s device _ _ offset sought _ ih =>
    obtain ⟨hcalls, hdraws⟩ := ih
    have hpushed : device.calls = s.device.calls.push (.seek offset (.ok ())) := by
      simp only [Device.seek, Prod.mk.injEq] at sought
      rw [← sought.2, sought.1]
    refine ⟨?_, hdraws⟩
    rw [hcalls, hpushed]
    simp [Step.call?]
  | @read s device _ _ length got fetched _ ih =>
    obtain ⟨hcalls, hdraws⟩ := ih
    have hpushed : device.calls = s.device.calls.push (.read length (.ok got)) := by
      simp only [Device.read, Prod.mk.injEq] at fetched
      rw [← fetched.2, fetched.1]
    refine ⟨?_, hdraws⟩
    rw [hcalls, hpushed]
    simp [Step.call?]
  | clock _ ih => exact ih
  | note _ ih => exact ih

/-- A sample seeks its target, if it has one, and reads. -/
theorem sample (position : δ → ℕ) {target : Option UInt64} {length : UInt64} {sample : Sample}
    {device : δ} (h : Device.sample target length s.device = (.ok sample, device)) :
    ∃ place, ∀ {steps t}, Traced position { s with device } steps t →
      Traced position s
        (target.toList.map .seek ++ Step.readOf length ⟨place, sample.bytesRead⟩ :: steps) t := by
  obtain ⟨got, d, haccess, rfl, rfl⟩ := sampled_ok h
  cases target with
  | none => exact ⟨_, fun htail => .clock (.read haccess (.clock htail))⟩
  | some offset =>
    obtain ⟨e, hseek, hread⟩ := Device.access_some_ok haccess
    exact ⟨_, fun htail => .clock (.seek hseek (.read hread (.clock htail)))⟩

theorem noteShort {p : Pattern} {target : Option UInt64} {sample : Sample}
    (h : Traced position (Session.noteShort p target sample s) steps t) :
    Traced position s steps t := by
  unfold Session.noteShort at h
  split at h
  · exact .note h
  · exact h

end Traced

section Loops

variable {position : δ → ℕ} {p : Pattern} {limit : UInt64} {last : Option UInt64}
  {reads : List Read} {s t : Session δ ο}

/-- Reads with an offset of their own: each draws it, seeks it, and reads. -/
theorem Reads.redrawn [LawfulOffsetSource ο] (h : Reads p limit none last s reads t)
    (hlater : p.schedule.later = .redrawn) :
    ∃ offsets fetched, offsets.length = fetched.length ∧ (∀ offset ∈ offsets, offset ≤ limit) ∧
      reads.map (·.sample.bytesRead) = fetched.map (·.got) ∧
      Traced position s
        (List.zipWith (Step.drawnRead limit p.schedule.length) offsets fetched).flatten t := by
  induction h with
  | done => exact ⟨[], [], rfl, nofun, rfl, .done⟩
  | @read last target sample source device rest s _ targeted sampled _ ih =>
    have hdraw : nextTarget limit .redrawn none last s.source = drawTarget limit s.source := by
      cases last <;> rfl
    rw [hlater, hdraw] at targeted
    cases targeted
    obtain ⟨offsets, fetched, hlength, hle, hgot, htail⟩ := ih
    obtain ⟨place, htraced⟩ :=
      Traced.sample (s := { s with source := (OffsetSource.draw limit s.source).2 }) position sampled
    refine ⟨(OffsetSource.draw limit s.source).1 :: offsets, ⟨place, sample.bytesRead⟩ :: fetched,
      ?_, ?_, ?_, ?_⟩
    · rw [List.length_cons, List.length_cons, hlength]
    · exact List.forall_mem_cons.2 ⟨LawfulOffsetSource.draw_le limit s.source, hle⟩
    · rw [List.map_cons, List.map_cons, hgot]
    · exact .draw limit (htraced htail.noteShort)

/-- Reads a fixed distance apart, the first of them at the start: each seeks its offset and reads. -/
theorem Reads.spaced {start stride : UInt64} (h : Reads p limit (some start) last s reads t)
    (hlater : p.schedule.later = .spaced stride) :
    ∃ (offsets : List UInt64) (fetched : List Fetched),
      offsets.map (·.toNat) = (List.range fetched.length).map
        (last.elim start.toNat (·.toNat + stride.toNat) + · * stride.toNat) ∧
      reads.map (·.sample.bytesRead) = fetched.map (·.got) ∧
      Traced position s
        (List.zipWith (Step.soughtRead p.schedule.length) offsets fetched).flatten t := by
  induction h with
  | done => exact ⟨[], [], rfl, rfl, .done⟩
  | @read last target sample source device rest s _ targeted sampled _ ih =>
    obtain ⟨offset, rfl, rfl, hoffset⟩ : ∃ offset, target = some offset ∧ source = s.source ∧
        offset.toNat = last.elim start.toNat (·.toNat + stride.toNat) := by
      rw [hlater] at targeted
      cases last with
      | none =>
        cases targeted
        exact ⟨start, rfl, rfl, rfl⟩
      | some previous =>
        obtain ⟨hsum, hsource⟩ := Prod.mk.inj targeted
        obtain ⟨offset, hadd, rfl⟩ := map_eq_ok_iff.1 hsum
        exact ⟨offset, rfl, hsource.symm, Word.toNat_add hadd⟩
    obtain ⟨offsets, fetched, hoffsets, hgot, htail⟩ := ih
    obtain ⟨place, htraced⟩ := Traced.sample position sampled
    refine ⟨offset :: offsets, ⟨place, sample.bytesRead⟩ :: fetched, ?_, ?_, ?_⟩
    · rw [List.map_cons, hoffsets, ← hoffset, List.length_cons, List.range_succ_eq_map, List.map_cons,
        List.map_map, Nat.zero_mul, Nat.add_zero]
      refine congrArg (offset.toNat :: ·) (List.map_congr_left fun i _ => ?_)
      show offset.toNat + stride.toNat + i * stride.toNat = offset.toNat + (i + 1) * stride.toNat
      ring
    · rw [List.map_cons, List.map_cons, hgot]
    · exact htraced htail.noteShort

/-- Reads in place, after the first: none of them seeks. -/
theorem Reads.inPlace {start : Option UInt64} {offset : UInt64}
    (h : Reads p limit start (some offset) s reads t) (hlater : p.schedule.later = .contiguous) :
    ∃ fetched : List Fetched, reads.map (·.sample.bytesRead) = fetched.map (·.got) ∧
      Traced position s (fetched.map (Step.readOf p.schedule.length)) t := by
  generalize hlast : some offset = last at h
  induction h with
  | done => exact ⟨[], rfl, .done⟩
  | @read last target sample source device rest s _ targeted sampled _ ih =>
    subst hlast
    rw [hlater] at targeted
    cases targeted
    obtain ⟨fetched, hgot, htail⟩ := ih rfl
    obtain ⟨place, htraced⟩ := Traced.sample position sampled
    refine ⟨⟨place, sample.bytesRead⟩ :: fetched, ?_, htraced htail.noteShort⟩
    rw [List.map_cons, List.map_cons, hgot]

/-- Reads in place that begin at a start: one seek, then nothing but reads. -/
theorem Reads.contiguous {start : UInt64} (h : Reads p limit (some start) none s reads t)
    (hlater : p.schedule.later = .contiguous) (hreads : 0 < reads.length) :
    ∃ fetched : List Fetched, reads.map (·.sample.bytesRead) = fetched.map (·.got) ∧
      Traced position s (.seek start :: fetched.map (Step.readOf p.schedule.length)) t := by
  cases h with
  | done => exact absurd hreads (Nat.lt_irrefl 0)
  | read targeted sampled tail =>
    cases targeted
    obtain ⟨fetched, hgot, htail⟩ := tail.inPlace hlater
    obtain ⟨place, htraced⟩ := Traced.sample position sampled
    refine ⟨⟨place, _⟩ :: fetched, ?_, htraced htail.noteShort⟩
    rw [List.map_cons, List.map_cons, hgot]

end Loops

section Preparations

variable {p : Pattern} {limit : UInt64} {start start' : Option UInt64} {source source' : ο}

/-- Preparations among which there is no start draw nothing. -/
theorem prepare_idle (prs : List Pattern.Preparation) (hprs : .start ∉ prs)
    (h : prepare p limit prs start source = (.ok start', source')) :
    start' = start ∧ source' = source := by
  induction prs with
  | nil =>
    cases h
    exact ⟨rfl, rfl⟩
  | cons pr prs ih =>
    obtain ⟨hpr, hrest⟩ := List.ne_and_not_mem_of_not_mem_cons hprs
    exact ih hrest (prepare_cons_ok h hpr.symm)

/-- Preparations with one start draw it. -/
theorem prepare_drawn (before after : List Pattern.Preparation) (hbefore : .start ∉ before)
    (hafter : .start ∉ after)
    (h : prepare p limit (before ++ .start :: after) start source = (.ok start', source')) :
    start' = some (OffsetSource.draw limit source).1 ∧
      source' = (OffsetSource.draw limit source).2 := by
  induction before with
  | nil => exact prepare_idle after hafter h
  | cons pr before ih =>
    obtain ⟨hpr, hrest⟩ := List.ne_and_not_mem_of_not_mem_cons hbefore
    exact ih hrest (prepare_cons_ok h hpr.symm)

/-- Preparations go through where the memory that they ask for is there. -/
theorem prepare_completes {prs : List Pattern.Preparation}
    (hbuffer : .buffer ∈ prs → p.reserveBuffer = .ok ()) (hsamples : p.reserveSamples = .ok ())
    (start : Option UInt64) (source : ο) :
    ∃ start' source', prepare p limit prs start source = (.ok start', source') := by
  induction prs generalizing start source with
  | nil => exact ⟨start, source, rfl⟩
  | cons pr prs ih =>
    have ih := ih fun hmem => hbuffer (List.mem_cons_of_mem _ hmem)
    cases pr with
    | start => exact ih _ _
    | buffer =>
      simp only [prepare, hbuffer List.mem_cons_self]
      exact ih start source
    | samples =>
      simp only [prepare, hsamples]
      exact ih start source

end Preparations

end Session

namespace Pattern

variable {p : Pattern}

/-- A number of reads that fits a word is the number of samples that is expected. -/
theorem exists_expectedSamples (h : p.schedule.reads < wordCount) :
    ∃ count, p.expectedSamples = .ok count := by
  cases p with
  | strideSeeks jumps stride blockSize =>
    unfold expectedSamples
    cases hsum : Word.checkedAdd jumps 1 with
    | none => exact absurd h (Nat.not_lt.2 ((Word.ofNat?_eq_none_iff _).1 hsum))
    | some count => exact ⟨count, by simp [hsum]⟩
  | _ => exact ⟨_, rfl⟩

/-- A pattern that sets memory aside for a read has room for one in its span. -/
theorem length_le_exactSpan (h : .buffer ∈ p.preparations) :
    p.schedule.length.toNat ≤ p.exactSpan := by
  cases p with
  | strideSeeks jumps stride blockSize => exact Nat.le_add_left _ _
  | groupedScan n scanSize =>
    have hn : n ≠ 0 := by
      rintro rfl
      exact absurd h (by simp [preparations])
    exact Nat.le_mul_of_pos_left _ (Word.toNat_pos hn)
  | _ => exact le_refl _

theorem reserve_of_le {bytes : ℕ} (h : bytes ≤ allocationLimit) : reserve bytes = .ok () :=
  if_neg (Nat.not_lt.2 h)

end Pattern

namespace Session

variable {δ ο : Type} [Device δ] [OffsetSource ο]

/-- What halts a pattern on a device that answers halts it before its first read: its size, or a lack
of memory. -/
theorem halts_before_reads [LawfulOffsetSource ο] {p : Pattern} {s t : Session δ ο}
    {halt : Halt PatternError} (hd : Device.Answers (Device.size s.device) s.device)
    (h : s.run p = (.error halt, t)) :
    (∃ cause, p.maxStart (Device.size s.device) = .error cause ∧ halt = .failed cause ∧ t = s) ∨
    ∃ limit abort source, p.maxStart (Device.size s.device) = .ok limit ∧
      prepare p limit p.preparations none s.source = (.error abort, source) ∧
      halt = .aborted abort ∧ t = { s with source } := by
  rcases stops_of_run h with hsize | ⟨limit, hlimit, ⟨abort, source, hprepare, hhalt, ht⟩ |
    ⟨start, source, reads, u, hprepare, hreads, hlength, hstops⟩⟩
  · exact .inl hsize
  · exact .inr ⟨limit, abort, source, hlimit, hprepare, hhalt, ht⟩
  · exfalso
    -- The next read has a target inside, and the device answers there.
    obtain ⟨target, _, htarget, hplaced⟩ :=
      hreads.exists_target hlimit (start_le_of_prepare (by simp) hprepare) hlength
    cases hstops with
    | target heq =>
      rw [heq] at htarget
      cases htarget
    | @access target' _ _ _ heq hsample =>
      rw [heq] at htarget
      cases htarget
      have hinside : ∀ offset ∈ target, offset ≤ Device.size s.device := by
        intro offset hoffset
        have hroom := hplaced.room offset hoffset
        exact UInt64.le_iff_toNat_le.2 (by omega)
      obtain ⟨_, hanswer⟩ := (hd.of_reaches hreads.reaches).sample hinside p.schedule.length
      rw [hsample] at hanswer
      cases hanswer

/-- A pattern that fits completes on a device that answers. -/
theorem run_completes [LawfulOffsetSource ο] {p : Pattern} {s : Session δ ο}
    (hspan : p.exactSpan ≤ (Device.size s.device).toNat)
    (hsize : (Device.size s.device).toNat < 2 ^ 63) (hcount : p.schedule.reads < 2 ^ 58)
    (hd : Device.Answers (Device.size s.device) s.device) :
    ∃ samples t, s.run p = (.ok samples, t) := by
  have hbuffer : .buffer ∈ p.preparations → p.reserveBuffer = .ok () := by
    intro hmem
    have hlength := Pattern.length_le_exactSpan hmem
    refine Pattern.reserve_of_le ?_
    unfold allocationLimit
    omega
  have hsamples : p.reserveSamples = .ok () := by
    have hword : p.schedule.reads < wordCount := hcount.trans (by decide)
    obtain ⟨count, hexpected⟩ := Pattern.exists_expectedSamples hword
    have hreads := Pattern.expectedSamples_eq_reads hexpected
    rw [Pattern.reserveSamples, hexpected]
    refine Pattern.reserve_of_le ?_
    unfold allocationLimit Pattern.sampleSize
    omega
  rcases hrun : s.run p with ⟨halt | samples, t⟩
  · exfalso
    rcases halts_before_reads hd hrun with
      ⟨cause, hcause, -, -⟩ | ⟨limit, abort, source, -, hprepare, -, -⟩
    · have hlt := (Pattern.lt_exactSpan_of_maxStart hcause).1
      omega
    · obtain ⟨_, _, hcompletes⟩ := prepare_completes hbuffer hsamples none s.source
      rw [hprepare] at hcompletes
      cases hcompletes
  · exact ⟨samples, t, rfl⟩

/-- A completed pattern has followed its script, from the first start on. -/
theorem script_of_run [LawfulOffsetSource ο] (position : δ → ℕ) {p : Pattern} {samples : Array Sample}
    {s t : Session δ ο} (h : s.run p = (.ok samples, t)) :
    ∃ (limit : UInt64) (fetched : List Fetched) (steps : List Step),
      limit.toNat + p.exactSpan = (Device.size s.device).toNat ∧ p.Script limit fetched steps ∧
      samples.toList.map (·.bytesRead) = fetched.map (·.got) ∧ Traced position s steps t := by
  obtain ⟨limit, start, source, reads, hlimit, hprepare, hreads, hlength, hsamples⟩ := reads_of_run h
  have hspan := Pattern.toNat_add_of_maxStart hlimit
  have hdrawn := LawfulOffsetSource.draw_le limit s.source
  rw [hsamples, List.map_map]
  cases p with
  | randomSeeks count length | singlesScan count length =>
    obtain ⟨rfl, rfl⟩ := prepare_idle [.buffer, .samples] (by decide) hprepare
    obtain ⟨offsets, fetched, hoffsets, hle, hgot, htraced⟩ := hreads.redrawn rfl
    exact ⟨limit, fetched, _, hspan, ⟨offsets, hoffsets, hle, rfl⟩, hgot, htraced⟩
  | strideSeeks jumps stride length =>
    obtain ⟨rfl, rfl⟩ := prepare_drawn [] [.buffer, .samples] (by decide) (by decide) hprepare
    obtain ⟨offsets, fetched, hoffsets, hgot, htraced⟩ := hreads.spaced rfl
    exact ⟨limit, fetched, _, hspan, ⟨_, hdrawn, offsets, hoffsets, rfl⟩, hgot, .draw limit htraced⟩
  | sequentialLarge length =>
    obtain ⟨rfl, rfl⟩ := prepare_drawn [] [.buffer, .samples] (by decide) (by decide) hprepare
    have hpos : 0 < reads.length := hlength.symm ▸ Nat.one_pos
    obtain ⟨fetched, hgot, htraced⟩ := hreads.contiguous rfl hpos
    exact ⟨limit, fetched, _, hspan, ⟨_, hdrawn, rfl⟩, hgot, .draw limit htraced⟩
  | groupedScan n length =>
    by_cases hn : n = 0
    · subst hn
      obtain ⟨rfl, rfl⟩ := prepare_idle [.samples] (by decide) hprepare
      obtain rfl := List.eq_nil_of_length_eq_zero hlength
      cases hreads
      exact ⟨limit, [], [], hspan, by rw [Pattern.Script, if_pos rfl], rfl, .done⟩
    · rw [Pattern.preparations_groupedScan hn] at hprepare
      obtain ⟨rfl, rfl⟩ := prepare_drawn [.samples] [.buffer] (by decide) (by decide) hprepare
      have hpos : 0 < reads.length := hlength.symm ▸ Word.toNat_pos hn
      obtain ⟨fetched, hgot, htraced⟩ := hreads.contiguous rfl hpos
      refine ⟨limit, fetched, _, hspan, ?_, hgot, .draw limit htraced⟩
      exact (if_neg hn).mpr ⟨_, hdrawn, rfl⟩

instance [LawfulOffsetSource ο] : LawfulOffsetSource (Logged ο) :=
  ⟨fun max l => LawfulOffsetSource.draw_le max l.source⟩

/-- A completed run does so under observation too. -/
theorem observed_of_run {p : Pattern} {samples : Array Sample} {s t : Session δ ο}
    (h : s.run p = (.ok samples, t)) : ∃ w, s.observed.run p = (.ok samples, w) ∧ w.plain = t := by
  have hplain : s.run p = Prod.map id plain (s.observed.run p) :=
    run_map Watched.morphism Logged.morphism p s.observed
  rw [h] at hplain
  exact ⟨_, Prod.ext (congrArg Prod.fst hplain).symm rfl, (congrArg Prod.snd hplain).symm⟩

/-- A run of a pattern, under observation, that has followed its script. The reads of the steps are
those of the samples, one by one, and the steps are all that is on record. On a device with a read
position each read starts where the one before it ended, unless a seek comes in between. -/
structure Followed (p : Pattern) (position : δ → ℕ) (s : Session δ ο) (samples : Array Sample)
    (w : Session (Watched δ) (Logged ο)) (fetched : List Fetched) (steps : List Step) : Prop where
  expected : ∃ count, p.expectedSamples = .ok count ∧ samples.size = count.toNat
  script : ∃ limit : UInt64, limit.toNat + p.exactSpan = (Device.size s.device).toNat ∧
    p.Script limit fetched steps
  yields : samples.toList.map (·.bytesRead) = fetched.map (·.got)
  traced : Traced (fun watched => position watched.device) s.observed steps w
  calls : w.device.calls.toList = steps.filterMap (·.call?)
  draws : w.source.draws.toList = steps.filterMap (·.draw?)
  placed : Device.Positioned position s.device → Step.Placed (position s.device) steps

/-- A pattern whose span fits, with fewer samples than exhaust the memory, completes on every device
that answers its calls, and does exactly what its script says: the draws, the seeks and the reads, in
that order, and one sample for each read. -/
theorem run_follows_script [LawfulOffsetSource ο] {p : Pattern} {s : Session δ ο}
    (hspan : p.exactSpan ≤ (Device.size s.device).toNat)
    (hsize : (Device.size s.device).toNat < 2 ^ 63) (hcount : p.schedule.reads < 2 ^ 58)
    (hd : Device.Answers (Device.size s.device) s.device) (position : δ → ℕ) :
    ∃ samples w fetched steps, s.run p = (.ok samples, w.plain) ∧
      s.observed.run p = (.ok samples, w) ∧ Followed p position s samples w fetched steps := by
  obtain ⟨samples, t, hrun⟩ := run_completes hspan hsize hcount hd
  obtain ⟨w, hw, rfl⟩ := observed_of_run hrun
  obtain ⟨limit, fetched, steps, hlimit, hscript, hyields, htraced⟩ :=
    script_of_run (fun watched => position watched.device) hw
  obtain ⟨hcalls, hdraws⟩ := htraced.recorded
  obtain ⟨count, hexpected⟩ := Pattern.exists_expectedSamples (hcount.trans (by decide))
  have hreads := Pattern.expectedSamples_eq_reads hexpected
  refine ⟨samples, w, fetched, steps, hrun, hw, ?_⟩
  exact {
    expected := ⟨count, hexpected, (size_of_run hrun).trans hreads.symm⟩
    script := ⟨limit, hlimit, hscript⟩
    yields := hyields
    traced := htraced
    calls := by simpa [observed] using hcalls
    draws := by simpa [observed] using hdraws
    placed := fun hp => htraced.placed (hp.of_map Watched.morphism) }

end Session

namespace MemoryStore

theorem Still.of_reaches {clock : ManualClock} {m e : MemoryStore} (h : m.Still clock)
    (he : Device.Reaches m e) : e.Still clock := by
  induction he with
  | refl => exact h
  | now _ ih => exact ih
  | seek offset _ ih =>
    obtain ⟨_, hseek, hstill⟩ := ih.seek offset
    simp only [Device.seek, hseek]
    exact hstill
  | read length _ ih =>
    obtain ⟨_, _, hskim, hstill⟩ := ih.skim length
    simp only [Device.read, hskim]
    exact hstill
  | dropCache _ ih => exact ih

/-- A store without latencies answers everything, whatever its cap. -/
theorem Still.answers {clock : ManualClock} {m : MemoryStore} (h : m.Still clock) (size : UInt64) :
    Device.Answers size m where
  seek he offset _ := by
    obtain ⟨_, hseek, _⟩ := (h.of_reaches he).seek offset
    simp only [Device.seek, hseek]
  read he length := by
    obtain ⟨got, _, hskim, _⟩ := (h.of_reaches he).skim length
    exact ⟨got, by simp only [Device.read, hskim]⟩

/-- The position of a store is one. -/
theorem positioned (m : MemoryStore) : Device.Positioned (fun e => e.position.toNat) m where
  now _ := rfl
  seek _ heq := by
    simp only [Device.seek] at heq
    split at heq
    next hseek =>
      cases heq
      obtain ⟨_, _, rfl⟩ := seek_ok hseek
      rfl
    next => cases heq
  read {e _ _ _} _ heq := by
    simp only [Device.read] at heq
    split at heq
    next hskim =>
      cases heq
      obtain ⟨_, _, rfl, rfl⟩ := skim_ok hskim
      exact e.toNat_position_add_yield _
    next => cases heq

end MemoryStore

/-- A grouped scan of a store that gives seven bytes at a time. -/
theorem Session.run_follows_script_capped :
    let s : Session MemoryStore ScriptedOffsets :=
      ⟨{ data := .counting 1000, maxRead := some 7 }, ⟨#[50], 0⟩, #[]⟩
    Device.Answers 1000 s.device ∧ ∃ samples w fetched steps,
      s.run (.groupedScan 3 10) = (.ok samples, w.plain) ∧
      Followed (.groupedScan 3 10) (fun m => m.position.toNat) s samples w fetched steps ∧
      Step.Placed 0 steps ∧ fetched.map (·.got) = [7, 7, 7] ∧ w.device.seeks = [50] ∧
      w.source.draws = #[⟨970, 50⟩] := by
  intro s
  have hstill : s.device.Still s.device.clock := ⟨rfl, rfl, rfl⟩
  have hanswers : Device.Answers 1000 s.device := hstill.answers 1000
  obtain ⟨samples, w, fetched, steps, hrun, hw, hfollowed⟩ :=
    run_follows_script (p := .groupedScan 3 10) (s := s) (by decide) (by decide) (by decide) hanswers
      (fun m => m.position.toNat)
  have hyields : (s.run (.groupedScan 3 10)).1.map (·.toList.map (·.bytesRead)) = .ok [7, 7, 7] := by
    decide +kernel
  have hseeks : (s.observed.run (.groupedScan 3 10)).2.device.seeks = [50] := by decide +kernel
  have hdraws : (s.observed.run (.groupedScan 3 10)).2.source.draws = #[⟨970, 50⟩] := by
    decide +kernel
  rw [hrun] at hyields
  rw [hw] at hseeks hdraws
  refine ⟨hanswers, samples, w, fetched, steps, hrun, hfollowed, hfollowed.placed s.device.positioned,
    ?_, hseeks, hdraws⟩
  rw [← hfollowed.yields]
  exact Except.ok.inj hyields

end ScanLatency
