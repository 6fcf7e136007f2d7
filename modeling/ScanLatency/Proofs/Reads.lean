import Mathlib.Data.Nat.Notation
import ScanLatency.Session

/-! The reads that a pattern makes, one after the other. A run of a pattern records the target and
the sample of every read up to its end, or up to the read at which it stops short. -/
namespace ScanLatency

namespace Session

variable {δ ο : Type} [Device δ] [OffsetSource ο]

omit [Device δ] [OffsetSource ο] in
@[simp] theorem noteShort_device (p : Pattern) (target : Option UInt64) (sample : Sample)
    (s : Session δ ο) : (noteShort p target sample s).device = s.device := by
  unfold noteShort
  split <;> rfl

omit [Device δ] [OffsetSource ο] in
@[simp] theorem noteShort_source (p : Pattern) (target : Option UInt64) (sample : Sample)
    (s : Session δ ο) : (noteShort p target sample s).source = s.source := by
  unfold noteShort
  split <;> rfl

/-- One read: where it went, if it had a target of its own, and its sample. -/
structure Read where
  target : Option UInt64
  sample : Sample

/-- The reads of a pattern from one session to another, given the offset sought before them. -/
inductive Reads (p : Pattern) (limit : UInt64) (start : Option UInt64) :
    Option UInt64 → Session δ ο → List Read → Session δ ο → Prop
  | done {last s} : Reads p limit start last s [] s
  | read {last target sample source device rest s s'}
      (targeted : nextTarget limit p.schedule.later start last s.source = (.ok target, source))
      (sampled : Device.sample target p.schedule.length s.device = (.ok sample, device))
      (tail : Reads p limit start (target.or last)
        (noteShort p target sample { s with device, source }) rest s') :
      Reads p limit start last s (⟨target, sample⟩ :: rest) s'

def lastSought (last : Option UInt64) (reads : List Read) : Option UInt64 :=
  reads.foldl (fun last r => r.target.or last) last

/-- What stops a pattern before its next read is done: the read has no target, or its access
halts. -/
inductive Stops (p : Pattern) (limit : UInt64) (start last : Option UInt64) (s : Session δ ο) :
    Halt PatternError → Session δ ο → Prop
  | target {abort source}
      (targeted : nextTarget limit p.schedule.later start last s.source = (.error abort, source)) :
      Stops p limit start last s (.aborted abort) { s with source }
  | access {target source halt device}
      (targeted : nextTarget limit p.schedule.later start last s.source = (.ok target, source))
      (sampled : Device.sample target p.schedule.length s.device = (.error halt, device)) :
      Stops p limit start last s (halt.restate (.io p.runName)) { s with device, source }

/-- A pattern that stops with a failure stops with the failure of an operation. -/
theorem Stops.io {p : Pattern} {limit : UInt64} {start last : Option UInt64} {s s' : Session δ ο}
    {cause : PatternError} (h : Stops p limit start last s (.failed cause) s') :
    ∃ e target, cause = .io p.runName e ∧
      (Device.sample target p.schedule.length s.device).1 = .error (.failed e) := by
  generalize hhalt : Halt.failed cause = halt at h
  cases h with
  | target => cases hhalt
  | @access target _ halt _ _ hsample =>
    cases halt with
    | failed e =>
      cases hhalt
      exact ⟨e, target, rfl, by rw [hsample]⟩
    | aborted abort => cases hhalt

/-- A loop that ends well has made all of its reads and kept all of their samples. -/
theorem reads_of_readAll {p : Pattern} {limit : UInt64} {start : Option UInt64} {n : ℕ}
    {last : Option UInt64} {samples all : Array Sample} {s s' : Session δ ο}
    (h : readAll p limit start n last samples s = (.ok all, s')) :
    ∃ reads, Reads p limit start last s reads s' ∧ reads.length = n ∧
      all.toList = samples.toList ++ reads.map (·.sample) := by
  induction n generalizing last samples s with
  | zero =>
    cases h
    exact ⟨[], .done, rfl, (List.append_nil _).symm⟩
  | succ n ih =>
    unfold readAll at h
    split at h
    next => cases h
    next target source htarget =>
      split at h
      next => cases h
      next sample device hsample =>
        obtain ⟨reads, hreads, hlength, hall⟩ := ih h
        refine ⟨⟨target, sample⟩ :: reads, .read htarget hsample hreads, ?_, ?_⟩
        · rw [List.length_cons, hlength]
        · simp [hall]

/-- A loop that does not end well has made some of its reads and stopped. -/
theorem stops_of_readAll {p : Pattern} {limit : UInt64} {start : Option UInt64} {n : ℕ}
    {last : Option UInt64} {samples : Array Sample} {s s' : Session δ ο} {halt : Halt PatternError}
    (h : readAll p limit start n last samples s = (.error halt, s')) :
    ∃ reads t, Reads p limit start last s reads t ∧ reads.length < n ∧
      Stops p limit start (lastSought last reads) t halt s' := by
  induction n generalizing last samples s with
  | zero => cases h
  | succ n ih =>
    unfold readAll at h
    split at h
    next htarget =>
      cases h
      exact ⟨[], s, .done, Nat.succ_pos n, .target htarget⟩
    next target source htarget =>
      split at h
      next hsample =>
        cases h
        exact ⟨[], s, .done, Nat.succ_pos n, .access htarget hsample⟩
      next sample device hsample =>
        obtain ⟨reads, t, hreads, hlength, hstops⟩ := ih h
        exact ⟨_, t, .read htarget hsample hreads, Nat.succ_lt_succ hlength, hstops⟩

/-- What a completed run of a pattern went through: its size check, its preparations, its reads. -/
theorem reads_of_run {p : Pattern} {all : Array Sample} {s s' : Session δ ο}
    (h : s.run p = (.ok all, s')) :
    ∃ limit start source reads,
      p.maxStart (Device.size s.device) = .ok limit ∧
      prepare p limit p.preparations none s.source = (.ok start, source) ∧
      Reads p limit start none { s with source } reads s' ∧
      reads.length = p.schedule.reads ∧ all.toList = reads.map (·.sample) := by
  unfold run at h
  split at h
  next => cases h
  next limit hlimit =>
    split at h
    next => cases h
    next start source hprepare =>
      obtain ⟨reads, hreads, hlength, hall⟩ := reads_of_readAll h
      exact ⟨limit, start, source, reads, hlimit, hprepare, hreads, hlength, by simpa using hall⟩

/-- Where a run of a pattern that does not complete has ended: at its size check, in its
preparations, or before one of its reads was done. -/
theorem stops_of_run {p : Pattern} {s s' : Session δ ο} {halt : Halt PatternError}
    (h : s.run p = (.error halt, s')) :
    (∃ cause, p.maxStart (Device.size s.device) = .error cause ∧ halt = .failed cause ∧ s' = s) ∨
    ∃ limit, p.maxStart (Device.size s.device) = .ok limit ∧
      ((∃ abort source, prepare p limit p.preparations none s.source = (.error abort, source) ∧
          halt = .aborted abort ∧ s' = { s with source }) ∨
        ∃ start source reads t,
          prepare p limit p.preparations none s.source = (.ok start, source) ∧
          Reads p limit start none { s with source } reads t ∧ reads.length < p.schedule.reads ∧
          Stops p limit start (lastSought none reads) t halt s') := by
  unfold run at h
  split at h
  next cause hcause =>
    cases h
    exact .inl ⟨cause, hcause, rfl, rfl⟩
  next limit hlimit =>
    refine .inr ⟨limit, hlimit, ?_⟩
    split at h
    next abort source hprepare =>
      cases h
      exact .inl ⟨abort, source, hprepare, rfl, rfl⟩
    next start source hprepare =>
      obtain ⟨reads, t, hreads, hlength, hstops⟩ := stops_of_readAll h
      exact .inr ⟨start, source, reads, t, hprepare, hreads, hlength, hstops⟩

/-- A property of sessions that outlasts draws, samples and notices of short reads. -/
structure Stable (p : Pattern) (property : Session δ ο → Prop) : Prop where
  drawn {s : Session δ ο} (h : property s) (source : ο) : property { s with source }
  sampled {s : Session δ ο} (h : property s) (target : Option UInt64) :
    property { s with device := (Device.sample target p.schedule.length s.device).2 }
  noted {s : Session δ ο} (h : property s) (target : Option UInt64) (sample : Sample) :
    property (noteShort p target sample s)

namespace Stable

variable {p : Pattern} {property : Session δ ο → Prop} {limit : UInt64}
  {start last : Option UInt64} {s s' : Session δ ο}

theorem reads (hp : Stable p property) {reads : List Read}
    (hreads : Reads p limit start last s reads s') (h : property s) : property s' := by
  induction hreads with
  | done => exact h
  | @read _ target sample source _ _ _ _ _ hsample _ ih =>
    have hnext := hp.sampled (hp.drawn h source) target
    rw [hsample] at hnext
    exact ih (hp.noted hnext target sample)

theorem stops (hp : Stable p property) {halt : Halt PatternError}
    (hstops : Stops p limit start last s halt s') (h : property s) : property s' := by
  cases hstops with
  | target => exact hp.drawn h _
  | @access target source _ _ _ hsample =>
    have hnext := hp.sampled (hp.drawn h source) target
    rwa [hsample] at hnext

/-- A run of a pattern keeps it too, however the run ends. -/
theorem run (hp : Stable p property) (h : property s) : property (s.run p).2 := by
  rcases hrun : s.run p with ⟨halt | samples, s'⟩
  · rcases stops_of_run hrun with
      ⟨_, _, _, rfl⟩ | ⟨_, _, ⟨_, _, _, _, rfl⟩ | ⟨_, _, _, _, _, hreads, _, hstops⟩⟩
    · exact h
    · exact hp.drawn h _
    · exact hp.stops hstops (hp.reads hreads (hp.drawn h _))
  · obtain ⟨_, _, _, _, _, _, hreads, _⟩ := reads_of_run hrun
    exact hp.reads hreads (hp.drawn h _)

end Stable
end Session
end ScanLatency
