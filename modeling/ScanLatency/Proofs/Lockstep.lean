import ScanLatency.Proofs.Answered

/-! Devices on which chosen calls fail. A device under a schedule goes in step with the device itself
up to the first call that the schedule strikes. That call has no effect and ends whatever it is part
of: an access, a sample, the run of a pattern. -/
namespace ScanLatency

/-- A device on which chosen calls fail. Seeks and reads are numbered from zero; a call that the
schedule has a cause for does nothing but fail for that cause. -/
structure Scheduled (δ : Type) where
  device : δ
  schedule : ℕ → Option IoError
  made : ℕ := 0

namespace Scheduled

variable {δ : Type}

def call {α : Type} (operation : δ → Except (Halt IoError) α × δ) (f : Scheduled δ) :
    Except (Halt IoError) α × Scheduled δ :=
  match f.schedule f.made with
  | some cause => (.error (.failed cause), { f with made := f.made + 1 })
  | none =>
    let (outcome, device) := operation f.device
    (outcome, { f with device, made := f.made + 1 })

instance [Device δ] : Device (Scheduled δ) where
  now f := ((Clock.now f.device).1, { f with device := (Clock.now f.device).2 })
  size f := Device.size f.device
  seek offset := call (Device.seek offset)
  read length := call (Device.read length)
  dropCache f := ((Device.dropCache f.device).1, { f with device := (Device.dropCache f.device).2 })

end Scheduled

def DeviceCall.struck (cause : IoError) : DeviceCall → DeviceCall
  | .seek offset _ => .seek offset (.error (.failed cause))
  | .read length _ => .read length (.error (.failed cause))
  | .dropCache _ => .dropCache (.error cause)

/-- The schedule strikes none of the calls from number `a` on up to number `b`. -/
def Spares (schedule : ℕ → Option IoError) (a b : ℕ) : Prop :=
  ∀ k, a ≤ k → k < b → schedule k = none

theorem Spares.refl (schedule : ℕ → Option IoError) (a : ℕ) : Spares schedule a a :=
  fun _ hle hlt => absurd hle (Nat.not_le.2 hlt)

/-- There is at most one first struck call. -/
theorem Spares.first_unique {schedule : ℕ → Option IoError} {j k : ℕ} {cause cause' : IoError}
    (hj : Spares schedule 0 j) (hcause : schedule j = some cause) (hk : Spares schedule 0 k)
    (hcause' : schedule k = some cause') : j = k ∧ cause = cause' := by
  obtain hlt | rfl | hlt := Nat.lt_trichotomy j k
  · rw [hk j (Nat.zero_le j) hlt] at hcause
    cases hcause
  · rw [hcause] at hcause'
    cases hcause'
    exact ⟨rfl, rfl⟩
  · rw [hj k (Nat.zero_le k) hlt] at hcause'
    cases hcause'

theorem Spares.append {schedule : ℕ → Option IoError} {a b c : ℕ} (h : Spares schedule a b)
    (h' : Spares schedule b c) : Spares schedule a c := by
  intro k hle hlt
  rcases Nat.lt_or_ge k b with hb | hb
  · exact h k hle hb
  · exact h' k hb hlt

namespace Watched

variable {δ : Type}

def make {α : Type} (operation : δ → Except (Halt IoError) α × δ)
    (entry : Except (Halt IoError) α → DeviceCall) (w : Watched δ) :
    Except (Halt IoError) α × Watched δ :=
  let (outcome, device) := operation w.device
  (outcome, ⟨device, w.calls.push (entry outcome)⟩)

variable (schedule : ℕ → Option IoError)

/-- The device under a schedule, with all calls on record made. -/
def under (w : Watched δ) : Watched (Scheduled δ) :=
  ⟨⟨w.device, schedule, w.calls.size⟩, w.calls⟩

variable [Device δ]

/-- The first call that the schedule strikes, on the way of a device from its start to where it
would be left without the schedule. Until then all went well. The call would have been made without
the schedule too; under the schedule it fails, and only the clock is looked at after it. -/
structure Struck (start found left : Watched δ) (call : DeviceCall) (cause : IoError)
    (real : Watched (Scheduled δ)) : Prop where
  answered : ∃ i j, Device.Answered start i j found
  spared : Spares schedule start.calls.size found.calls.size
  scheduled : schedule found.calls.size = some cause
  reaches : Device.Reaches found left
  recorded : found.calls.toList ++ [call] <+: left.calls.toList
  calls_eq : real.calls.toList = found.calls.toList ++ [call.struck cause]
  idle : Device.Answered found.device 0 0 real.device.device

/-- An operation without and with the schedule. Either none of its calls is struck and both do the
same, or the first struck call ends it. -/
inductive Lockstep {α : Type} (start : Watched δ) (free : Except (Halt IoError) α × Watched δ)
    (real : Except (Halt IoError) α × Watched (Scheduled δ)) : Prop
  | spared (hnone : Spares schedule start.calls.size free.2.calls.size)
      (hsame : real = Prod.map id (under schedule) free)
  | struck {found call cause} (hstruck : Struck schedule start found free.2 call cause real.2)
      (hfailed : real.1 = .error (.failed cause))

variable {schedule} {start found left mid : Watched δ} {call : DeviceCall} {cause : IoError}
  {real : Watched (Scheduled δ)}

/-- The way to the struck call may begin earlier. -/
theorem Struck.after {i j : ℕ} (h : Struck schedule mid found left call cause real)
    (hanswered : Device.Answered start i j mid)
    (hnone : Spares schedule start.calls.size mid.calls.size) :
    Struck schedule start found left call cause real where
  answered := by
    obtain ⟨_, _, hfound⟩ := h.answered
    exact ⟨_, _, hanswered.trans hfound⟩
  spared := hnone.append h.spared
  scheduled := h.scheduled
  reaches := h.reaches
  recorded := h.recorded
  calls_eq := h.calls_eq
  idle := h.idle

/-- Without the schedule the device may have gone on. -/
theorem Struck.before {left' : Watched δ} (h : Struck schedule start found left call cause real)
    (hreach : Device.Reaches left left') : Struck schedule start found left' call cause real :=
  { h with
    reaches := h.reaches.trans hreach
    recorded := h.recorded.trans (calls_isPrefix hreach) }

theorem Struck.looked (h : Struck schedule start found left call cause real) :
    Struck schedule start found left call cause (Clock.now real).2 :=
  { h with
    calls_eq := h.calls_eq
    idle := h.idle.now }

/-- One call is struck, or made as it would be without the schedule. -/
theorem lockstep_make {α : Type} (operation : δ → Except (Halt IoError) α × δ)
    (entry : Except (Halt IoError) α → DeviceCall) (w : Watched δ)
    (hreach : Device.Reaches w (make operation entry w).2)
    (hentry : ∀ outcome cause, (entry outcome).struck cause = entry (.error (.failed cause))) :
    Lockstep schedule w (make operation entry w)
      (make (Scheduled.call operation) entry (under schedule w)) := by
  cases hcause : schedule w.calls.size with
  | none =>
    refine .spared ?_ ?_
    · intro k hle hlt
      have hsize : (make operation entry w).2.calls.size = w.calls.size + 1 := Array.size_push _
      rwa [show k = w.calls.size by omega]
    · simp [make, Scheduled.call, under, hcause]
  | some cause =>
    have hstruck : Struck schedule w w (make operation entry w).2 (entry (operation w.device).1)
        cause (make (Scheduled.call operation) entry (under schedule w)).2 := {
      answered := ⟨0, 0, .refl⟩
      spared := .refl schedule _
      scheduled := hcause
      reaches := hreach
      recorded := by simp [make]
      calls_eq := by simp [make, Scheduled.call, under, hcause, hentry]
      idle := by
        simp only [make, Scheduled.call, under, hcause]
        exact .refl }
    exact .struck hstruck (by simp [make, Scheduled.call, under, hcause])

theorem lockstep_seek (offset : UInt64) (w : Watched δ) :
    Lockstep schedule w (Device.seek offset w) (Device.seek offset (under schedule w)) :=
  lockstep_make (Device.seek offset) (.seek offset) w (.seek offset .refl) fun _ _ => rfl

theorem lockstep_read (length : UInt64) (w : Watched δ) :
    Lockstep schedule w (Device.read length w) (Device.read length (under schedule w)) :=
  lockstep_make (Device.read length) (.read length) w (.read length .refl) fun _ _ => rfl

/-- Where the first part of an operation has gone well without the schedule, its rest decides. -/
theorem Lockstep.after {α : Type} {i j : ℕ} {free : Except (Halt IoError) α × Watched δ}
    {outcome : Except (Halt IoError) α × Watched (Scheduled δ)}
    (h : Lockstep schedule mid free outcome) (hanswered : Device.Answered start i j mid)
    (hnone : Spares schedule start.calls.size mid.calls.size) :
    Lockstep schedule start free outcome := by
  cases h with
  | spared hnone' hsame => exact .spared (hnone.append hnone') hsame
  | struck hstruck hfailed => exact .struck (hstruck.after hanswered hnone) hfailed

theorem lockstep_access (target : Option UInt64) (length : UInt64) (w : Watched δ) :
    Lockstep schedule w (Device.access target length w)
      (Device.access target length (under schedule w)) := by
  cases target with
  | none => exact lockstep_read length w
  | some offset =>
    have hseek : Lockstep schedule w _ _ := lockstep_seek offset w
    simp only [Device.access]
    rcases hfree : Device.seek offset w with ⟨halt | _, e⟩ <;> rw [hfree] at hseek
    · cases hseek with
      | spared hnone hsame =>
        rw [hsame]
        exact .spared hnone rfl
      | struck hstruck hfailed =>
        rcases hreal : Device.seek offset (under schedule w) with ⟨halt' | _, f⟩ <;>
          rw [hreal] at hfailed hstruck <;> cases hfailed
        exact .struck hstruck rfl
    · cases hseek with
      | spared hnone hsame =>
        rw [hsame]
        exact (lockstep_read length e).after (.seek .refl hfree) hnone
      | struck hstruck hfailed =>
        rcases hreal : Device.seek offset (under schedule w) with ⟨halt' | _, f⟩ <;>
          rw [hreal] at hfailed hstruck <;> cases hfailed
        exact .struck (hstruck.before (.read length .refl)) rfl

theorem lockstep_sample (target : Option UInt64) (length : UInt64) (w : Watched δ) :
    Lockstep schedule w (Device.sample target length w)
      (Device.sample target length (under schedule w)) := by
  have haccess : Lockstep schedule w _ _ :=
    (lockstep_access target length (Clock.now w).2).after (.now .refl) (.refl schedule _)
  have hopened : (Clock.now (under schedule w)).2 = under schedule (Clock.now w).2 := rfl
  simp only [Device.sample, sampled, hopened]
  cases haccess with
  | spared hnone hsame =>
    rw [hsame]
    rcases hfree : Device.access target length (Clock.now w).2 with ⟨(cause | abort) | got, e⟩
    all_goals
      rw [hfree] at hnone
      exact .spared hnone rfl
  | @struck _ _ cause hstruck hfailed =>
    rcases hreal : Device.access target length (under schedule (Clock.now w).2) with ⟨_, f⟩
    rw [hreal] at hfailed hstruck
    subst hfailed
    -- Under the schedule the clock is read once more; without it, unless the access aborts.
    have hlooked := hstruck.looked
    rcases hfree : Device.access target length (Clock.now w).2 with ⟨(cause | abort) | got, e⟩
    all_goals rw [hfree] at hlooked
    · exact .struck (hlooked.before (.now .refl)) rfl
    · exact .struck hlooked rfl
    · exact .struck (hlooked.before (.now .refl)) rfl

end Watched

namespace Session

variable {δ ο : Type}

/-- The session with its device under a schedule. -/
def scheduled (schedule : ℕ → Option IoError) (s : Session δ ο) : Session (Scheduled δ) ο :=
  s.map (fun device => ⟨device, schedule, 0⟩) id

variable [Device δ] [OffsetSource ο]

/-- A run of a pattern without and with a schedule. Either none of its calls is struck and both do
the same, or the first struck call ends it; nothing is drawn that would not be drawn without the
schedule. -/
inductive Lockstep (schedule : ℕ → Option IoError) (p : Pattern)
    (start : Session (Watched δ) (Logged ο))
    (free : Except (Halt PatternError) (Array Sample) × Session (Watched δ) (Logged ο))
    (real : Except (Halt PatternError) (Array Sample) ×
      Session (Watched (Scheduled δ)) (Logged ο)) : Prop
  | spared (hnone : Spares schedule start.device.calls.size free.2.device.calls.size)
      (hsame : real = Prod.map id (map (Watched.under schedule) id) free)
  | struck {found call cause}
      (hstruck : Watched.Struck schedule start.device found free.2.device call cause real.2.device)
      (hfailed : real.1 = .error (.failed (.io p.runName cause)))
      (hdraws : real.2.source.draws.toList <+: free.2.source.draws.toList)

omit [Device δ] in
theorem draws_isPrefix_nextTarget (limit : UInt64) (later : Placement) (start last : Option UInt64)
    (l : Logged ο) :
    l.draws.toList <+: (nextTarget limit later start last l).2.draws.toList := by
  cases last with
  | none =>
    cases start with
    | none => exact l.draws_isPrefix limit
    | some offset => exact List.prefix_rfl
  | some offset =>
    cases later with
    | redrawn => exact l.draws_isPrefix limit
    | spaced stride => exact List.prefix_rfl
    | contiguous => exact List.prefix_rfl

theorem draws_isPrefix_readAll (p : Pattern) (limit : UInt64) (start : Option UInt64) (n : ℕ)
    (last : Option UInt64) (samples : Array Sample) (s : Session (Watched δ) (Logged ο)) :
    s.source.draws.toList <+: (readAll p limit start n last samples s).2.source.draws.toList := by
  induction n generalizing last samples s with
  | zero => exact List.prefix_rfl
  | succ n ih =>
    have hdrawn := draws_isPrefix_nextTarget limit p.schedule.later start last s.source
    unfold readAll
    split
    next heq => rwa [heq] at hdrawn
    next target source heq =>
      rw [heq] at hdrawn
      split
      next => exact hdrawn
      next sample device _ =>
        have hrest := ih (target.or last) (samples.push sample)
          (noteShort p target sample { s with device, source })
        rw [noteShort_source] at hrest
        exact hdrawn.trans hrest

theorem reaches_readAll (p : Pattern) (limit : UInt64) (start : Option UInt64) (n : ℕ)
    (last : Option UInt64) (samples : Array Sample) (s : Session δ ο) :
    Device.Reaches s.device (readAll p limit start n last samples s).2.device := by
  rcases hread : readAll p limit start n last samples s with ⟨halt | all, s'⟩
  · obtain ⟨_, _, hreads, _, hstops⟩ := stops_of_readAll hread
    exact (stable_reaches s.device p).stops hstops hreads.reaches
  · obtain ⟨_, hreads, _⟩ := reads_of_readAll hread
    exact hreads.reaches

omit [OffsetSource ο] in
/-- Where the first reads have gone well without the schedule, the rest decides. -/
theorem Lockstep.after {schedule : ℕ → Option IoError} {p : Pattern} {i j : ℕ}
    {start mid : Session (Watched δ) (Logged ο)}
    {free : Except (Halt PatternError) (Array Sample) × Session (Watched δ) (Logged ο)}
    {real : Except (Halt PatternError) (Array Sample) × Session (Watched (Scheduled δ)) (Logged ο)}
    (h : Lockstep schedule p mid free real)
    (hanswered : Device.Answered start.device i j mid.device)
    (hnone : Spares schedule start.device.calls.size mid.device.calls.size) :
    Lockstep schedule p start free real := by
  cases h with
  | spared hnone' hsame => exact .spared (hnone.append hnone') hsame
  | struck hstruck hfailed hdraws =>
    exact .struck (hstruck.after hanswered hnone) hfailed hdraws

theorem lockstep_readAll (schedule : ℕ → Option IoError) (p : Pattern) (limit : UInt64)
    (start : Option UInt64) (n : ℕ) (last : Option UInt64) (samples : Array Sample)
    (s : Session (Watched δ) (Logged ο)) :
    Lockstep schedule p s (readAll p limit start n last samples s)
      (readAll p limit start n last samples (s.map (Watched.under schedule) id)) := by
  induction n generalizing last samples s with
  | zero => exact .spared (.refl schedule _) rfl
  | succ n ih =>
    simp only [readAll, map_source, map_device, id]
    rcases nextTarget limit p.schedule.later start last s.source with ⟨abort | target, source⟩
    · exact .spared (.refl schedule _) rfl
    · have hsample : Watched.Lockstep schedule s.device _ _ :=
        Watched.lockstep_sample target p.schedule.length s.device
      dsimp only
      cases hsample with
      | spared hnone hsame =>
        rw [hsame]
        rcases hfree : Device.sample target p.schedule.length s.device with ⟨halt | sample, device⟩
        · rw [hfree] at hnone
          exact .spared hnone rfl
        · rw [hfree] at hnone
          have hrest := ih (target.or last) (samples.push sample)
            (noteShort p target sample { s with device, source })
          rw [map_noteShort] at hrest
          have hmid : (noteShort p target sample { s with device, source }).device = device :=
            noteShort_device ..
          have hanswered := Device.Answered.sample hfree
          rw [← hmid] at hanswered hnone
          exact hrest.after hanswered hnone
      | struck hstruck hfailed =>
        rcases hreal : Device.sample target p.schedule.length (s.device.under schedule) with ⟨_, f⟩
        rw [hreal] at hfailed hstruck
        subst hfailed
        rcases hfree : Device.sample target p.schedule.length s.device with ⟨halt | sample, device⟩
        · rw [hfree] at hstruck
          exact .struck hstruck rfl List.prefix_rfl
        · rw [hfree] at hstruck
          have hreach := reaches_readAll p limit start n (target.or last) (samples.push sample)
            (noteShort p target sample { s with device, source })
          have hdraws := draws_isPrefix_readAll p limit start n (target.or last)
            (samples.push sample) (noteShort p target sample { s with device, source })
          rw [noteShort_device] at hreach
          rw [noteShort_source] at hdraws
          exact .struck (hstruck.before hreach) rfl hdraws

theorem lockstep_run (schedule : ℕ → Option IoError) (p : Pattern)
    (s : Session (Watched δ) (Logged ο)) :
    Lockstep schedule p s (s.run p) ((s.map (Watched.under schedule) id).run p) := by
  have hsize : Device.size (s.device.under schedule) = Device.size s.device := rfl
  simp only [run, map_device, map_source, hsize, id]
  rcases p.maxStart (Device.size s.device) with cause | limit
  · exact .spared (.refl schedule _) rfl
  · dsimp only
    rcases prepare p limit p.preparations none s.source with ⟨abort | start, source⟩
    · exact .spared (.refl schedule _) rfl
    · have hreads := lockstep_readAll schedule p limit start p.schedule.reads none #[]
        { s with source }
      exact hreads.after .refl (.refl schedule _)

end Session

end ScanLatency
