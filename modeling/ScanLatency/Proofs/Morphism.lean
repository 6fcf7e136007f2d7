import ScanLatency.Run

/-! Maps between devices, and between sources, that keep every answer. A run cannot tell a device
from its image: each operation of a session on the image is the image of the operation. What is
attached to a device without changing its answers, such as a record of its calls, can therefore be
put on and taken off freely. -/
namespace ScanLatency

/-- A map of devices that keeps every answer and goes along with every call. -/
structure Device.Morphism {δ ε : Type} [Device δ] [Device ε] (f : δ → ε) : Prop where
  now (d : δ) : Clock.now (f d) = Prod.map id f (Clock.now d)
  size (d : δ) : size (f d) = size d
  seek (offset : UInt64) (d : δ) : seek offset (f d) = Prod.map id f (seek offset d)
  read (length : UInt64) (d : δ) : read length (f d) = Prod.map id f (read length d)
  dropCache (d : δ) : dropCache (f d) = Prod.map id f (dropCache d)

/-- A map of sources that keeps every draw. -/
structure OffsetSource.Morphism {ο π : Type} [OffsetSource ο] [OffsetSource π] (g : ο → π) :
    Prop where
  draw (max : UInt64) (source : ο) : draw max (g source) = Prod.map id g (draw max source)

namespace Device

variable {δ ε : Type} [Device δ] [Device ε] {f : δ → ε}

theorem access_map (hf : Morphism f) (target : Option UInt64) (length : UInt64) (d : δ) :
    access target length (f d) = Prod.map id f (access target length d) := by
  cases target with
  | none => exact hf.read length d
  | some offset =>
    simp only [access, hf.seek]
    rcases seek offset d with ⟨halt | _, e⟩
    · rfl
    · exact hf.read length e

theorem sample_map (hf : Morphism f) (target : Option UInt64) (length : UInt64) (d : δ) :
    sample target length (f d) = Prod.map id f (sample target length d) := by
  simp only [sample, sampled, hf.now, Prod.map, access_map hf]
  rcases access target length (Clock.now d).2 with ⟨(cause | abort) | got, e⟩
  · simp [hf.now]
  · rfl
  · simp [hf.now]

end Device

namespace Session

variable {δ ε ο π : Type}

def map (f : δ → ε) (g : ο → π) (s : Session δ ο) : Session ε π :=
  ⟨f s.device, g s.source, s.journal⟩

@[simp] theorem map_device (f : δ → ε) (g : ο → π) (s : Session δ ο) :
    (s.map f g).device = f s.device := rfl

@[simp] theorem map_source (f : δ → ε) (g : ο → π) (s : Session δ ο) :
    (s.map f g).source = g s.source := rfl

theorem map_noteShort (f : δ → ε) (g : ο → π) (p : Pattern) (target : Option UInt64)
    (sample : Sample) (s : Session δ ο) :
    (noteShort p target sample s).map f g = noteShort p target sample (s.map f g) := by
  unfold noteShort
  split <;> rfl

variable [Device δ] [Device ε] [OffsetSource ο] [OffsetSource π] {f : δ → ε} {g : ο → π}

omit [Device δ] [Device ε] in
theorem prepare_map (hg : OffsetSource.Morphism g) (p : Pattern) (limit : UInt64)
    (prs : List Pattern.Preparation) (start : Option UInt64) (source : ο) :
    prepare p limit prs start (g source) = Prod.map id g (prepare p limit prs start source) := by
  induction prs generalizing start source with
  | nil => rfl
  | cons pr prs ih =>
    cases pr with
    | start =>
      simp only [prepare, hg.draw]
      exact ih _ _
    | buffer =>
      unfold prepare
      split
      next => rfl
      next => exact ih start source
    | samples =>
      unfold prepare
      split
      next => rfl
      next => exact ih start source

omit [Device δ] [Device ε] in
theorem nextTarget_map (hg : OffsetSource.Morphism g) (limit : UInt64) (later : Placement)
    (start last : Option UInt64) (source : ο) :
    nextTarget limit later start last (g source) =
      Prod.map id g (nextTarget limit later start last source) := by
  have hdraw : drawTarget limit (g source) = Prod.map id g (drawTarget limit source) := by
    simp [drawTarget, hg.draw]
  cases last with
  | none =>
    cases start with
    | none => exact hdraw
    | some offset => rfl
  | some offset =>
    cases later with
    | redrawn => exact hdraw
    | spaced stride => rfl
    | contiguous => rfl

theorem readAll_map (hf : Device.Morphism f) (hg : OffsetSource.Morphism g) (p : Pattern)
    (limit : UInt64) (start : Option UInt64) (n : Nat) (last : Option UInt64)
    (samples : Array Sample) (s : Session δ ο) :
    readAll p limit start n last samples (s.map f g) =
      Prod.map id (map f g) (readAll p limit start n last samples s) := by
  induction n generalizing last samples s with
  | zero => rfl
  | succ n ih =>
    simp only [readAll, map_source, nextTarget_map hg]
    rcases nextTarget limit p.schedule.later start last s.source with ⟨abort | target, source⟩
    · rfl
    · simp only [Prod.map, id, map_device, Device.sample_map hf]
      rcases Device.sample target p.schedule.length s.device with ⟨halt | sample, device⟩
      · rfl
      · show readAll p limit start n (target.or last) (samples.push sample)
          (noteShort p target sample (({ s with device, source } : Session δ ο).map f g)) = _
        rw [← map_noteShort, ih]
        rfl

theorem run_map (hf : Device.Morphism f) (hg : OffsetSource.Morphism g) (p : Pattern)
    (s : Session δ ο) : (s.map f g).run p = Prod.map id (map f g) (s.run p) := by
  simp only [run, map_device, hf.size]
  rcases p.maxStart (Device.size s.device) with cause | limit
  · rfl
  · simp only [map_source, prepare_map hg]
    rcases prepare p limit p.preparations none s.source with ⟨abort | start, source⟩
    · rfl
    · exact readAll_map hf hg p limit start _ none #[] { s with source }

omit [OffsetSource ο] [OffsetSource π] in
theorem chill_map (hf : Device.Morphism f) (g : ο → π) (keepCold : Bool) (s : Session δ ο) :
    (s.map f g).chill keepCold = Prod.map id (map f g) (s.chill keepCold) := by
  cases keepCold with
  | false => rfl
  | true =>
    simp only [chill, map_device, hf.dropCache]
    rcases Device.dropCache s.device with ⟨cause | _, device⟩ <;> rfl

theorem repeated_map (hf : Device.Morphism f) (hg : OffsetSource.Morphism g)
    (planned : PlannedPattern) (n number : Nat) (keepCold : Bool) (samples : Array Sample)
    (s : Session δ ο) :
    (s.map f g).repeated planned n number keepCold samples =
      (s.repeated planned n number keepCold samples).map
        (Prod.map id (Prod.map id (map f g))) := by
  induction n generalizing number keepCold samples s with
  | zero => rfl
  | succ n ih =>
    simp only [repeated, chill_map hf g]
    rcases s.chill keepCold with ⟨keepCold', s⟩
    simp only [Prod.map, id, run_map hf hg]
    rcases s.run planned.pattern with ⟨(cause | abort) | more, s⟩
    · rfl
    · rfl
    · dsimp only
      cases Word.sum (more.toList.map fun sample => sample.nanos) with
      | error abort => rfl
      | ok total => exact ih (number + 1) keepCold' (samples ++ more) s

end Session

namespace RunState

variable {δ ε ο π : Type}

def map (f : δ → ε) (g : ο → π) (state : RunState δ ο) : RunState ε π :=
  ⟨state.session.map f g, state.keepCold, state.results, state.skipped⟩

@[simp] theorem map_session (f : δ → ε) (g : ο → π) (state : RunState δ ο) :
    (state.map f g).session = state.session.map f g := rfl

@[simp] theorem map_keepCold (f : δ → ε) (g : ο → π) (state : RunState δ ο) :
    (state.map f g).keepCold = state.keepCold := rfl

theorem skip_map (f : δ → ε) (g : ο → π) (kind : PatternKind) (cause : PatternError)
    (state : RunState δ ο) : (state.map f g).skip kind cause = (state.skip kind cause).map f g := by
  unfold skip
  split <;> rfl

theorem complete_map (f : δ → ε) (g : ο → π) (result : PatternResult) (state : RunState δ ο) :
    (state.map f g).complete result = (state.complete result).map (map f g) := by
  unfold complete
  split
  · rfl
  · split <;> rfl

variable [Device δ] [Device ε] [OffsetSource ο] [OffsetSource π] {f : δ → ε} {g : ο → π}

theorem step_map (hf : Device.Morphism f) (hg : OffsetSource.Morphism g)
    (iterations fileSize : UInt64) (planned : PlannedPattern) (state : RunState δ ο) :
    step iterations fileSize planned (state.map f g) =
      (step iterations fileSize planned state).map (map f g) := by
  simp only [step, map_session, map_keepCold, Session.repeated_map hf hg]
  rcases state.session.repeated planned iterations.toNat 1 state.keepCold #[] with
    abort | ⟨cause | samples, keepCold, session⟩
  · rfl
  · exact congrArg Except.ok (skip_map f g planned.kind cause { state with session, keepCold })
  · exact complete_map f g _ { state with session, keepCold }

theorem steps_map (hf : Device.Morphism f) (hg : OffsetSource.Morphism g)
    (iterations fileSize : UInt64) (plans : List PlannedPattern) (state : RunState δ ο) :
    steps iterations fileSize plans (state.map f g) =
      (steps iterations fileSize plans state).map (map f g) := by
  induction plans generalizing state with
  | nil => rfl
  | cons planned plans ih =>
    simp only [steps, step_map hf hg]
    rcases step iterations fileSize planned state with abort | state
    · rfl
    · exact ih state

end RunState

/-- A run on the image of a session is the image of the run, with the same report. -/
theorem Settings.run_map {δ ε ο π : Type} [Device δ] [Device ε] [OffsetSource ο] [OffsetSource π]
    {f : δ → ε} {g : ο → π} (hf : Device.Morphism f) (hg : OffsetSource.Morphism g) (c : Settings)
    (s : Session δ ο) :
    c.run (s.map f g) = (c.run s).map (Prod.map id (Session.map f g)) := by
  have hsteps := RunState.steps_map hf hg c.iterations (Device.size s.device) c.layout.suite
    ⟨s.note (.started PatternKind.all.length c.iterations (Device.size s.device)), c.noCache,
      #[], #[]⟩
  simp only [run, Session.map_device, hf.size]
  rw [show RunState.steps c.iterations (Device.size s.device) c.layout.suite
    ⟨(s.map f g).note _, c.noCache, #[], #[]⟩ = _ from hsteps]
  rcases RunState.steps c.iterations (Device.size s.device) c.layout.suite _ with abort | state
  · rfl
  · show (Comparison.ofResults c.groupSize c.divisor state.results.toList >>= _) =
      Except.map _ (Comparison.ofResults c.groupSize c.divisor state.results.toList >>= _)
    cases Comparison.ofResults c.groupSize c.divisor state.results.toList with
    | error abort => rfl
    | ok comparison => rfl

end ScanLatency
