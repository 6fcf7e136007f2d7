import Mathlib.Data.List.Nodup
import ScanLatency.Proofs.Course

/-! What a report accounts for. Every kind has one stage in the course of its run; the stage ends
either in the result of the kind, with all samples of all its attempts, or in a skip with the first
failure, and never in both. -/
namespace ScanLatency

/-- Every pattern of a suite has a number of samples. -/
theorem Layout.expectedSamples_suite (l : Layout) :
    ∀ planned ∈ l.suite, ∃ count, planned.pattern.expectedSamples = .ok count := by
  have hjumps : ∃ count, (Pattern.strideSeeks (l.jumpsAcrossGroups - 1) l.jumpDistance
      l.scanBytes).expectedSamples = .ok count := by
    have hpos := l.one_le_jumpsAcrossGroups
    have hlt : l.jumpsAcrossGroups.toNat < wordCount := UInt64.toNat_lt _
    have hone : (1 : UInt64) ≤ l.jumpsAcrossGroups := UInt64.le_iff_toNat_le.2 hpos
    have hsum : Word.checkedAdd (l.jumpsAcrossGroups - 1) 1 = some l.jumpsAcrossGroups := by
      apply Word.ofNat?_eq_some_iff.2
      rw [UInt64.toNat_sub_of_le _ _ hone]
      exact (Nat.sub_add_cancel hpos).symm
    exact ⟨l.jumpsAcrossGroups, by simp [Pattern.expectedSamples, hsum]⟩
  simp only [suite, List.forall_mem_cons]
  exact ⟨⟨_, rfl⟩, ⟨_, rfl⟩, hjumps, ⟨_, rfl⟩, ⟨_, rfl⟩, List.forall_mem_nil _⟩

namespace Session

variable {δ ο : Type} [Device δ] [OffsetSource ο]

/-- A completed run of a pattern gives one sample for each of its reads. -/
theorem size_of_run {p : Pattern} {samples : Array Sample} {s s' : Session δ ο}
    (h : s.run p = (.ok samples, s')) : samples.size = p.schedule.reads := by
  obtain ⟨_, _, _, reads, _, _, _, hlength, hall⟩ := reads_of_run h
  rw [← Array.length_toList, hall, List.length_map, hlength]

/-- Repetitions without a failure give their samples times the reads of the pattern. -/
theorem Repeats.length_samples {planned : PlannedPattern} {n number : ℕ}
    {keepCold keepCold' : Bool} {attempts : List (Attempt δ ο)} {s s' : Session δ ο}
    (h : Repeats planned n number keepCold s attempts keepCold' s')
    (hnone : attempts.findSome? (·.failure?) = none) :
    (attempts.flatMap (·.samples)).length = n * planned.pattern.schedule.reads := by
  induction h with
  | done => simp
  | @kept _ _ _ _ samples _ _ _ _ made _ ih =>
    have hsize : samples.size = planned.pattern.schedule.reads := size_of_run made
    have hrest := ih (by simpa [Attempt.failure?] using hnone)
    rw [List.flatMap_cons, List.length_append, hrest, Nat.succ_mul, Nat.add_comm]
    simpa [Attempt.samples] using hsize
  | failed => cases hnone

namespace Course

variable {iterations : ℕ} {plans : List PlannedPattern} {keepCold : Bool}
  {stages : List (Stage δ ο)} {s s' : Session δ ο}

theorem map_planned (h : Course iterations plans keepCold s stages s') :
    stages.map (·.planned) = plans := by
  induction h with
  | done => rfl
  | stage _ _ ih => exact congrArg (_ :: ·) ih

/-- Each stage of a run repeats its own pattern. -/
theorem repeats_of_mem (h : Course iterations plans keepCold s stages s') :
    ∀ st ∈ stages, ∃ keepCold found keepCold' left,
      Repeats st.planned iterations 1 keepCold found st.attempts keepCold' left := by
  induction h with
  | done => nofun
  | stage repeats _ ih => exact List.forall_mem_cons.2 ⟨⟨_, _, _, _, repeats⟩, ih⟩

end Course
end Session

namespace Stage

variable {δ ο : Type}

theorem result_eq_some {fileSize : UInt64} {st : Stage δ ο} {r : PatternResult}
    (h : st.result? fileSize = some r) : st.failure? = none ∧
      r = (PatternResult.ofPlanned st.planned fileSize).extend st.samples.toArray := by
  unfold result? at h
  split at h
  next hnone =>
    cases h
    exact ⟨hnone, rfl⟩
  next => cases h

theorem kind_of_result {fileSize : UInt64} {st : Stage δ ο} {r : PatternResult}
    (h : st.result? fileSize = some r) : r.kind = st.planned.kind := by
  rw [(result_eq_some h).2]
  rfl

theorem skip_eq_some_iff {st : Stage δ ο} {cause : PatternError} :
    st.skip? = some ⟨st.planned.kind, cause⟩ ↔ st.failure? = some cause := by
  unfold skip?
  cases st.failure? <;> simp

theorem kind_of_skip {st : Stage δ ο} {sk : SkippedPattern} (h : st.skip? = some sk) :
    sk.kind = st.planned.kind := by
  obtain ⟨cause, _, rfl⟩ := Option.map_eq_some_iff.1 h
  rfl

/-- What some stages give, in order, has their kinds in the same order. -/
theorem kinds_sublist {α : Type} {f : Stage δ ο → Option α} {kind : α → PatternKind}
    (hkind : ∀ {st a}, f st = some a → kind a = st.planned.kind) (stages : List (Stage δ ο)) :
    ((stages.filterMap f).map kind).Sublist (stages.map (·.planned.kind)) := by
  induction stages with
  | nil => exact .slnil
  | cons st stages ih =>
    cases hst : f st with
    | none => simpa [hst] using ih.cons _
    | some a => simpa [hst, hkind hst] using ih

/-- Where no two stages share a kind, a stage gives exactly what is listed under its kind. -/
theorem mem_filterMap_iff {α : Type} {f : Stage δ ο → Option α} {kind : α → PatternKind}
    (hkind : ∀ {st a}, f st = some a → kind a = st.planned.kind) {stages : List (Stage δ ο)}
    (hnodup : (stages.map (·.planned.kind)).Nodup) {st : Stage δ ο} (hst : st ∈ stages) (a : α) :
    a ∈ stages.filterMap f ∧ kind a = st.planned.kind ↔ f st = some a := by
  constructor
  · rintro ⟨ha, hsame⟩
    obtain ⟨st', hst', hf⟩ := List.mem_filterMap.1 ha
    have heq : st' = st := List.inj_on_of_nodup_map hnodup hst' hst (by rw [← hkind hf, hsame])
    rwa [heq] at hf
  · intro hf
    exact ⟨List.mem_filterMap.2 ⟨st, hst, hf⟩, hkind hf⟩

end Stage

/-- What a report of a run owes to the stages of the run. -/
structure RunReport.Accounts {δ ο : Type} (c : Settings) (stages : List (Stage δ ο))
    (report : RunReport) : Prop where
  /-- Each pattern of the suite has its stage, in order. -/
  staged : stages.map (·.planned) = c.layout.suite
  /-- A stage goes on to its last repetition unless an attempt fails. -/
  attempted : ∀ st ∈ stages, st.attempts.length ≤ c.iterations.toNat ∧
    ((∀ a ∈ st.attempts, ∃ samples, a.outcome = .ok samples) →
      st.attempts.length = c.iterations.toNat)
  /-- Nothing is attempted after a failure. -/
  stopped : ∀ st ∈ stages, ∀ a ∈ st.attempts.dropLast, ∃ samples, a.outcome = .ok samples
  exactly_one : ∀ kind, kind ∈ report.results.map (·.kind) ↔ kind ∉ report.skipped.map (·.kind)
  results_in_order : (report.results.map (·.kind)).Sublist PatternKind.all
  skipped_in_order : (report.skipped.map (·.kind)).Sublist PatternKind.all
  /-- A kind is skipped for a cause just when an attempt at it failed with that cause. -/
  skipped_iff : ∀ st ∈ stages, ∀ cause,
    ⟨st.planned.kind, cause⟩ ∈ report.skipped ↔ ∃ a ∈ st.attempts, a.outcome = .error cause
  /-- A result holds the samples of all attempts, one after the other. -/
  result_eq : ∀ st ∈ stages, ∀ r ∈ report.results, r.kind = st.planned.kind →
    r = (PatternResult.ofPlanned st.planned report.fileSize).extend st.samples.toArray
  /-- The number of samples is exact; not even a product of words is lost. -/
  sampleCount_eq : ∀ st ∈ stages, ∀ r ∈ report.results, r.kind = st.planned.kind →
    ∃ count, st.planned.pattern.expectedSamples = .ok count ∧
      r.sampleCount = c.iterations.toNat * count.toNat

namespace Settings

variable {δ ο : Type} [Device δ] [OffsetSource ο]

/-- The session in which the first stage of a run begins. -/
def opened (c : Settings) (s : Session δ ο) : Session δ ο :=
  s.note (.started PatternKind.all.length c.iterations (Device.size s.device))

/-- A run that returns has gone through all steps and compared what they gave. -/
theorem run_ok_iff {c : Settings} {s s' : Session δ ο} {report : RunReport} :
    c.run s = .ok (report, s') ↔ ∃ state comparison,
      RunState.steps c.iterations (Device.size s.device) c.layout.suite
        ⟨c.opened s, c.noCache, #[], #[]⟩ = .ok state ∧
      Comparison.ofResults c.groupSize c.divisor state.results.toList = .ok comparison ∧
      report = {
        fileSize := Device.size s.device
        layout := c.layout
        results := state.results.toList
        skipped := state.skipped.toList
        comparison } ∧
      s' = state.session := by
  unfold run
  simp only [bind_eq_ok_iff, pure, Except.pure, Except.ok.injEq, Prod.mk.injEq]
  constructor
  · rintro ⟨state, hsteps, comparison, hcomparison, hreport, hsession⟩
    exact ⟨state, comparison, hsteps, hcomparison, hreport.symm, hsession.symm⟩
  · rintro ⟨state, comparison, hsteps, hcomparison, hreport, hsession⟩
    exact ⟨state, hsteps, comparison, hcomparison, hreport.symm, hsession.symm⟩

/-- A report lists the results and the skips of the stages that led to it. -/
theorem course_of_run {c : Settings} {s s' : Session δ ο} {report : RunReport}
    (h : c.run s = .ok (report, s')) :
    ∃ stages, Session.Course c.iterations.toNat c.layout.suite c.noCache (c.opened s) stages s' ∧
      report.results = stages.filterMap (·.result? report.fileSize) ∧
      report.skipped = stages.filterMap (·.skip?) := by
  obtain ⟨state, comparison, hsteps, _, rfl, rfl⟩ := run_ok_iff.1 h
  obtain ⟨stages, hcourse, hresults, hskipped⟩ := RunState.course_of_steps hsteps
  exact ⟨stages, hcourse, by simpa using hresults, by simpa using hskipped⟩

/-- The stages of a run account for its report. -/
theorem accounts_of_course {c : Settings} {s s' : Session δ ο} {stages : List (Stage δ ο)}
    {report : RunReport}
    (hcourse : Session.Course c.iterations.toNat c.layout.suite c.noCache s stages s')
    (hresults : report.results = stages.filterMap (·.result? report.fileSize))
    (hskipped : report.skipped = stages.filterMap (·.skip?)) : report.Accounts c stages := by
  have hplanned := hcourse.map_planned
  have hrepeats := hcourse.repeats_of_mem
  have hkinds : stages.map (·.planned.kind) = PatternKind.all := by
    rw [← c.layout.map_kind_suite, ← hplanned, List.map_map]
    rfl
  have hnodup : (stages.map (·.planned.kind)).Nodup := hkinds ▸ PatternKind.nodup_all
  -- Kinds do not repeat, so that what the report lists under a kind comes from one stage.
  have result_iff {st : Stage δ ο} (hst : st ∈ stages) (r : PatternResult) :
      r ∈ report.results ∧ r.kind = st.planned.kind ↔ st.result? report.fileSize = some r :=
    hresults ▸ Stage.mem_filterMap_iff Stage.kind_of_result hnodup hst r
  have skip_iff {st : Stage δ ο} (hst : st ∈ stages) (sk : SkippedPattern) :
      sk ∈ report.skipped ∧ sk.kind = st.planned.kind ↔ st.skip? = some sk :=
    hskipped ▸ Stage.mem_filterMap_iff Stage.kind_of_skip hnodup hst sk
  exact {
    staged := hplanned
    attempted := by
      intro st hst
      obtain ⟨_, _, _, _, hrep⟩ := hrepeats st hst
      exact ⟨hrep.length_le, hrep.length_eq⟩
    stopped := by
      intro st hst
      obtain ⟨_, _, _, _, hrep⟩ := hrepeats st hst
      exact hrep.kept_dropLast
    exactly_one := by
      intro kind
      obtain ⟨st, hst, rfl⟩ := List.mem_map.1 (hkinds ▸ kind.mem_all)
      simp only [List.mem_map, result_iff hst, skip_iff hst, Stage.result?, Stage.skip?]
      cases st.failure? <;> simp
    results_in_order := by
      rw [hresults, ← hkinds]
      exact Stage.kinds_sublist Stage.kind_of_result stages
    skipped_in_order := by
      rw [hskipped, ← hkinds]
      exact Stage.kinds_sublist Stage.kind_of_skip stages
    skipped_iff := by
      intro st hst cause
      obtain ⟨_, _, _, _, hrep⟩ := hrepeats st hst
      have hskip := skip_iff hst ⟨st.planned.kind, cause⟩
      rw [and_iff_left rfl] at hskip
      rw [hskip, Stage.skip_eq_some_iff]
      exact hrep.failure_eq_some_iff cause
    result_eq := by
      intro st hst r hr hkind
      exact (Stage.result_eq_some ((result_iff hst r).1 ⟨hr, hkind⟩)).2
    sampleCount_eq := by
      intro st hst r hr hkind
      obtain ⟨hnone, rfl⟩ := Stage.result_eq_some ((result_iff hst r).1 ⟨hr, hkind⟩)
      obtain ⟨_, _, _, _, hrep⟩ := hrepeats st hst
      obtain ⟨count, hcount⟩ := c.layout.expectedSamples_suite st.planned
        (hplanned ▸ List.mem_map_of_mem hst)
      refine ⟨count, hcount, ?_⟩
      rw [Pattern.expectedSamples_eq_reads hcount, ← hrep.length_samples hnone]
      simp [PatternResult.sampleCount, PatternResult.extend, PatternResult.ofPlanned,
        Stage.samples] }

end Settings
end ScanLatency
