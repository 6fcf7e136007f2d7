import ScanLatency.Proofs.Accounting
import ScanLatency.Proofs.Observation

/-! Offsets do not depend on what is measured. Two runs that start from the same source, on devices
of one size that never fail, stay in step: whatever the reads yield, however long they take and
whether or not the cache is dropped, both draw and seek the same. -/
namespace ScanLatency

namespace Device

variable {δ ε : Type} [Device δ] [Device ε]

/-- A device of a fixed size whose seeks and reads never fail. How much a read yields, how long a
call takes and whether the cache can be dropped is left open. -/
structure Reliable (size : UInt64) (d : δ) : Prop where
  size_eq : ∀ {e}, Reaches d e → Device.size e = size
  avoids : Avoids (fun halt => !halt.isAborted) d

theorem Reliable.of_reaches {size : UInt64} {d e : δ} (h : Reliable size d)
    (hreach : Reaches d e) : Reliable size e where
  size_eq he := h.size_eq (hreach.trans he)
  avoids := h.avoids.of_reaches hreach

theorem Morphism.reaches {f : δ → ε} (hf : Morphism f) {d e : δ} (h : Reaches d e) :
    Reaches (f d) (f e) := by
  induction h with
  | refl => exact .refl
  | @now e _ ih =>
    have := ih.now
    rwa [hf.now] at this
  | seek offset _ ih =>
    have := ih.seek offset
    rwa [hf.seek] at this
  | read length _ ih =>
    have := ih.read length
    rwa [hf.read] at this
  | dropCache _ ih =>
    have := ih.dropCache
    rwa [hf.dropCache] at this

/-- A device is as reliable as its image. -/
theorem Reliable.of_map {f : δ → ε} (hf : Morphism f) {size : UInt64} {d : δ}
    (h : Reliable size (f d)) : Reliable size d where
  size_eq {e} he := by
    rw [← hf.size]
    exact h.size_eq (hf.reaches he)
  avoids := by
    intro e he
    obtain ⟨hseek, hread⟩ := h.avoids (f e) (hf.reaches he)
    refine ⟨?_, ?_⟩
    · intro offset halt heq
      exact hseek offset halt (by rw [hf.seek]; exact heq)
    · intro length halt heq
      exact hread length halt (by rw [hf.read]; exact heq)

end Device

namespace Session

variable {δ ε ο : Type} [Device δ] [Device ε] [OffsetSource ο] {size : UInt64}

/-- On a reliable device a pattern fails for its size only, and leaves the session alone. -/
theorem maxStart_of_run_failed {p : Pattern} {s s' : Session δ ο} {cause : PatternError}
    (hs : Device.Reliable size s.device) (h : s.run p = (.error (.failed cause), s')) :
    p.maxStart size = .error cause ∧ s' = s := by
  rcases stops_of_run h with ⟨cause', hcause, hhalt, hsame⟩ |
    ⟨_, _, ⟨_, _, _, hhalt, _⟩ | ⟨_, _, _, _, _, hreads, _, hstops⟩⟩
  · cases hhalt
    rw [hs.size_eq .refl] at hcause
    exact ⟨hcause, hsame⟩
  · cases hhalt
  · obtain ⟨e, target, _, hsample⟩ := hstops.io
    exact absurd rfl ((hs.of_reaches hreads.reaches).avoids.sample hsample)

/-- Two observed sessions with the same source and record of draws, and the same seeks so far, on
reliable devices of one size. -/
structure InStep (size : UInt64) (s : Session (Watched δ) (Logged ο))
    (t : Session (Watched ε) (Logged ο)) : Prop where
  source : s.source = t.source
  seeks : s.device.seeks = t.device.seeks
  left : Device.Reliable size s.device
  right : Device.Reliable size t.device

namespace InStep

variable {s s' : Session (Watched δ) (Logged ο)} {t t' : Session (Watched ε) (Logged ο)}

omit [OffsetSource ο] in
/-- What the journals say plays no part. -/
theorem journals (h : InStep size s t) (j j' : Array Event) :
    InStep size { s with journal := j } { t with journal := j' } :=
  ⟨h.source, h.seeks, h.left, h.right⟩

omit [OffsetSource ο] in
theorem seeks_chill (keepCold : Bool) (s : Session (Watched δ) (Logged ο)) :
    (s.chill keepCold).2.source = s.source ∧ (s.chill keepCold).2.device.seeks = s.device.seeks := by
  have hdrop := Watched.seeks_dropCache s.device
  unfold chill
  split
  next =>
    split
    all_goals
      next heq =>
        rw [heq] at hdrop
        exact ⟨rfl, hdrop⟩
  next => exact ⟨rfl, rfl⟩

omit [OffsetSource ο] in
/-- One of the two may drop its cache and the other not. -/
theorem chill (h : InStep size s t) (keepCold keepCold' : Bool) :
    InStep size (s.chill keepCold).2 (t.chill keepCold').2 := by
  obtain ⟨hsource, hseeks⟩ := seeks_chill keepCold s
  obtain ⟨hsource', hseeks'⟩ := seeks_chill keepCold' t
  exact ⟨by rw [hsource, hsource', h.source], by rw [hseeks, hseeks', h.seeks],
    h.left.of_reaches (reaches_chill keepCold s), h.right.of_reaches (reaches_chill keepCold' t)⟩

/-- Reads of one pattern find the same targets, whatever they yield. -/
theorem reads {p : Pattern} {limit : UInt64} {start last : Option UInt64} {as bs : List Read}
    (ha : Reads p limit start last s as s') (hb : Reads p limit start last t bs t')
    (hlength : as.length = bs.length) (h : InStep size s t) : InStep size s' t' := by
  induction ha generalizing t bs with
  | done =>
    cases hb with
    | done => exact h
    | read => cases hlength
  | @read last target sample source device rest s s' htarget hsample _ ih =>
    cases hb with
    | done => cases hlength
    | @read _ target' sample' source' device' rest' _ _ htarget' hsample' tail =>
      -- One source in one state gives one target; the samples are free to differ from here on.
      rw [h.source, htarget'] at htarget
      cases htarget
      apply ih tail (Nat.succ.inj hlength)
      have hseeks := Watched.seeks_sample target p.schedule.length s.device
      have hseeks' := Watched.seeks_sample target p.schedule.length t.device
      have hreach := Device.reaches_sample target p.schedule.length s.device
      have hreach' := Device.reaches_sample target p.schedule.length t.device
      rw [hsample] at hseeks hreach
      rw [hsample'] at hseeks' hreach'
      refine ⟨by simp, ?_, ?_, ?_⟩
      · rw [noteShort_device, noteShort_device, hseeks, hseeks', h.seeks]
      · rw [noteShort_device]
        exact h.left.of_reaches hreach
      · rw [noteShort_device]
        exact h.right.of_reaches hreach'

/-- A run of one pattern keeps the sessions in step, and fails in both or in neither, for the same
cause. -/
theorem run {p : Pattern} {x y : Except PatternError (Array Sample)} (h : InStep size s t)
    (hs : s.run p = (x.mapError .failed, s')) (ht : t.run p = (y.mapError .failed, t')) :
    InStep size s' t' ∧ x.map (fun _ => ()) = y.map (fun _ => ()) := by
  -- Both size checks see the same size, so that the runs are refused together or not at all.
  cases x with
  | error cause =>
    obtain ⟨hcause, rfl⟩ := maxStart_of_run_failed h.left hs
    cases y with
    | error cause' =>
      obtain ⟨hcause', rfl⟩ := maxStart_of_run_failed h.right ht
      rw [hcause] at hcause'
      cases hcause'
      exact ⟨h, rfl⟩
    | ok samples =>
      obtain ⟨limit, _, _, _, hlimit, _⟩ := reads_of_run ht
      rw [h.right.size_eq .refl, hcause] at hlimit
      cases hlimit
  | ok samples =>
    obtain ⟨limit, start, source, as, hlimit, hprepare, has, hlength, _⟩ := reads_of_run hs
    rw [h.left.size_eq .refl] at hlimit
    cases y with
    | error cause =>
      obtain ⟨hcause, rfl⟩ := maxStart_of_run_failed h.right ht
      rw [hlimit] at hcause
      cases hcause
    | ok samples' =>
      obtain ⟨limit', start', source', bs, hlimit', hprepare', hbs, hlength', _⟩ := reads_of_run ht
      rw [h.right.size_eq .refl, hlimit] at hlimit'
      cases hlimit'
      rw [h.source, hprepare'] at hprepare
      cases hprepare
      exact ⟨reads has hbs (by rw [hlength, hlength']) ⟨rfl, h.seeks, h.left, h.right⟩, rfl⟩

/-- All attempts at a pattern keep the sessions in step, and both fail or neither. -/
theorem repeats {planned : PlannedPattern} {n i j : ℕ} {k k' l l' : Bool}
    {as : List (Attempt (Watched δ) (Logged ο))} {bs : List (Attempt (Watched ε) (Logged ο))}
    (ha : Repeats planned n i k s as k' s') (hb : Repeats planned n j l t bs l' t')
    (h : InStep size s t) : InStep size s' t' ∧
      as.findSome? (·.failure?) = bs.findSome? (·.failure?) := by
  induction ha generalizing j l t bs with
  | done =>
    cases hb with
    | done => exact ⟨h, rfl⟩
  | kept made _ ih =>
    cases hb with
    | kept made' tail' =>
      obtain ⟨hnext, _⟩ := (h.chill _ _).run made made'
      obtain ⟨hlast, hfailure⟩ := ih tail' hnext
      exact ⟨hlast, by simpa [Attempt.failure?] using hfailure⟩
    | failed made' =>
      obtain ⟨_, houtcome⟩ := (h.chill _ _).run made made'
      cases houtcome
  | failed made =>
    cases hb with
    | kept made' _ =>
      obtain ⟨_, houtcome⟩ := (h.chill _ _).run made made'
      cases houtcome
    | failed made' =>
      obtain ⟨hnext, houtcome⟩ := (h.chill _ _).run made made'
      cases houtcome
      exact ⟨hnext.journals _ _, rfl⟩

/-- Whole courses keep the sessions in step and skip alike. -/
theorem course {n : ℕ} {plans : List PlannedPattern} {k l : Bool}
    {as : List (Stage (Watched δ) (Logged ο))} {bs : List (Stage (Watched ε) (Logged ο))}
    (ha : Course n plans k s as s') (hb : Course n plans l t bs t') (h : InStep size s t) :
    InStep size s' t' ∧ as.filterMap (·.skip?) = bs.filterMap (·.skip?) := by
  induction ha generalizing l t bs with
  | done =>
    cases hb with
    | done => exact ⟨h, rfl⟩
  | @stage planned _ _ _ attempts _ _ entries _ _ reps _ ih =>
    cases hb with
    | @stage _ _ _ _ attempts' _ _ entries' _ _ reps' tail' =>
      obtain ⟨hnext, hfailure⟩ := h.repeats reps reps'
      obtain ⟨hlast, hskips⟩ := ih tail' (hnext.journals _ _)
      have hskip : Stage.skip? ⟨planned, attempts, entries⟩ =
          Stage.skip? ⟨planned, attempts', entries'⟩ := congrArg (Option.map _) hfailure
      refine ⟨hlast, ?_⟩
      rw [List.filterMap_cons, List.filterMap_cons, hskip, hskips]

end InStep
end Session

/-- Two runs with the same layout and number of iterations, from sources in the same state, on
devices of one size that never fail, make the same draws and the same seeks and skip the same
patterns for the same causes. All the rest may differ: the bytes, how many of them each read yields,
clocks and latencies, the dropping of the cache and its failures. -/
theorem Settings.offsets_independent {δ ε ο : Type} [Device δ] [Device ε] [OffsetSource ο]
    {c d : Settings} (hgroup : c.groupSize = d.groupSize) (hscan : c.scanElements = d.scanElements)
    (hiterations : c.iterations = d.iterations) {size : UInt64} {s s' : Session δ ο}
    {t t' : Session ε ο} (hsource : s.source = t.source) (hs : Device.Reliable size s.device)
    (ht : Device.Reliable size t.device) {report report' : RunReport}
    (hrun : c.run s = .ok (report, s')) (hrun' : d.run t = .ok (report', t')) :
    ∃ w w', (c.run s.observed = .ok (report, w) ∧ w.plain = s') ∧
      (d.run t.observed = .ok (report', w') ∧ w'.plain = t') ∧
      w.source.draws = w'.source.draws ∧ w.device.seeks = w'.device.seeks ∧
      report.skipped = report'.skipped := by
  obtain ⟨w, hw, hplain⟩ := observed_of_run hrun
  obtain ⟨w', hw', hplain'⟩ := observed_of_run hrun'
  obtain ⟨stages, hcourse, _, hskipped⟩ := course_of_run hw
  obtain ⟨stages', hcourse', _, hskipped'⟩ := course_of_run hw'
  have hlayout : d.layout = c.layout := by rw [layout, layout, hgroup, hscan]
  rw [hlayout, ← hiterations] at hcourse'
  have hstart : Session.InStep size (c.opened s.observed) (d.opened t.observed) := by
    refine ⟨?_, rfl, hs.of_map Watched.morphism, ht.of_map Watched.morphism⟩
    exact congrArg (Logged.mk · #[]) hsource
  obtain ⟨hend, hskips⟩ := hstart.course hcourse hcourse'
  refine ⟨w, w', ⟨hw, hplain⟩, ⟨hw', hplain'⟩, ?_, hend.seeks, ?_⟩
  · rw [hend.source]
  · rw [hskipped, hskipped', hskips]

namespace MemoryStore

/-- Whatever is called, a store goes on only by recording an operation, with the clock and the position
moved. What that keeps is kept. -/
theorem kept_of_reaches (property : MemoryStore → Prop)
    (hkept : ∀ {m : MemoryStore} (clock : ManualClock) (position : UInt64) (op : Operation),
      property m → property (({ m with clock, position } : MemoryStore).record op))
    {m e : MemoryStore} (h : Device.Reaches m e) (hm : property m) : property e := by
  induction h with
  | refl => exact hm
  | now _ ih => exact ih
  | @seek e offset _ ih =>
    simp only [Device.seek]
    split
    next heq =>
      obtain ⟨_, _, rfl⟩ := seek_ok heq
      exact hkept _ _ _ ih
    next => exact ih
  | @read e length _ ih =>
    simp only [Device.read]
    split
    next heq =>
      obtain ⟨_, _, _, rfl⟩ := skim_ok heq
      exact hkept _ _ _ ih
    next => exact ih
  | dropCache _ ih => exact hkept _ _ _ ih

theorem data_of_reaches {m e : MemoryStore} (h : Device.Reaches m e) : e.data = m.data :=
  kept_of_reaches (·.data = m.data) (fun _ _ _ hm => hm) h rfl

theorem latency_of_reaches {m e : MemoryStore} (h : Device.Reaches m e) : e.latency = m.latency :=
  kept_of_reaches (·.latency = m.latency) (fun _ _ _ hm => hm) h rfl

/-- A store in memory is reliable, whatever its cap and its latencies. -/
theorem reliable (m : MemoryStore) : Device.Reliable m.data.size m where
  size_eq he := congrArg Bytes.size (data_of_reaches he)
  avoids := by
    intro e _
    simp only [Device.seek, Device.read]
    refine ⟨?_, ?_⟩
    · intro offset halt h
      split at h
      next => cases h
      next =>
        cases h
        nofun
    · intro length halt h
      split at h
      next => cases h
      next =>
        cases h
        nofun

end MemoryStore

namespace FaultyStore

/-- The planned faults strike nothing but drops of the cache. -/
def FailsDropsOnly (f : FaultyStore) : Prop := ∀ fault ∈ f.faults, fault.call = .drop

theorem FailsDropsOnly.failure_eq_none {f : FaultyStore} (h : f.FailsDropsOnly) {call : Call}
    (hcall : call ≠ .drop) (number : ℕ) : f.failure call number = none := by
  unfold failure
  rw [Option.map_eq_none_iff, List.find?_eq_none]
  intro fault hfault
  have hdrop := h fault hfault
  simp [hdrop, hcall.symm]

/-- What no call of a store changes: the plan of faults, and what its size depends on. -/
def SamePlan (e f : FaultyStore) : Prop :=
  e.faults = f.faults ∧ e.declared = f.declared ∧ e.store.data = f.store.data

theorem samePlan_of_reaches {f e : FaultyStore} (h : Device.Reaches f e) : e.SamePlan f := by
  induction h with
  | refl => exact ⟨rfl, rfl, rfl⟩
  | now _ ih => exact ih
  | @seek e offset _ ih =>
    simp only [Device.seek, seek]
    split
    next => exact ih
    next =>
      split
      next => exact ih
      next heq =>
        obtain ⟨_, _, rfl⟩ := MemoryStore.seek_ok heq
        exact ih
  | @read e length _ ih =>
    simp only [Device.read, read]
    split
    next => exact ih
    next =>
      split
      next => exact ih
      next heq =>
        obtain ⟨_, _, rfl⟩ := MemoryStore.advance_ok heq
        split
        next => exact ih
        next heq' =>
          obtain ⟨_, _, _, rfl⟩ := MemoryStore.skim_ok heq'
          exact ih
  | @dropCache e _ ih =>
    simp only [Device.dropCache, dropCache]
    split
    next => exact ih
    next => split <;> exact ih

/-- A store with no faults but of drops is reliable. -/
theorem FailsDropsOnly.reliable {f : FaultyStore} (h : f.FailsDropsOnly) :
    Device.Reliable (Device.size f) f where
  size_eq he := by
    obtain ⟨_, hdeclared, hdata⟩ := samePlan_of_reaches he
    simp only [Device.size, hdeclared, hdata]
  avoids := by
    intro e he
    have hplan : e.FailsDropsOnly := by
      unfold FailsDropsOnly
      rw [(samePlan_of_reaches he).1]
      exact h
    simp only [Device.seek, Device.read, seek, read, hplan.failure_eq_none (nofun : Call.seek ≠ .drop),
      hplan.failure_eq_none (nofun : Call.read ≠ .drop)]
    refine ⟨?_, ?_⟩
    · intro offset halt heq
      split at heq
      next =>
        cases heq
        nofun
      next => cases heq
    · intro length halt heq
      split at heq
      next =>
        cases heq
        nofun
      next =>
        split at heq
        next =>
          cases heq
          nofun
        next => cases heq

end FaultyStore

/-- One device yields little at a time and is slow, the other fails to drop its cache. -/
theorem Settings.offsets_independent_capped :
    let c : Settings := { path := "a", groupSize := 1, scanElements := 524288 }
    let d : Settings := { path := "b", groupSize := 1, scanElements := 524288, noCache := true }
    let s : Session MemoryStore ScriptedOffsets :=
      ⟨{ data := .counting 2097252, maxRead := some 1000, latency := ⟨5, 10⟩ }, ⟨#[7, 9000], 0⟩, #[]⟩
    let t : Session FaultyStore ScriptedOffsets :=
      ⟨{ store := .ofBytes (.tiled ⟨#[1, 2]⟩ 2097252), faults := [⟨.drop, 2, .interrupted⟩] },
        ⟨#[7, 9000], 0⟩, #[]⟩
    Device.Reliable 2097252 s.device ∧ Device.Reliable 2097252 t.device ∧
      ∃ report report' s' t' w w', c.run s = .ok (report, s') ∧ d.run t = .ok (report', t') ∧
        (c.run s.observed = .ok (report, w) ∧ w.plain = s') ∧
        (d.run t.observed = .ok (report', w') ∧ w'.plain = t') ∧
        w.source.draws = w'.source.draws ∧ w.device.seeks = w'.device.seeks ∧
        report.skipped = report'.skipped ∧ w.device.seeks = [7, 100, 7, 100, 7] := by
  intro c d s t
  have hs : Device.Reliable 2097252 s.device := MemoryStore.reliable s.device
  have ht : Device.Reliable 2097252 t.device :=
    FaultyStore.FailsDropsOnly.reliable (f := t.device) (by simp [FaultyStore.FailsDropsOnly, t])
  have hseeks : (c.run s.observed).map (·.2.device.seeks) = .ok [7, 100, 7, 100, 7] := by
    decide +kernel
  have hend : (d.run t).map (·.1.skipped) = .ok [] := by decide +kernel
  have hplain := run_plain c s.observed
  rw [Session.plain_observed] at hplain
  cases hw : c.run s.observed with
  | error abort =>
    rw [hw] at hseeks
    cases hseeks
  | ok outcome =>
    cases hd : d.run t with
    | error abort =>
      rw [hd] at hend
      cases hend
    | ok outcome' =>
      obtain ⟨report, left⟩ := outcome
      rw [hw] at hplain hseeks
      have hc : c.run s = .ok (report, left.plain) := hplain
      obtain ⟨w, w', ⟨hwatched, hleft⟩, hright, hdraws, hsame, hskipped⟩ :=
        offsets_independent (c := c) (d := d) (s := s) (t := t) rfl rfl rfl rfl hs ht hc hd
      rw [hw] at hwatched
      cases hwatched
      exact ⟨hs, ht, _, _, _, _, _, w', hc, rfl, ⟨rfl, hleft⟩, hright, hdraws, hsame, hskipped,
        Except.ok.inj hseeks⟩

end ScanLatency
