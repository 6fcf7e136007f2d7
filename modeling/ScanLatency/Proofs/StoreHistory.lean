import Mathlib.Data.Nat.Notation
import ScanLatency.Memory.Store

/-! The whole history of a store in memory. Whatever it is asked for, in whatever order, and however
its cap and its latencies change in between, each call finds the position where the log says that it
stands, and gives exactly the bytes there. Only the clock can refuse a call, and then nothing has
happened. -/
namespace ScanLatency

/-- A call of a store in memory: an operation, for a read with the buffer that it is to fill, or a
setting that later calls meet. -/
inductive StoreCall
  | seek (offset : UInt64)
  | read (buffer : Array UInt8)
  | dropCache
  | capReads (cap : Option UInt64)
  | setLatency (latency : Latency)

/-- What a call leaves with whoever made it. -/
inductive Reply
  | done
  | filled (count : UInt64) (buffer : Array UInt8)
  deriving DecidableEq

namespace StoreCall

/-- The buffer of a read has a size that a word can count. -/
def Addressable : StoreCall → Prop
  | .read buffer => buffer.size < wordCount
  | _ => True

instance : DecidablePred Addressable
  | .read buffer => inferInstanceAs (Decidable (buffer.size < wordCount))
  | .seek _ | .dropCache | .capReads _ | .setLatency _ => .isTrue trivial

def duration (latency : Latency) : StoreCall → ℕ
  | .seek _ => latency.seek.toNat
  | .read _ => latency.read.toNat
  | _ => 0

def capAfter (cap : Option UInt64) : StoreCall → Option UInt64
  | .capReads cap => cap
  | _ => cap

def latencyAfter (latency : Latency) : StoreCall → Latency
  | .setLatency latency => latency
  | _ => latency

/-- What the call enters in the log, when it finds the store at a position. -/
def entry (position : UInt64) : StoreCall → Reply → Option Operation
  | .seek offset, _ => some (.seek offset)
  | .read _, .filled count _ => some (.read position count)
  | .dropCache, _ => some .dropCache
  | _, _ => none

end StoreCall

/-- What calls add to the clock one after the other, from given latencies on. -/
def totalElapsed : Latency → List StoreCall → ℕ
  | _, [] => 0
  | latency, call :: calls =>
    call.duration latency + totalElapsed (call.latencyAfter latency) calls

namespace MemoryStore

/-- Makes one call. A call that the clock refuses leaves the store as it was. -/
def serve (m : MemoryStore) : StoreCall → Except Abort Reply × MemoryStore
  | .seek offset =>
    match m.seek offset with
    | .ok m => (.ok .done, m)
    | .error abort => (.error abort, m)
  | .read buffer =>
    match m.readInto buffer with
    | .ok (count, buffer, m) => (.ok (.filled count buffer), m)
    | .error abort => (.error abort, m)
  | .dropCache => (.ok .done, m.dropCache)
  | .capReads cap => (.ok .done, { m with maxRead := cap })
  | .setLatency latency => (.ok .done, { m with latency })

end MemoryStore

/-- A call with the store that it found, its outcome, and the store that it left. -/
structure Exchange where
  found : MemoryStore
  call : StoreCall
  outcome : Except Abort Reply
  left : MemoryStore

def Exchange.logged? (x : Exchange) : Option Operation :=
  match x.outcome with
  | .ok reply => x.call.entry x.found.position reply
  | .error _ => none

def MemoryStore.history : List StoreCall → MemoryStore → List Exchange × MemoryStore
  | [], m => ([], m)
  | call :: calls, m =>
    let (outcome, left) := m.serve call
    let (exchanges, last) := left.history calls
    (⟨m, call, outcome, left⟩ :: exchanges, last)

/-- Each exchange finds the store that the one before it has left. -/
def Exchange.Chained : MemoryStore → List Exchange → MemoryStore → Prop
  | start, [], last => last = start
  | start, x :: exchanges, last => x.found = start ∧ Chained x.left exchanges last

/-- A read from a position fills a buffer with `count` bytes: as many as the buffer takes, the data
have left and the cap allows. They are the bytes from the position on, at the start of the buffer,
and the others stay. -/
structure Bytes.Fills (data : Bytes) (cap : Option UInt64) (position : ℕ)
    (buffer filled : Array UInt8) (count : ℕ) : Prop where
  count_eq : count = MemoryStore.capped cap (min buffer.size (data.size.toNat - position))
  within_buffer : count ≤ buffer.size
  within_data : min position data.size.toNat + count ≤ data.size.toNat
  size_eq : filled.size = buffer.size
  front : ∀ i < count, filled[i]? = some (data.get (position + i))
  rest : ∀ i, count ≤ i → filled[i]? = buffer[i]?

/-- What a call that is served does: its reply and where it leaves the position, in exact numbers. -/
def StoreCall.Moves (found left : MemoryStore) : StoreCall → Reply → Prop
  | .seek offset, reply => reply = .done ∧ left.position = offset
  | .read buffer, reply => ∃ count filled, reply = .filled count filled ∧
      found.data.Fills found.maxRead found.position.toNat buffer filled count.toNat ∧
      left.position.toNat = found.position.toNat + count.toNat
  | _, reply => reply = .done ∧ left.position = found.position

/-- An exchange in which the call is served. Data, cap, latencies, clock and log change as the call
says and in no other way. -/
structure Exchange.Served (x : Exchange) (reply : Reply) : Prop where
  outcome_eq : x.outcome = .ok reply
  moves : x.call.Moves x.found x.left reply
  data_eq : x.left.data = x.found.data
  maxRead_eq : x.left.maxRead = x.call.capAfter x.found.maxRead
  latency_eq : x.left.latency = x.call.latencyAfter x.found.latency
  time_eq : x.left.clock.time.toNat = x.found.clock.time.toNat + x.call.duration x.found.latency
  log_eq : x.left.operations.toList =
    x.found.operations.toList ++ (x.call.entry x.found.position reply).toList

/-- An exchange as it has to be: the call is served if the clock can show its end. Otherwise it aborts
and nothing has happened. -/
def Exchange.Faithful (x : Exchange) : Prop :=
  if x.found.clock.time.toNat + x.call.duration x.found.latency < wordCount then
    ∃ reply, x.Served reply
  else x.outcome = .error .additionOverflow ∧ x.left = x.found

namespace MemoryStore

/-- What a read gives fits the buffer and the data, and the buffer is filled with it. -/
theorem fills_yield (m : MemoryStore) {buffer : Array UInt8} (h : buffer.size < wordCount) :
    let count := m.yield (UInt64.ofNat buffer.size)
    m.data.Fills m.maxRead m.position.toNat buffer (m.data.fill m.position count buffer)
      count.toNat := by
  intro count
  have hcount : count.toNat =
      capped m.maxRead (min buffer.size (m.data.size.toNat - m.position.toNat)) := by
    have hsize : (UInt64.ofNat buffer.size).toNat = buffer.size := UInt64.toNat_ofNat_of_lt h
    rw [m.toNat_yield, hsize]
  have hcapped := capped_le m.maxRead (min buffer.size (m.data.size.toNat - m.position.toNat))
  refine
    { count_eq := hcount
      within_buffer := by omega
      within_data := by omega
      size_eq := m.data.size_fill _ _ _
      front := fun i hi => ?_
      rest := fun i hi => ?_ }
  · rw [Bytes.getElem?_fill, if_pos ⟨by omega, hi⟩]
  · rw [Bytes.getElem?_fill, if_neg (by omega)]

end MemoryStore

theorem Exchange.Served.faithful {x : Exchange} {reply : Reply} (h : x.Served reply)
    (hfits : x.found.clock.time.toNat + x.call.duration x.found.latency < wordCount) :
    x.Faithful := by
  rw [Faithful, if_pos hfits]
  exact ⟨reply, h⟩

namespace MemoryStore

def exchange (m : MemoryStore) (call : StoreCall) : Exchange :=
  ⟨m, call, (m.serve call).1, (m.serve call).2⟩

theorem exchange_of_serve {m left : MemoryStore} {call : StoreCall} {outcome : Except Abort Reply}
    (h : m.serve call = (outcome, left)) : m.exchange call = ⟨m, call, outcome, left⟩ := by
  rw [exchange, h]

/-- A call that first lets its time pass: it is refused where the clock cannot show its end, and it
remains to say what it does where the clock can. -/
theorem faithful_timed {m : MemoryStore} {call : StoreCall} {nanos : UInt64}
    (hduration : call.duration m.latency = nanos.toNat)
    (hrefused : m.clock.advance nanos = .error .additionOverflow →
      m.serve call = (.error .additionOverflow, m))
    (hserved : ∀ clock, m.clock.advance nanos = .ok clock → ∃ reply, (m.exchange call).Served reply) :
    (m.exchange call).Faithful := by
  rw [Exchange.Faithful]
  split
  next hfits =>
    change m.clock.time.toNat + call.duration m.latency < wordCount at hfits
    rw [hduration] at hfits
    obtain ⟨clock, hclock⟩ := ManualClock.advance_of_lt hfits
    exact hserved clock hclock
  next hlate =>
    change ¬m.clock.time.toNat + call.duration m.latency < wordCount at hlate
    rw [hduration] at hlate
    rw [exchange_of_serve (hrefused (ManualClock.advance_of_le (Nat.not_lt.1 hlate)))]
    exact ⟨rfl, rfl⟩

theorem faithful_seek (m : MemoryStore) (offset : UInt64) : (m.exchange (.seek offset)).Faithful := by
  refine faithful_timed rfl (fun hclock => ?refused) fun clock hclock => ⟨.done, ?served⟩
  case refused => simp only [serve, seek, advance, hclock]
  case served =>
    let left := ({ m with clock, position := offset } : MemoryStore).record (.seek offset)
    have hserve : m.serve (.seek offset) = (.ok .done, left) := by
      simp only [serve, seek, advance, hclock, left]
    rw [exchange_of_serve hserve]
    exact
      { outcome_eq := rfl
        moves := ⟨rfl, rfl⟩
        data_eq := rfl
        maxRead_eq := rfl
        latency_eq := rfl
        time_eq := ManualClock.toNat_time_advance hclock
        log_eq := Array.toList_push }

theorem faithful_read (m : MemoryStore) {buffer : Array UInt8} (h : buffer.size < wordCount) :
    (m.exchange (.read buffer)).Faithful := by
  let count := m.yield (UInt64.ofNat buffer.size)
  let filled := m.data.fill m.position count buffer
  refine faithful_timed rfl (fun hclock => ?refused) fun clock hclock =>
    ⟨.filled count filled, ?served⟩
  case refused => simp only [serve, readInto, skim, advance, hclock]
  case served =>
    let left := ({ m with clock, position := m.position + count } : MemoryStore).record
      (.read m.position count)
    have hserve : m.serve (.read buffer) = (.ok (.filled count filled), left) := by
      simp only [serve, readInto, skim, advance, hclock]
      rfl
    rw [exchange_of_serve hserve]
    exact
      { outcome_eq := rfl
        moves := ⟨count, filled, rfl, m.fills_yield h, m.toNat_position_add_yield _⟩
        data_eq := rfl
        maxRead_eq := rfl
        latency_eq := rfl
        time_eq := ManualClock.toNat_time_advance hclock
        log_eq := Array.toList_push }

/-- Every call is met as it has to be. One that takes no time is always served. -/
theorem faithful_exchange (m : MemoryStore) {call : StoreCall} (h : call.Addressable) :
    (m.exchange call).Faithful := by
  have htime : m.clock.time.toNat + 0 < wordCount := UInt64.toNat_lt _
  have hkept : m.operations.toList = m.operations.toList ++ [] := (List.append_nil _).symm
  cases call with
  | seek offset => exact m.faithful_seek offset
  | read buffer => exact m.faithful_read h
  | dropCache =>
    have hserved : (m.exchange .dropCache).Served .done :=
      ⟨rfl, ⟨rfl, rfl⟩, rfl, rfl, rfl, rfl, Array.toList_push⟩
    exact hserved.faithful htime
  | capReads cap =>
    have hserved : (m.exchange (.capReads cap)).Served .done :=
      ⟨rfl, ⟨rfl, rfl⟩, rfl, rfl, rfl, rfl, hkept⟩
    exact hserved.faithful htime
  | setLatency latency =>
    have hserved : (m.exchange (.setLatency latency)).Served .done :=
      ⟨rfl, ⟨rfl, rfl⟩, rfl, rfl, rfl, rfl, hkept⟩
    exact hserved.faithful htime

end MemoryStore

namespace Operation

/-- Where an operation leaves the position, if it moves it. -/
def leaves : Operation → Option ℕ
  | .seek offset => some offset.toNat
  | .read offset length => some (offset.toNat + length.toNat)
  | .dropCache => none

/-- Where a log leaves the position: at the target of its last seek or the end of its last read,
whichever came later, and at zero before both. -/
def standing (log : List Operation) : ℕ := (log.filterMap leaves).getLast?.getD 0

theorem standing_concat (log : List Operation) (op : Operation) :
    standing (log ++ [op]) = op.leaves.getD (standing log) := by
  unfold standing
  cases h : op.leaves <;> simp [List.filterMap_append, h]

/-- Each read of a log starts where the operations before it leave the position. -/
def ReadsPlaced (log : List Operation) : Prop :=
  ∀ earlier offset length later, log = earlier ++ .read offset length :: later →
    offset.toNat = standing earlier

theorem ReadsPlaced.concat {log : List Operation} {op : Operation} (h : ReadsPlaced log)
    (hop : ∀ offset length, op = .read offset length → offset.toNat = standing log) :
    ReadsPlaced (log ++ [op]) := by
  intro earlier offset length later heq
  rcases later.eq_nil_or_concat with rfl | ⟨later, last, rfl⟩
  · obtain ⟨rfl, hlast⟩ := List.append_inj' heq rfl
    exact hop offset length (List.singleton_inj.1 hlast)
  · rw [List.concat_eq_append, ← List.cons_append, ← List.append_assoc] at heq
    obtain ⟨hlog, -⟩ := List.append_inj' heq rfl
    exact h earlier offset length later hlog

end Operation

/-- The position of a store is where its log leaves it, and so it was at every read. -/
structure MemoryStore.Settled (m : MemoryStore) : Prop where
  position_eq : m.position.toNat = Operation.standing m.operations.toList
  placed : Operation.ReadsPlaced m.operations.toList

namespace MemoryStore.Settled

variable {m m' : MemoryStore}

/-- An operation that is entered, with the position that it finds if it is a read, and moves the
position as it says. -/
theorem entered (h : m.Settled) (op : Operation)
    (hlog : m'.operations.toList = m.operations.toList ++ [op])
    (hposition : m'.position.toNat = op.leaves.getD m.position.toNat)
    (hread : ∀ offset length, op = .read offset length → offset = m.position) : m'.Settled := by
  refine ⟨?_, ?_⟩
  · rw [hposition, h.position_eq, hlog, Operation.standing_concat]
  · rw [hlog]
    refine h.placed.concat fun offset length hop => ?_
    rw [hread offset length hop]
    exact h.position_eq

theorem unmoved (h : m.Settled) (hlog : m'.operations.toList = m.operations.toList)
    (hposition : m'.position = m.position) : m'.Settled := by
  refine ⟨?_, ?_⟩
  · rw [hposition, hlog, h.position_eq]
  · rw [hlog]
    exact h.placed

end MemoryStore.Settled

namespace Exchange

theorem Served.settled {x : Exchange} {reply : Reply} (h : x.Served reply)
    (hfound : x.found.Settled) : x.left.Settled := by
  obtain ⟨found, call, outcome, left⟩ := x
  have hlog := h.log_eq
  cases call with
  | seek offset =>
    obtain ⟨-, hposition⟩ := h.moves
    exact hfound.entered (.seek offset) hlog (congrArg UInt64.toNat hposition) nofun
  | read buffer =>
    obtain ⟨count, filled, rfl, -, hposition⟩ := h.moves
    refine hfound.entered (.read found.position count) hlog hposition ?_
    rintro _ _ ⟨⟩
    rfl
  | dropCache =>
    obtain ⟨-, hposition⟩ := h.moves
    exact hfound.entered .dropCache hlog (congrArg UInt64.toNat hposition) nofun
  | capReads cap =>
    obtain ⟨-, hposition⟩ := h.moves
    exact hfound.unmoved (hlog.trans (List.append_nil _)) hposition
  | setLatency latency =>
    obtain ⟨-, hposition⟩ := h.moves
    exact hfound.unmoved (hlog.trans (List.append_nil _)) hposition

namespace Faithful

variable {x : Exchange}

/-- An exchange is one in which the call is served, or one in which nothing has happened. -/
theorem served_or_refused (h : x.Faithful) :
    (x.found.clock.time.toNat + x.call.duration x.found.latency < wordCount ∧
        ∃ reply, x.Served reply) ∨
      (wordCount ≤ x.found.clock.time.toNat + x.call.duration x.found.latency ∧
        x.outcome = .error .additionOverflow ∧ x.left = x.found) := by
  unfold Faithful at h
  split at h
  next hfits => exact .inl ⟨hfits, h⟩
  next hfits => exact .inr ⟨Nat.not_lt.1 hfits, h⟩

theorem settled (h : x.Faithful) (hfound : x.found.Settled) : x.left.Settled := by
  rcases h.served_or_refused with ⟨-, _, hserved⟩ | ⟨-, -, hleft⟩
  · exact hserved.settled hfound
  · rwa [hleft]

theorem data_eq (h : x.Faithful) : x.left.data = x.found.data := by
  rcases h.served_or_refused with ⟨-, _, hserved⟩ | ⟨-, -, hleft⟩
  · exact hserved.data_eq
  · rw [hleft]

theorem log_eq (h : x.Faithful) :
    x.left.operations.toList = x.found.operations.toList ++ x.logged?.toList := by
  rcases h.served_or_refused with ⟨-, _, hserved⟩ | ⟨-, houtcome, hleft⟩
  · rw [logged?, hserved.outcome_eq]
    exact hserved.log_eq
  · rw [logged?, houtcome, hleft]
    exact (List.append_nil _).symm

end Faithful
end Exchange

/-- What a history makes of a store: each call is met as it has to be, by the same data throughout.
The log has one entry for each operation that was served, in their order. -/
structure Chronicle (start : MemoryStore) (calls : List StoreCall) (exchanges : List Exchange)
    (last : MemoryStore) : Prop where
  calls_eq : exchanges.map (·.call) = calls
  chained : Exchange.Chained start exchanges last
  faithful : ∀ x ∈ exchanges, x.Faithful
  found_data : ∀ x ∈ exchanges, x.found.data = start.data
  found_settled : ∀ x ∈ exchanges, x.found.Settled
  last_data : last.data = start.data
  last_settled : last.Settled
  log_eq : last.operations.toList = start.operations.toList ++ exchanges.filterMap (·.logged?)
  /-- No call aborts as long as the clock can show the end of the last one. -/
  returned_iff : (∀ x ∈ exchanges, ∃ reply, x.outcome = .ok reply) ↔
    start.clock.time.toNat + totalElapsed start.latency calls < wordCount

namespace Chronicle

theorem nil {m : MemoryStore} (hm : m.Settled) : Chronicle m [] [] m where
  calls_eq := rfl
  chained := rfl
  faithful := List.forall_mem_nil _
  found_data := List.forall_mem_nil _
  found_settled := List.forall_mem_nil _
  last_data := rfl
  last_settled := hm
  log_eq := (List.append_nil _).symm
  returned_iff := by
    rw [totalElapsed, Nat.add_zero]
    exact iff_of_true (List.forall_mem_nil _) (UInt64.toNat_lt _)

variable {x : Exchange} {calls : List StoreCall} {exchanges : List Exchange} {last : MemoryStore}

/-- If the first call is refused, its end is already too late, and so is that of the last call. -/
theorem returned_iff_cons (hx : x.Faithful) (h : Chronicle x.left calls exchanges last) :
    (∀ y ∈ x :: exchanges, ∃ reply, y.outcome = .ok reply) ↔
      x.found.clock.time.toNat + totalElapsed x.found.latency (x.call :: calls) < wordCount := by
  rw [List.forall_mem_cons, totalElapsed, ← Nat.add_assoc]
  rcases hx.served_or_refused with ⟨-, reply, hserved⟩ | ⟨hlate, houtcome, -⟩
  · rw [h.returned_iff, hserved.time_eq, hserved.latency_eq]
    exact and_iff_right ⟨reply, hserved.outcome_eq⟩
  · rw [houtcome]
    refine iff_of_false ?_ (by omega)
    rintro ⟨⟨reply, hreply⟩, -⟩
    cases hreply

theorem cons (hx : x.Faithful) (hfound : x.found.Settled)
    (h : Chronicle x.left calls exchanges last) :
    Chronicle x.found (x.call :: calls) (x :: exchanges) last where
  calls_eq := by rw [List.map_cons, h.calls_eq]
  chained := ⟨rfl, h.chained⟩
  faithful := List.forall_mem_cons.2 ⟨hx, h.faithful⟩
  found_data := List.forall_mem_cons.2 ⟨rfl, fun y hy => (h.found_data y hy).trans hx.data_eq⟩
  found_settled := List.forall_mem_cons.2 ⟨hfound, h.found_settled⟩
  last_data := h.last_data.trans hx.data_eq
  last_settled := h.last_settled
  log_eq := by
    rw [h.log_eq, hx.log_eq, List.append_assoc]
    cases hlogged : x.logged? <;> simp [hlogged]
  returned_iff := returned_iff_cons hx h

end Chronicle

namespace MemoryStore

theorem chronicle_history {m : MemoryStore} (hm : m.Settled) {calls : List StoreCall}
    (hcalls : ∀ call ∈ calls, call.Addressable) :
    Chronicle m calls (m.history calls).1 (m.history calls).2 := by
  induction calls generalizing m with
  | nil => exact .nil hm
  | cons call calls ih =>
    obtain ⟨hcall, hcalls⟩ := List.forall_mem_cons.1 hcalls
    have hfirst := m.faithful_exchange hcall
    exact .cons hfirst hm (ih (hfirst.settled hm) hcalls)

theorem settled_new (data : Bytes) (maxRead : Option UInt64) (latency : Latency)
    (clock : ManualClock) : Settled { data, maxRead, latency, clock } where
  position_eq := rfl
  placed := by
    rintro (_ | _) _ _ _ ⟨⟩

/-- A new store is faithful to its data through every history. -/
theorem history_faithful (data : Bytes) (maxRead : Option UInt64) (latency : Latency)
    (clock : ManualClock) {calls : List StoreCall} (hcalls : ∀ call ∈ calls, call.Addressable) :
    let start : MemoryStore := { data, maxRead, latency, clock }
    Chronicle start calls (start.history calls).1 (start.history calls).2 := by
  intro start
  exact chronicle_history (settled_new data maxRead latency clock) hcalls

/-- Reads across the end of the data and far beyond it, a smaller cap in between, and a seek that the
clock cannot show the end of. -/
theorem history_faithful_late_seek :
    let start : MemoryStore :=
      { data := .counting 10, latency := ⟨5, 7⟩, clock := ⟨18446744073709551586⟩ }
    let calls : List StoreCall :=
      [.seek 8, .read #[238, 238, 238], .seek 18446744073709551615, .read #[238], .dropCache,
        .setLatency ⟨6, 0⟩, .seek 0, .setLatency ⟨0, 0⟩, .capReads (some 1), .seek 3,
        .read #[238, 238]]
    (∀ call ∈ calls, call.Addressable) ∧
      Chronicle start calls (start.history calls).1 (start.history calls).2 ∧
      (start.history calls).2.operations.toList =
        [.seek 8, .read 8 2, .seek 18446744073709551615, .read 18446744073709551615 0, .dropCache,
          .seek 3, .read 3 1] ∧
      (start.history calls).2.position = 4 ∧
      ¬∀ x ∈ (start.history calls).1, ∃ reply, x.outcome = .ok reply := by
  intro start calls
  have hcalls : ∀ call ∈ calls, call.Addressable := by decide
  have hchronicle : Chronicle start calls (start.history calls).1 (start.history calls).2 :=
    history_faithful (.counting 10) none ⟨5, 7⟩ ⟨18446744073709551586⟩ hcalls
  refine ⟨hcalls, hchronicle, by decide +kernel, by decide +kernel, ?_⟩
  rw [hchronicle.returned_iff]
  decide

/-- Two slow seeks are more than a clock can show: not every history returns. -/
theorem not_forall_history_returns :
    ¬∀ (data : Bytes) (maxRead : Option UInt64) (latency : Latency) (calls : List StoreCall),
      (∀ call ∈ calls, call.Addressable) →
        ∀ x ∈ (({ data, maxRead, latency } : MemoryStore).history calls).1,
          ∃ reply, x.outcome = .ok reply := by
  intro h
  have hcalls : ∀ call ∈ [StoreCall.seek 3, .seek 4], call.Addressable := by decide
  have hreturns := h (.counting 10) none ⟨9223372036854775808, 0⟩ _ hcalls
  rw [(chronicle_history (settled_new _ _ _ _) hcalls).returned_iff] at hreturns
  exact absurd hreturns (by decide)

end MemoryStore
end ScanLatency
