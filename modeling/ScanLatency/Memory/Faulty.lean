import ScanLatency.Memory.Store

/-! A memory store whose calls can be made to fail. A fault names a kind of call and which call of
that kind it strikes, counted from one over the life of the store, failed calls included. A struck
call does nothing: it leaves no record and takes no time. -/
namespace ScanLatency

inductive Call
  | seek
  | read
  | drop
  deriving DecidableEq, Repr

/-- A planned failure; number zero strikes every call of its kind. -/
structure Fault where
  call : Call
  number : Nat
  cause : IoError
  deriving DecidableEq, Repr

/-- A store, its faults, and how many calls of each kind were made. It may report another size than
its data have, and the reads may take extra times in turn. -/
structure FaultyStore where
  store : MemoryStore
  faults : List Fault := []
  declared : Option UInt64 := none
  extraReadTimes : Array UInt64 := #[]
  /-- A store that drops nothing and never fails to. -/
  keepsCache : Bool := false
  seeks : Nat := 0
  reads : Nat := 0
  drops : Nat := 0

namespace FaultyStore

/-- The failure of the call with a number, if one is planned; the first in the list wins. -/
def failure (f : FaultyStore) (call : Call) (number : Nat) : Option IoError :=
  (f.faults.find? fun fault =>
    fault.call = call ∧ (fault.number = 0 ∨ fault.number = number)).map (·.cause)

/-- What the read with a number takes beyond the time of the store itself. -/
def extraReadTime (f : FaultyStore) (number : Nat) : UInt64 :=
  f.extraReadTimes.getD ((number - 1) % f.extraReadTimes.size) 0

def seek (offset : UInt64) (f : FaultyStore) : Except (Halt IoError) Unit × FaultyStore :=
  let number := f.seeks + 1
  let f' := { f with seeks := number }
  match f.failure .seek number with
  | some cause => (.error (.failed cause), f')
  | none =>
    match f.store.seek offset with
    | .error abort => (.error (.aborted abort), f')
    | .ok store => (.ok (), { f' with store })

/-- A read, which lets its extra time pass before it starts. -/
def read (wanted : UInt64) (f : FaultyStore) : Except (Halt IoError) UInt64 × FaultyStore :=
  let number := f.reads + 1
  let f' := { f with reads := number }
  match f.failure .read number with
  | some cause => (.error (.failed cause), f')
  | none =>
    match f.store.advance (f.extraReadTime number) with
    | .error abort => (.error (.aborted abort), f')
    | .ok waited =>
      match waited.skim wanted with
      | .error abort => (.error (.aborted abort), { f' with store := waited })
      | .ok (length, store) => (.ok length, { f' with store })

def dropCache (f : FaultyStore) : Except IoError Unit × FaultyStore :=
  if f.keepsCache then (.ok (), f)
  else
    let number := f.drops + 1
    match f.failure .drop number with
    | some cause => (.error cause, { f with drops := number })
    | none => (.ok (), { f with drops := number, store := f.store.dropCache })

instance : Device FaultyStore where
  now f := (f.store.clock.time, f)
  size f := f.declared.getD f.store.data.size
  seek := seek
  read := read
  dropCache := dropCache

end FaultyStore
end ScanLatency
