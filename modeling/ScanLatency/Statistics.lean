import ScanLatency.Number.Binary64
import ScanLatency.Word

/-! Descriptive statistics of durations. Sums and ranks are exact words; means and quotients are
rounded binary numbers, in microseconds except for the total. -/
namespace ScanLatency
open Number

/-- The summary of one list of durations. -/
structure Statistics where
  count : Nat
  meanUs : Binary64
  medianUs : Binary64
  minUs : Binary64
  maxUs : Binary64
  p95Us : Binary64
  totalMs : Binary64
  totalNs : UInt64
  deriving DecidableEq

namespace Statistics

def nsToUs (ns : Binary64) : Binary64 := ns / 1000

def ofWord (w : UInt64) : Binary64 := .ofNat w.toNat

/-- The rank that a percentage asks for among `n` samples, from 1. -/
def rank (p : Binary64) (n : Nat) : Int := (p / 100 * .ofNat n).ceilWord

/-- The nearest-rank percentile of a list in ascending order: the entry at the rank, held within
the list. Nothing is below the smallest rank that a word can hold. -/
def percentile (sorted : Array UInt64) (p : Binary64) : Except Abort UInt64 :=
  match sorted.size with
  | 0 => .ok 0
  | 1 => .ok (sorted.getD 0 0)
  | n =>
    if rank p n = Binary64.leastWord then .error .subtractionOverflow
    else .ok (sorted.getD (min (rank p n - 1).toNat (n - 1)) 0)

def ascending (durations : List UInt64) : Array UInt64 :=
  (durations.mergeSort fun a b => a ≤ b).toArray

/-- The middle entry, or the mean of the two middle entries. -/
def median (sorted : Array UInt64) : Binary64 :=
  let middle := sorted.size / 2
  if sorted.size % 2 = 1 then ofWord (sorted.getD middle 0)
  else (ofWord (sorted.getD (middle - 1) 0) + ofWord (sorted.getD middle 0)) / 2

/-- The statistics of a list of durations in nanoseconds; none for the empty list. The sum of all
durations has to fit a word. -/
def ofDurations (durations : List UInt64) : Except Abort (Option Statistics) :=
  if durations.isEmpty then .ok none
  else do
    let total ← Word.sum durations
    let sorted := ascending durations
    let p95 ← percentile sorted 95
    return some {
      count := durations.length
      meanUs := nsToUs (ofWord total / .ofNat durations.length)
      medianUs := nsToUs (median sorted)
      minUs := nsToUs (ofWord (sorted.getD 0 0))
      maxUs := nsToUs (ofWord (sorted.getD (sorted.size - 1) 0))
      p95Us := nsToUs (ofWord p95)
      totalMs := ofWord total / 1000000
      totalNs := total }

end Statistics
end ScanLatency
