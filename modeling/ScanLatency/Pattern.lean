import ScanLatency.IoError
import ScanLatency.Word

/-! The access patterns of a benchmark: how many reads, how long, and where each one goes. A
pattern states the bytes that it must be able to address before it touches the file; a file that
is too small is refused, never read in part. -/
namespace ScanLatency

/-- One strategy of reading. -/
inductive Pattern
  /-- Independent reads, each at a random offset. -/
  | randomSeeks (count blockSize : UInt64)
  /-- One read at a random offset and `jumps` further ones, `stride` bytes apart. -/
  | strideSeeks (jumps stride blockSize : UInt64)
  /-- One contiguous read. -/
  | sequentialLarge (totalBytes : UInt64)
  /-- One seek, then `n` reads one after the other. -/
  | groupedScan (n scanSize : UInt64)
  /-- `n` independent reads without shared locality. -/
  | singlesScan (n scanSize : UInt64)
  deriving DecidableEq, Repr

/-- Why a pattern gave no samples. The name is the one under which the pattern runs. -/
inductive PatternError
  | sizing (pattern : String) (required fileSize : UInt64)
  | spanOverflow (pattern : String)
  | io (pattern : String) (cause : IoError)
  deriving DecidableEq, Repr

namespace PatternError

def message : PatternError → String
  | .sizing pattern required fileSize =>
    s!"file too small for {pattern} (need >= {required} bytes, have {fileSize})"
  | .spanOverflow pattern => s!"byte span of {pattern} overflows"
  | .io pattern cause => s!"I/O error during {pattern}: {cause.message}"

/-- Whether the pattern does not fit the file, as opposed to a failed operation. -/
def isSizing : PatternError → Bool
  | .sizing .. | .spanOverflow .. => true
  | .io .. => false

end PatternError

/-- Where a read after the first one goes. -/
inductive Placement
  /-- To a fresh random offset. -/
  | redrawn
  /-- A fixed distance after the offset of the read before it. -/
  | spaced (stride : UInt64)
  /-- To where the read before it ended, without a seek. -/
  | contiguous
  deriving DecidableEq, Repr

/-- The reads of a pattern: the first goes to a random offset, the later ones as stated. -/
structure Schedule where
  reads : Nat
  length : UInt64
  later : Placement
  deriving DecidableEq, Repr

namespace Pattern

def schedule : Pattern → Schedule
  | .randomSeeks count blockSize => ⟨count.toNat, blockSize, .redrawn⟩
  | .strideSeeks jumps stride blockSize => ⟨jumps.toNat + 1, blockSize, .spaced stride⟩
  | .sequentialLarge totalBytes => ⟨1, totalBytes, .contiguous⟩
  | .groupedScan n scanSize => ⟨n.toNat, scanSize, .contiguous⟩
  | .singlesScan n scanSize => ⟨n.toNat, scanSize, .redrawn⟩

def name : Pattern → String
  | .randomSeeks .. => "random seeks"
  | .strideSeeks .. => "stride pattern"
  | .sequentialLarge .. => "sequential read"
  | .groupedScan .. => "grouped sequential read"
  | .singlesScan .. => "singles scan"

/-- The name under which the pattern runs, in errors and notices. A singles scan runs as random
seeks. -/
def runName : Pattern → String
  | .singlesScan .. => "random seeks"
  | p => p.name

/-- The parameters as they are shown, sorted by name. -/
def parameters : Pattern → List (String × String)
  | .randomSeeks count blockSize =>
    [("block_size", s!"{blockSize}B"), ("count", toString count)]
  | .strideSeeks jumps stride blockSize =>
    [("block_size", s!"{blockSize}B"), ("jumps", toString jumps), ("stride", s!"{stride}B")]
  | .sequentialLarge totalBytes => [("total_bytes", s!"{totalBytes}B")]
  | .groupedScan n scanSize | .singlesScan n scanSize =>
    [("n", toString n), ("scan_size", s!"{scanSize}B")]

/-- Bytes that the pattern must be able to address, `none` if they do not fit a word. Independent
reads need room for one read only. -/
def requiredSpan : Pattern → Option UInt64
  | .randomSeeks _ blockSize => some blockSize
  | .strideSeeks jumps stride blockSize =>
    (Word.checkedMul jumps stride).bind fun jumped => Word.checkedAdd jumped blockSize
  | .sequentialLarge totalBytes => some totalBytes
  | .groupedScan n scanSize => Word.checkedMul n scanSize
  | .singlesScan _ scanSize => some scanSize

def expectedSamples : Pattern → Except Abort UInt64
  | .randomSeeks count _ => .ok count
  | .strideSeeks jumps _ _ =>
    match Word.checkedAdd jumps 1 with
    | some count => .ok count
    | none => .error .additionOverflow
  | .sequentialLarge _ => .ok 1
  | .groupedScan n _ | .singlesScan n _ => .ok n

/-- The last offset at which the pattern may start in a file of the given size. -/
def maxStart (p : Pattern) (fileSize : UInt64) : Except PatternError UInt64 :=
  match p.requiredSpan with
  | none => .error (.spanOverflow p.runName)
  | some required =>
    match Word.checkedSub fileSize required with
    | some limit => .ok limit
    | none => .error (.sizing p.runName required fileSize)

/-- Bytes that one sample occupies in memory. -/
abbrev sampleSize : Nat := 24

/-- What a pattern does before its first read. -/
inductive Preparation
  /-- Draws the offset of the first read. -/
  | start
  /-- Sets memory aside for one read. -/
  | buffer
  /-- Sets memory aside for every sample. -/
  | samples
  deriving DecidableEq, Repr

/-- The preparations of a pattern, in order. Where every read has an offset of its own, none is
drawn ahead of its read; a grouped scan without reads draws nothing at all. -/
def preparations : Pattern → List Preparation
  | .randomSeeks .. | .singlesScan .. => [.buffer, .samples]
  | .strideSeeks .. | .sequentialLarge _ => [.start, .buffer, .samples]
  | .groupedScan 0 _ => [.samples]
  | .groupedScan .. => [.samples, .start, .buffer]

def reserveBuffer (p : Pattern) : Except Abort Unit := reserve p.schedule.length.toNat

def reserveSamples (p : Pattern) : Except Abort Unit :=
  match p.expectedSamples with
  | .error abort => .error abort
  | .ok count => reserve (count.toNat * sampleSize)

theorem expectedSamples_eq_reads {p : Pattern} {count : UInt64} (h : p.expectedSamples = .ok count) :
    count.toNat = p.schedule.reads := by
  cases p with
  | strideSeeks jumps stride blockSize =>
    unfold expectedSamples at h
    simp only at h
    split at h
    next c hc =>
      cases h
      exact Word.toNat_of_ofNat? hc
    next => cases h
  | _ => cases h; rfl

example : (strideSeeks 3 100 10).requiredSpan = some 310 := by decide
example : (strideSeeks 2 18446744073709551615 1).requiredSpan = none := by decide

end Pattern
end ScanLatency
