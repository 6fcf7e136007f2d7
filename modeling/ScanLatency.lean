import ScanLatency.Main
import ScanLatency.Memory.Faulty
import ScanLatency.Proofs.Accounting
import ScanLatency.Proofs.Answered
import ScanLatency.Proofs.Begun
import ScanLatency.Proofs.CacheDrops
import ScanLatency.Proofs.Charges
import ScanLatency.Proofs.Coldness
import ScanLatency.Proofs.Completion
import ScanLatency.Proofs.Conservation
import ScanLatency.Proofs.Consistency
import ScanLatency.Proofs.Containment
import ScanLatency.Proofs.Costs
import ScanLatency.Proofs.Course
import ScanLatency.Proofs.Coverage
import ScanLatency.Proofs.Deadline
import ScanLatency.Proofs.Decoration
import ScanLatency.Proofs.DrawSequence
import ScanLatency.Proofs.ExitCode
import ScanLatency.Proofs.FailStop
import ScanLatency.Proofs.Interchange
import ScanLatency.Proofs.Lockstep
import ScanLatency.Proofs.Magnitude
import ScanLatency.Proofs.Morphism
import ScanLatency.Proofs.Naming
import ScanLatency.Proofs.NearestRank
import ScanLatency.Proofs.NinetyFifth
import ScanLatency.Proofs.Numeral
import ScanLatency.Proofs.Observation
import ScanLatency.Proofs.OffsetIndependence
import ScanLatency.Proofs.OffsetRange
import ScanLatency.Proofs.Order
import ScanLatency.Proofs.Overlap
import ScanLatency.Proofs.Percentile
import ScanLatency.Proofs.PercentileOrder
import ScanLatency.Proofs.Quantity
import ScanLatency.Proofs.QuantityOrder
import ScanLatency.Proofs.Reads
import ScanLatency.Proofs.Rearrangement
import ScanLatency.Proofs.Refusal
import ScanLatency.Proofs.Room
import ScanLatency.Proofs.SampleCount
import ScanLatency.Proofs.SampleMemory
import ScanLatency.Proofs.Script
import ScanLatency.Proofs.ShortReads
import ScanLatency.Proofs.Sizing
import ScanLatency.Proofs.Spacing
import ScanLatency.Proofs.Steadiness
import ScanLatency.Proofs.StoreHistory
import ScanLatency.Proofs.Summary
import ScanLatency.Proofs.Tellings
import ScanLatency.Proofs.Totals
import ScanLatency.Proofs.Unsigned
import ScanLatency.Proofs.Untouched
import ScanLatency.Proofs.Verdict
