import Mathlib.Tactic.Ring
import ScanLatency.Offsets

/-! Sources keep to the maximum that they are asked for. A scripted source does so by lowering its
offsets. A seeded source scales a random fraction of two words: whether it draws the second word or
not, its offset is the fraction times the number of results, rounded down. -/
namespace ScanLatency

namespace ScriptedOffsets

theorem draw_le (max : UInt64) (s : ScriptedOffsets) : (s.draw max).1 ≤ max := by
  unfold draw
  split
  next => exact UInt64.le_iff_toNat_le.2 (Nat.zero_le _)
  next offset _ =>
    show (if _ then _ else _ : UInt64) ≤ max
    split
    next h => exact h
    next => exact UInt64.le_refl max

instance : LawfulOffsetSource ScriptedOffsets := ⟨draw_le⟩

end ScriptedOffsets

namespace ChaCha.Stream

/-- The random fraction that a draw can see of a stream, in `2^128`ths: the next word, and behind it
the word after that. -/
def fraction (stream : Stream) : Nat :=
  stream.next.1.toNat * wordCount + stream.next.2.next.1.toNat

theorem fraction_lt (stream : Stream) : stream.fraction < wordCount * wordCount := by
  have hword := UInt64.toNat_lt stream.next.1
  have hfurther := UInt64.toNat_lt stream.next.2.next.1
  unfold fraction wordCount
  omega

end ChaCha.Stream

namespace SeededOffsets

theorem toNat_highProduct (a b : UInt64) :
    (highProduct a b).toNat = a.toNat * b.toNat / wordCount := by
  have ha : a.toNat < wordCount := UInt64.toNat_lt a
  have hb : b.toNat < wordCount := UInt64.toNat_lt b
  exact UInt64.toNat_ofNat_of_lt (Nat.div_lt_of_lt_mul (Nat.mul_lt_mul'' ha hb))

/-- High and low word together are the exact product. -/
theorem highProduct_add_low (a b : UInt64) :
    (highProduct a b).toNat * wordCount + (a * b).toNat = a.toNat * b.toNat := by
  rw [toNat_highProduct, UInt64.toNat_mul, Nat.mul_comm]
  exact Nat.div_add_mod _ _

theorem highProduct_lt {a b : UInt64} (hb : 0 < b.toNat) : (highProduct a b).toNat < b.toNat := by
  rw [toNat_highProduct]
  exact Nat.div_lt_of_lt_mul (Nat.mul_lt_mul_of_pos_right (UInt64.toNat_lt a) hb)

/-- The fraction scaled and rounded down: the high word of the first product, and one more just if
the low word of the first and the high word of the second carry. -/
theorem fraction_mul_div (stream : ChaCha.Stream) (range : UInt64) :
    stream.fraction * range.toNat / (wordCount * wordCount) =
      (highProduct stream.next.1 range).toNat +
        ((stream.next.1 * range).toNat + (highProduct stream.next.2.next.1 range).toNat) /
          wordCount := by
  have hfirst := highProduct_add_low stream.next.1 range
  have hsecond := toNat_highProduct stream.next.2.next.1 range
  have hpos : 0 < wordCount := by decide
  calc stream.fraction * range.toNat / (wordCount * wordCount)
      = (stream.next.2.next.1.toNat * range.toNat +
          stream.next.1.toNat * range.toNat * wordCount) / wordCount / wordCount := by
        rw [Nat.div_div_eq_div_mul]
        congr 1
        unfold ChaCha.Stream.fraction
        ring
    _ = ((stream.next.1 * range).toNat + (highProduct stream.next.2.next.1 range).toNat +
          (highProduct stream.next.1 range).toNat * wordCount) / wordCount := by
        rw [Nat.add_mul_div_right _ _ hpos, ← hsecond, ← hfirst]
        congr 1
        omega
    _ = _ := by rw [Nat.add_mul_div_right _ _ hpos, Nat.add_comm]

/-- A draw is the fraction times the number of results, rounded down. The second word is left out
only where it cannot carry. -/
theorem toNat_uniform (max : UInt64) (stream : ChaCha.Stream) :
    (uniform max stream).1.toNat = stream.fraction * (max.toNat + 1) / (wordCount * wordCount) := by
  have hmax := UInt64.toNat_lt max
  have hrange := UInt64.toNat_add max 1
  rw [UInt64.toNat_one] at hrange
  unfold uniform
  simp only
  split
  next hzero =>
    -- The range wraps around to zero only for the largest word; the first word is then the result.
    rw [hzero, UInt64.toNat_zero] at hrange
    have hfull : max.toNat + 1 = wordCount := by
      unfold wordCount
      omega
    have hfurther := UInt64.toNat_lt stream.next.2.next.1
    rw [hfull, Nat.mul_div_mul_right _ _ (by decide)]
    unfold ChaCha.Stream.fraction wordCount
    simp only
    omega
  next hzero =>
    have hpos : 0 < (max + 1).toNat := Word.toNat_pos hzero
    have heq : max.toNat + 1 = (max + 1).toNat := by omega
    have hhigh := highProduct_lt (a := stream.next.1) hpos
    have hcarry := highProduct_lt (a := stream.next.2.next.1) hpos
    have hlow := UInt64.toNat_lt (stream.next.1 * (max + 1))
    have hbelow := UInt64.toNat_lt (max + 1)
    rw [heq, fraction_mul_div]
    unfold wordCount
    split
    next => simp only; omega
    next =>
      simp only
      split
      next =>
        rw [UInt64.toNat_add, UInt64.toNat_one]
        omega
      next => omega

theorem uniform_le (max : UInt64) (stream : ChaCha.Stream) : (uniform max stream).1 ≤ max := by
  rw [UInt64.le_iff_toNat_le, toNat_uniform]
  have hlt : stream.fraction * (max.toNat + 1) < wordCount * wordCount * (max.toNat + 1) :=
    Nat.mul_lt_mul_of_pos_right stream.fraction_lt (Nat.succ_pos _)
  exact Nat.le_of_lt_succ (Nat.div_lt_of_lt_mul hlt)

theorem draw_le (max : UInt64) (s : SeededOffsets) : (s.draw max).1 ≤ max := uniform_le max s.stream

instance : LawfulOffsetSource SeededOffsets := ⟨draw_le⟩

end SeededOffsets
end ScanLatency
