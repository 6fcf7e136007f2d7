import ScanLatency.Proofs.NearestRank
import ScanLatency.Proofs.Order

/-! Percentiles as a function of the percentage. A larger percentage never has a smaller rank, and
an ascending array never has a smaller entry at a larger rank, so percentiles rise from the first
entry at zero to the last one at a hundred. Every percentage asks for an entry of the array, also
those that are none; only where the rank is the least word is there no rank below it to take the
entry of. -/
namespace ScanLatency

/-! ### Entries of an ascending array -/

section Entries

variable {sorted : Array UInt64} {i j : ℕ}

theorem getD_mem (h : i < sorted.size) : sorted.getD i 0 ∈ sorted := by
  rw [Array.getD, dif_pos h]
  exact Array.getElem_mem h

theorem exists_getD_eq {x : UInt64} (hx : x ∈ sorted) : ∃ i < sorted.size, sorted.getD i 0 = x := by
  obtain ⟨i, hi, hentry⟩ := Array.getElem_of_mem hx
  exact ⟨i, hi, by rw [Array.getD, dif_pos hi]; exact hentry⟩

/-- Entries of an ascending array are in the order of their positions. -/
theorem getD_mono (hsorted : sorted.toList.Pairwise (· ≤ ·)) (hij : i ≤ j) (hj : j < sorted.size) :
    sorted.getD i 0 ≤ sorted.getD j 0 := by
  rcases Nat.eq_or_lt_of_le hij with rfl | hlt
  · exact UInt64.le_refl _
  · rw [Array.getD, Array.getD, dif_pos (hlt.trans hj), dif_pos hj]
    exact List.pairwise_iff_getElem.1 hsorted i j _ _ hlt

theorem getD_zero_le (hsorted : sorted.toList.Pairwise (· ≤ ·)) {x : UInt64} (hx : x ∈ sorted) :
    sorted.getD 0 0 ≤ x := by
  obtain ⟨i, hi, rfl⟩ := exists_getD_eq hx
  exact getD_mono hsorted (Nat.zero_le i) hi

theorem le_getD_last (hsorted : sorted.toList.Pairwise (· ≤ ·)) {x : UInt64} (hx : x ∈ sorted) :
    x ≤ sorted.getD (sorted.size - 1) 0 := by
  obtain ⟨i, hi, rfl⟩ := exists_getD_eq hx
  exact getD_mono hsorted (by omega) (by omega)

end Entries

namespace Statistics
open Number

variable {sorted : Array UInt64} {p q : Binary64} {n : ℕ}

/-! ### Ranks -/

theorem hundredth_mono (h : p ≤ q) : p / 100 ≤ q / 100 :=
  Binary64.div_le_div isInfinite_hundred val_hundred_ne_zero h

/-- A larger percentage never has a smaller rank. -/
theorem rank_mono (hn : 0 < n) (h : p ≤ q) : rank p n ≤ rank q n :=
  Binary64.ceilWord_mul_mono (Magnitude.val_ofNat_ne_zero hn) (hundredth_mono h)

theorem rank_zero (hn : 0 < n) : rank 0 n = 0 := by
  have hnothing : (0 / 100 : Binary64) = .signed false .zero := by
    rw [hundred_eq, Binary64.div_signed isInfinite_hundred val_hundred_ne_zero, Binary64.zero_eq,
      Binary64.mapMagnitude, Magnitude.fraction_zero val_hundred_ne_zero]
  rw [rank, hnothing, Binary64.ofNat_eq]
  cases hinfinite : (Magnitude.ofNat n).isInfinite with
  | true =>
    rw [Magnitude.isInfinite_iff.1 hinfinite, Binary64.ceilWord_mul_infinity rfl]
    rfl
  | false =>
    rw [Binary64.mul_signed hinfinite (Magnitude.val_ofNat_ne_zero hn)]
    show (Binary64.signed false ((Magnitude.ofNat n).multiple .zero)).ceilWord = 0
    rw [Magnitude.multiple_zero, Binary64.ceilWord_zero]

/-- A hundred percent have the rank of the rounded number of samples. -/
theorem rank_hundred (n : ℕ) : rank 100 n = (Binary64.ofNat n).ceilWord := by
  have hall : (100 / 100 : Binary64) = 1 := by
    rw [hundred_eq, Binary64.signed_div isInfinite_hundred isInfinite_hundred val_hundred_ne_zero,
      Magnitude.quotient_self val_hundred_ne_zero]
    rfl
  rw [rank, hall, Binary64.ofNat_eq, Binary64.one_mul_signed]

/-- Minus infinity has the least rank. -/
theorem rank_minus_infinity (hn : 0 < n) :
    rank (.signed true .infinity) n = Binary64.leastWord := by
  have hhundredth : (.signed true .infinity / 100 : Binary64) = .signed true .infinity := by
    rw [hundred_eq, Binary64.div_signed isInfinite_hundred val_hundred_ne_zero]
    rfl
  rw [rank, hhundredth, Binary64.ofNat_eq]
  cases hinfinite : (Magnitude.ofNat n).isInfinite with
  | true =>
    rw [Magnitude.isInfinite_iff.1 hinfinite, Binary64.ceilWord_mul_infinity rfl]
    rfl
  | false =>
    rw [Binary64.mul_signed hinfinite (Magnitude.val_ofNat_ne_zero hn)]
    rfl

theorem le_ceilWord_ofNat (hn : n ≤ 2 ^ 53) : (n : ℤ) ≤ (Binary64.ofNat n).ceilWord := by
  rcases Nat.eq_zero_or_pos n with rfl | hpos
  · exact Binary64.ceilWord_nonneg (Binary64.isUnsigned_ofNat 0)
  · obtain ⟨j, rfl⟩ : ∃ j, n = j + 1 := ⟨n - 1, by omega⟩
    have hunit : 0 < 2 ^ 1074 := pow_pos Nat.two_pos _
    have hbelow : j * 2 ^ 1074 < (Magnitude.ofNat (j + 1)).units := by
      rw [Magnitude.units_ofNat hn]
      exact Nat.mul_lt_mul_of_pos_right (Nat.lt_succ_self j) hunit
    have hlt := Binary64.lt_ceilWord (by omega) hbelow
    rw [Binary64.ofNat_eq]
    omega

/-! ### Percentiles -/

theorem position_mono (hn : 0 < n) (h : p ≤ q) : position p n ≤ position q n := by
  have hrank := rank_mono hn h
  unfold position
  omega

variable {entry : UInt64}

/-- Above a percentage that has an entry every percentage has one, and no smaller one. -/
theorem percentile_mono (hsorted : sorted.toList.Pairwise (· ≤ ·)) (hpq : p ≤ q)
    (hp : percentile sorted p = .ok entry) :
    ∃ entry', percentile sorted q = .ok entry' ∧ entry ≤ entry' := by
  rcases Nat.eq_zero_or_pos sorted.size with hempty | hpos
  · have hnone (p : Binary64) : percentile sorted p = .ok 0 := by simp only [percentile, hempty]
    rw [hnone] at hp
    cases hp
    exact ⟨0, hnone q, UInt64.le_refl 0⟩
  · have hrank := rank_mono hpos hpq
    have hentry := eq_of_percentile hpos hp
    rw [percentile_eq hpos] at hp ⊢
    split at hp
    next => cases hp
    next hreturns =>
      have hleast := Binary64.leastWord_le_ceilWord (p / 100 * .ofNat sorted.size)
      rw [if_neg fun h => hreturns ⟨h.1, Int.le_antisymm (hrank.trans h.2.le) hleast⟩]
      refine ⟨_, rfl, ?_⟩
      rw [hentry]
      exact getD_mono hsorted (position_mono hpos hpq) (position_lt q hpos)

theorem percentile_of_nonneg (sorted : Array UInt64) (hp : 0 ≤ p) :
    ∃ entry, percentile sorted p = .ok entry := by
  rcases Nat.eq_zero_or_pos sorted.size with hempty | hpos
  · exact ⟨0, by simp only [percentile, hempty]⟩
  · have hrank := rank_mono hpos hp
    rw [rank_zero hpos] at hrank
    rw [percentile_eq hpos, if_neg fun h => absurd h.2 (by unfold Binary64.leastWord; omega)]
    exact ⟨_, rfl⟩

/-- What is asked for at zero or below is the first entry. -/
theorem position_of_nonpos (hn : 0 < n) (hp : p ≤ 0) : position p n = 0 := by
  have hrank := rank_mono hn hp
  rw [rank_zero hn] at hrank
  unfold position
  omega

/-- What is asked for at a hundred or above is the last entry, as long as the number of entries is
not rounded. -/
theorem position_of_hundred_le (hn : 0 < n) (hsize : n ≤ 2 ^ 53) (hp : 100 ≤ p) :
    position p n = n - 1 := by
  have hrank := rank_mono hn hp
  rw [rank_hundred] at hrank
  have hcount := le_ceilWord_ofNat hsize
  unfold position
  omega

/-- The percentiles of an ascending array rise with the percentage, from the least entry at zero to
the greatest one at a hundred. -/
theorem percentile_rises (hsorted : sorted.toList.Pairwise (· ≤ ·)) :
    (∀ p q : Binary64, 0 ≤ p → p ≤ q → ∃ a b,
      percentile sorted p = .ok a ∧ percentile sorted q = .ok b ∧ a ≤ b) ∧
    (0 < sorted.size → sorted.size < 2 ^ 53 → ∃ least greatest,
      percentile sorted 0 = .ok least ∧ percentile sorted 100 = .ok greatest ∧
      least ∈ sorted ∧ greatest ∈ sorted ∧ ∀ x ∈ sorted, least ≤ x ∧ x ≤ greatest) := by
  constructor
  · intro p q hp hpq
    obtain ⟨a, ha⟩ := percentile_of_nonneg sorted hp
    obtain ⟨b, hb, hab⟩ := percentile_mono hsorted hpq ha
    exact ⟨a, b, ha, hb, hab⟩
  · intro hpos hsize
    have hzero : (0 : Binary64) ≤ 0 := Binary64.ofNat_le_ofNat (Nat.le_refl 0)
    have hrange : (0 : Binary64) ≤ 100 := Binary64.ofNat_le_ofNat (Nat.zero_le 100)
    have hhundred : (100 : Binary64) ≤ 100 := Binary64.ofNat_le_ofNat (Nat.le_refl 100)
    obtain ⟨least, hleast⟩ := percentile_of_nonneg sorted hzero
    obtain ⟨greatest, hgreatest⟩ := percentile_of_nonneg sorted hrange
    have hfirst := eq_of_percentile hpos hleast
    have hlast := eq_of_percentile hpos hgreatest
    rw [position_of_nonpos hpos hzero] at hfirst
    rw [position_of_hundred_le hpos hsize.le hhundred] at hlast
    refine ⟨least, greatest, hleast, hgreatest, ?_, ?_, fun x hx => ⟨?_, ?_⟩⟩
    · exact hfirst ▸ getD_mem hpos
    · exact hlast ▸ getD_mem (by omega)
    · exact hfirst ▸ getD_zero_le hsorted hx
    · exact hlast ▸ le_getD_last hsorted hx

/-- Between the two numbers next to two thirds of a hundred the rank among three samples rises. -/
theorem percentile_rises_two_thirds :
    let sorted : Array UInt64 := #[4, 7, 7000]
    let p : Binary64 := .ofBits 0x4050aaaaaaaaaaab
    let q : Binary64 := .ofBits 0x4050aaaaaaaaaaac
    (∃ a b, percentile sorted p = .ok a ∧ percentile sorted q = .ok b ∧ a ≤ b) ∧
      percentile sorted p = .ok 7 ∧ percentile sorted q = .ok 7000 ∧
      ∃ least greatest, percentile sorted 0 = .ok least ∧ percentile sorted 100 = .ok greatest ∧
        least ∈ sorted ∧ greatest ∈ sorted ∧ ∀ x ∈ sorted, least ≤ x ∧ x ≤ greatest := by
  intro sorted p q
  have hsorted : sorted.toList.Pairwise (· ≤ ·) := by decide
  obtain ⟨hrises, hends⟩ := percentile_rises hsorted
  exact ⟨hrises p q (by decide +kernel) (by decide +kernel), by decide +kernel, by decide +kernel,
    hends (by decide) (by decide)⟩

/-- A percentile aborts if and only if there is a choice of entries and the product of the rounded
hundredth with their number is `-2 ^ 63` or less. All other percentages, NaN and infinity among
them, have an entry of the array. -/
theorem percentile_aborts_iff (hpos : 0 < sorted.size) (p : Binary64) :
    (percentile sorted p = .error .subtractionOverflow ↔
      1 < sorted.size ∧ p / 100 * .ofNat sorted.size ≤ -9223372036854775808) ∧
    (¬(1 < sorted.size ∧ p / 100 * .ofNat sorted.size ≤ -9223372036854775808) →
      ∃ entry, percentile sorted p = .ok entry ∧ entry ∈ sorted ∧
        (sorted.toList.Pairwise (· ≤ ·) → (p ≤ 0 → ∀ x ∈ sorted, entry ≤ x) ∧
          (100 ≤ p → sorted.size ≤ 2 ^ 53 → ∀ x ∈ sorted, x ≤ entry))) := by
  have hleast : rank p sorted.size = Binary64.leastWord ↔
      p / 100 * .ofNat sorted.size ≤ -9223372036854775808 := Binary64.ceilWord_eq_leastWord_iff
  rw [percentile_eq hpos, ← hleast]
  constructor
  · split
    next h => exact iff_of_true rfl h
    next h => exact iff_of_false nofun h
  · intro hreturns
    rw [if_neg hreturns]
    refine ⟨_, rfl, getD_mem (position_lt p hpos), fun hsorted => ⟨?_, ?_⟩⟩
    · intro hp x hx
      rw [position_of_nonpos hpos hp]
      exact getD_zero_le hsorted hx
    · intro hp hsize x hx
      rw [position_of_hundred_le hpos hsize hp]
      exact le_getD_last hsorted hx

/-- The entries need no order, and NaN asks for the first one. -/
theorem percentile_aborts_iff_unsorted :
    let sorted : Array UInt64 := #[9, 1, 5]
    percentile sorted (.signed true .infinity) = .error .subtractionOverflow ∧
      ∃ entry, percentile sorted .nan = .ok entry ∧ entry ∈ sorted := by
  intro sorted
  have hpos : 0 < sorted.size := by decide
  have hleast := Binary64.ceilWord_eq_leastWord_iff.1 (rank_minus_infinity hpos)
  refine ⟨(percentile_aborts_iff hpos _).1.2 ⟨by decide, hleast⟩, ?_⟩
  obtain ⟨entry, hreturns, hmem, -⟩ :=
    (percentile_aborts_iff hpos .nan).2 fun h => absurd (Binary64.le_iff.1 h.2).1 nofun
  exact ⟨entry, hreturns, hmem⟩

/-- Two entries have no percentile at minus infinity. -/
theorem not_forall_percentile_mem : ¬∀ (sorted : Array UInt64) (p : Binary64), 0 < sorted.size →
    ∃ entry ∈ sorted, percentile sorted p = .ok entry := by
  intro h
  obtain ⟨entry, -, hreturns⟩ := h #[1, 2] (.signed true .infinity) (by decide)
  have hpos : 0 < (#[1, 2] : Array UInt64).size := by decide
  rw [percentile_eq hpos, if_pos ⟨by decide, rank_minus_infinity hpos⟩] at hreturns
  cases hreturns

end Statistics
end ScanLatency
