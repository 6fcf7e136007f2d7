import ScanLatency.CommandLine.Settings
import ScanLatency.Proofs.Unsigned

/-! The cost per plot, from exact totals of nanoseconds. A positive total stays positive in
milliseconds, per group and over every divisor that the settings admit. Totals in milliseconds and
their shares of a group are small enough never to overflow and never to tip a sum over, so a cost is
infinite exactly if its sequential total is too large for the divisor. -/
namespace ScanLatency
open Number

/-- A finite magnitude other than zero. -/
structure Number.Magnitude.IsDivisor (d : Magnitude) : Prop where
  isInfinite_eq : d.isInfinite = false
  val_ne_zero : d.val ≠ 0

/-- What the checks admit as divisor is a finite magnitude other than zero. -/
theorem Number.Binary64.exists_isDivisor {x : Binary64}
    (h : (x.isFinite && decide (0 < x)) = true) : ∃ d, x = .signed false d ∧ d.IsDivisor := by
  rw [Bool.and_eq_true, decide_eq_true_eq] at h
  obtain ⟨hfinite, hpos⟩ := h
  rw [zero_eq] at hpos
  cases x with
  | nan => cases hfinite
  | signed negative d =>
    have hkey : 0 < (signed negative d).key :=
      of_decide_eq_true ((Bool.and_eq_true _ _).mp hpos).2
    cases negative with
    | true =>
      have hneg : (signed true d).key = -(d.val : ℤ) := rfl
      omega
    | false =>
      have hval : (signed false d).key = d.val := rfl
      exact ⟨d, rfl, by simpa using hfinite, by omega⟩

/-- Accepted settings have a group that is not empty and a positive finite divisor. -/
theorem CommandLine.Given.settings_ok {e : Environment} {g : Given} {c : Settings}
    (h : g.settings e = .ok c) :
    c.groupSize ≠ 0 ∧ ∃ d, c.divisor = .signed false d ∧ d.IsDivisor := by
  obtain ⟨_, hfault⟩ := settings_eq_ok_iff.1 h
  obtain ⟨hgroup, _, _, hdivisor⟩ := Settings.fault?_eq_none_iff.1 hfault
  exact ⟨hgroup, Number.Binary64.exists_isDivisor hdivisor⟩

namespace Comparison
open Magnitude

/-- The exact total of one kind in nanoseconds; a kind without a result counts as zero. -/
def exactTotal (results : List PatternResult) (kind : PatternKind) : ℕ :=
  ((results.find? (·.kind = kind)).map fun r => Word.exactSum r.durations).getD 0

def milliseconds (nanos : ℕ) : Magnitude := (ofNat nanos).quotient (ofNat 1000000)

/-- The share of a group in its scan. -/
def scanShare (n : UInt64) (nanos : ℕ) : Magnitude := (milliseconds nanos).quotient (ofNat n.toNat)

def cost (n : UInt64) (d : Magnitude) (scan sequential : ℕ) : Magnitude :=
  (scanShare n scan).sum ((milliseconds sequential).quotient d)

/-! ### Milliseconds -/

theorem two_pow_le_million : 2 ^ (19 + 1074) ≤ (ofNat 1000000).units :=
  two_pow_le_units_ofNat (by decide) (by decide)

theorem million_le_two_pow : (ofNat 1000000).units ≤ 2 ^ (20 + 1074) :=
  units_ofNat_le_two_pow (by decide)

theorem isDivisor_million : (ofNat 1000000).IsDivisor where
  isInfinite_eq := by decide +kernel
  val_ne_zero := val_ofNat_ne_zero (by decide)

variable {nanos scan sequential : ℕ}

theorem units_ofNat_le (h : nanos ≤ wordCount) : (ofNat nanos).units ≤ 2 ^ (64 + 1074) :=
  units_ofNat_le_two_pow h

theorem units_milliseconds_le (h : nanos ≤ wordCount) :
    (milliseconds nanos).units ≤ 2 ^ (45 + 1074) :=
  units_quotient_le_two_pow (units_ofNat_le h) two_pow_le_million (by decide)

theorem le_units_milliseconds (h : 0 < nanos) : 2 ^ (1074 - 20) ≤ (milliseconds nanos).units :=
  two_pow_le_units_quotient isDivisor_million.val_ne_zero
    (two_pow_le_units_ofNat (k := 0) (by decide) h) million_le_two_pow (by decide) (by decide)

theorem isInfinite_milliseconds (h : nanos ≤ wordCount) : (milliseconds nanos).isInfinite = false :=
  isInfinite_of_units_le (by decide) (units_milliseconds_le h)

theorem milliseconds_zero : (milliseconds 0).val = 0 := by decide +kernel

theorem milliseconds_eq_zero_iff : (milliseconds nanos).val = 0 ↔ nanos = 0 := by
  rcases Nat.eq_zero_or_pos nanos with rfl | hpos
  · exact iff_of_true milliseconds_zero rfl
  · exact iff_of_false (val_ne_zero_of_two_pow_le (le_units_milliseconds hpos)) (by omega)

theorem ofWord_div_million (w : UInt64) :
    Statistics.ofWord w / 1000000 = .signed false (milliseconds w.toNat) :=
  Binary64.signed_div (isInfinite_of_units_le (by decide) (units_ofNat_le (UInt64.toNat_lt w).le))
    isDivisor_million.isInfinite_eq isDivisor_million.val_ne_zero

/-! ### Shares and costs -/

section Cost

variable {n : UInt64} (hn : n ≠ 0)
include hn

theorem two_pow_le_groupSize : 2 ^ (0 + 1074) ≤ (ofNat n.toNat).units := by
  apply two_pow_le_units_ofNat (by decide)
  exact Word.toNat_pos hn

theorem isDivisor_groupSize : (ofNat n.toNat).IsDivisor where
  isInfinite_eq := isInfinite_of_units_le (by decide) (units_ofNat_le (UInt64.toNat_lt n).le)
  val_ne_zero := val_ofNat_ne_zero (Word.toNat_pos hn)

theorem units_scanShare_le (h : scan ≤ wordCount) : (scanShare n scan).units ≤ 2 ^ (45 + 1074) :=
  units_quotient_le_two_pow (units_milliseconds_le h) (two_pow_le_groupSize hn) (by decide)

theorem le_units_scanShare (h : 0 < scan) : 2 ^ (1074 - 84) ≤ (scanShare n scan).units :=
  two_pow_le_units_quotient (isDivisor_groupSize hn).val_ne_zero (le_units_milliseconds h)
    (units_ofNat_le (UInt64.toNat_lt n).le) (by decide) (by decide)

theorem scanShare_eq_zero_iff : (scanShare n scan).val = 0 ↔ scan = 0 := by
  rcases Nat.eq_zero_or_pos scan with rfl | hpos
  · exact iff_of_true (quotient_zero milliseconds_zero (isDivisor_groupSize hn).val_ne_zero) rfl
  · exact iff_of_false (val_ne_zero_of_two_pow_le (le_units_scanShare hn hpos)) (by omega)

variable {d : Magnitude}

theorem units_cost_le {k b : ℕ} (hscan : scan ≤ wordCount) (hsequential : sequential ≤ wordCount)
    (hlow : 2 ^ b ≤ d.units) (hk : 45 + 1074 ≤ k) (hb : 45 + 1074 + 1074 ≤ k + b) :
    (cost n d scan sequential).units ≤ 2 ^ (k + 1) := by
  have hpow (e : ℕ) (he : e ≤ k) : 2 ^ e ≤ 2 ^ k := Nat.pow_le_pow_right Nat.two_pos he
  exact units_sum_le_two_pow ((units_scanShare_le hn hscan).trans (hpow _ hk))
    (units_quotient_le_two_pow (units_milliseconds_le hsequential) hlow hb)

variable (hd : d.IsDivisor)
include hd

/-- A cost is zero only if nothing was measured. -/
theorem cost_eq_zero_iff : (cost n d scan sequential).val = 0 ↔ scan = 0 ∧ sequential = 0 := by
  have hsequential : ((milliseconds sequential).quotient d).val = 0 ↔ sequential = 0 := by
    have hlow (h : (milliseconds sequential).val ≠ 0) :
        2 ^ (1074 - 20) ≤ (milliseconds sequential).units :=
      le_units_milliseconds (Nat.pos_of_ne_zero (h ∘ milliseconds_eq_zero_iff.2))
    exact (quotient_eq_zero_iff hd.val_ne_zero hlow (units_le_infinity d) (by decide)).trans
      milliseconds_eq_zero_iff
  rw [cost, sum_eq_zero_iff, scanShare_eq_zero_iff hn, hsequential]

/-- A cost is finite exactly if its sequential total is small enough for the divisor. -/
theorem isFinite_cost_iff (hscan : scan ≤ wordCount) :
    (cost n d scan sequential).isInfinite = false ↔
      (milliseconds sequential).units < overflowValue * d.units := by
  rw [cost, ← Bool.not_eq_true, isInfinite_sum_iff, isInfinite_quotient_iff hd.val_ne_zero,
    Nat.not_le]
  exact Nat.lt_of_le_of_lt (units_scanShare_le hn hscan) (by decide +kernel)

theorem le_units_cost {k b : ℕ} (hhigh : d.units ≤ 2 ^ b) (hk : k ≤ 1074 - 84)
    (hb : k + b ≤ 1074 - 20 + 1074) (h : (cost n d scan sequential).val ≠ 0) :
    2 ^ k ≤ (cost n d scan sequential).units := by
  rcases Nat.eq_zero_or_pos scan with rfl | hscan
  · have hsequential : 0 < sequential :=
      Nat.pos_of_ne_zero fun hzero => h ((cost_eq_zero_iff hn hd).2 ⟨rfl, hzero⟩)
    exact (two_pow_le_units_quotient hd.val_ne_zero (le_units_milliseconds hsequential) hhigh
      (by omega) hb).trans units_le_units_sum_right
  · have hpow (e : ℕ) (he : k ≤ e) : 2 ^ k ≤ 2 ^ e := Nat.pow_le_pow_right Nat.two_pos he
    exact ((hpow _ hk).trans (le_units_scanShare hn hscan)).trans units_le_units_sum_left

/-- No cost and no quotient of costs overflows for divisors from `2 ^ -893` to `2 ^ 957`. -/
theorem cost_moderate (hscan : scan ≤ wordCount) (hsequential : sequential ≤ wordCount)
    (hlow : 2 ^ (1074 - 893) ≤ d.units) (hhigh : d.units ≤ 2 ^ (1074 + 957)) :
    (cost n d scan sequential).isInfinite = false ∧
      ∀ scan' sequential', (cost n d scan' sequential').val ≠ 0 →
        (cost n d scan sequential).units < overflowValue * (cost n d scan' sequential').units := by
  -- From one on, the divisor does not raise a cost; up to one, it does not lower it.
  rcases Nat.le_total (2 ^ (0 + 1074)) d.units with hone | hone
  · have hcost := units_cost_le (k := 45 + 1074) hn hscan hsequential hone (by decide) (by decide)
    refine ⟨isInfinite_of_units_le (by decide) hcost, fun scan' sequential' h => ?_⟩
    exact units_lt_overflow (by decide) hcost
      (le_units_cost (k := 97) hn hd hhigh (by decide) (by decide) h)
  · have hcost := units_cost_le (k := 2012) hn hscan hsequential hlow (by decide) (by decide)
    refine ⟨isInfinite_of_units_le (by decide) hcost, fun scan' sequential' h => ?_⟩
    exact units_lt_overflow (by decide) hcost
      (le_units_cost (k := 990) hn hd hone (by decide) (by decide) h)

/-- Numbers cost what their magnitudes do. -/
theorem perPlot_signed (hscan : scan ≤ wordCount) (hsequential : sequential ≤ wordCount) :
    perPlot n (.signed false d) (.signed false (milliseconds scan))
      (.signed false (milliseconds sequential)) = .signed false (cost n d scan sequential) := by
  have hgroup := isDivisor_groupSize hn
  unfold perPlot
  rw [Statistics.ofWord, Binary64.ofNat_eq,
    Binary64.signed_div (isInfinite_milliseconds hscan) hgroup.isInfinite_eq hgroup.val_ne_zero,
    Binary64.signed_div (isInfinite_milliseconds hsequential) hd.isInfinite_eq hd.val_ne_zero,
    Binary64.signed_add]
  rfl

end Cost

/-! ### Results -/

variable {results : List PatternResult}

theorem exactTotal_lt (h : ∀ r ∈ results, ∃ total, r.totalNanos = .ok total) (kind : PatternKind) :
    exactTotal results kind < wordCount := by
  unfold exactTotal
  cases hfind : results.find? (·.kind = kind) with
  | none => decide
  | some r =>
    obtain ⟨total, htotal⟩ := h r (List.mem_of_find?_eq_some hfind)
    show Word.exactSum r.durations < wordCount
    rw [← Word.toNat_sum htotal]
    exact UInt64.toNat_lt total

theorem totalMs_eq (h : ∀ r ∈ results, ∃ total, r.totalNanos = .ok total) (kind : PatternKind) :
    totalMs results kind = .ok (.signed false (milliseconds (exactTotal results kind))) := by
  unfold totalMs exactTotal
  cases hfind : results.find? (·.kind = kind) with
  | none => exact congrArg Except.ok (Binary64.signed_eq_zero_iff.2 milliseconds_zero).symm
  | some r =>
    obtain ⟨total, htotal⟩ := h r (List.mem_of_find?_eq_some hfind)
    have hexact : total.toNat = Word.exactSum r.durations := Word.toNat_sum htotal
    show r.totalNanos.map (Statistics.ofWord · / 1000000) =
      .ok (.signed false (milliseconds (Word.exactSum r.durations)))
    rw [htotal, ← hexact, ← ofWord_div_million]
    rfl

/-- The comparison of results with exact totals. -/
theorem ofResults_eq {n : UInt64} (hn : n ≠ 0) {d : Magnitude} (hd : d.IsDivisor)
    (h : ∀ r ∈ results, ∃ total, r.totalNanos = .ok total) :
    let ms (kind : PatternKind) := milliseconds (exactTotal results kind)
    let grouped := cost n d (exactTotal results .groupedScan) (exactTotal results .largeSequential)
    let singles := cost n d (exactTotal results .singlesScan) (exactTotal results .singleSequential)
    ofResults n (.signed false d) results = .ok {
      groupedScanMs := .signed false (ms .groupedScan)
      singlesScanMs := .signed false (ms .singlesScan)
      groupedLargeSequentialMs := .signed false (ms .largeSequential)
      singlesSequentialMs := .signed false (ms .singleSequential)
      groupedTotalAvgMs := .signed false grouped
      singlesTotalAvgMs := .signed false singles
      verdict := .ofTotals (.signed false grouped) (.signed false singles) } := by
  intro ms grouped singles
  have hword (kind : PatternKind) := (exactTotal_lt h kind).le
  unfold ofResults
  simp only [totalMs_eq h]
  show Except.ok (ofTotals _ _ _ _ _ _) = _
  unfold ofTotals
  simp only [perPlot_signed hn hd (hword _) (hword _)]
  rfl

end Comparison
end ScanLatency
