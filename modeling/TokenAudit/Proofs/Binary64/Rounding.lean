import Mathlib.Algebra.Order.Ring.Nat
import Mathlib.Order.Monotone.Basic
import Mathlib.Tactic.Linarith
import Mathlib.Tactic.Ring
import TokenAudit.Binary64.Basic

/-!
# Rounding to double width

Magnitudes grow with their ranks, the rank below a number of units is the last whose magnitude does
not exceed it, and a quotient rounds to a rank of at most `k` exactly when it lies below the middle
between the magnitudes of `k` and `k + 1`, or on it when `k` is even. It follows that a whole number
rounds to an infinity from `2 ^ 1024 - 2 ^ 970` on.
-/

set_option autoImplicit false

namespace TokenAudit.Binary64

/-- A level holds so many ranks. -/
theorem levelSize_eq : Nat.pow 2 52 = 4503599627370496 := rfl

/-- One is a positive number of units. -/
theorem one_pos : 0 < one := by
  decide +kernel

/-- A rank of the first two levels is its own magnitude. -/
theorem units_of_le {rank : Nat} (h : rank ≤ 2 * Nat.pow 2 52) : units rank = rank := by
  rw [levelSize_eq] at h
  unfold units
  simp only [levelSize_eq]
  by_cases h0 : rank / 4503599627370496 = 0
  · rw [if_pos h0]
    omega
  · rw [if_neg h0]
    by_cases h1 : rank / 4503599627370496 = 1
    · rw [h1]
      simp
      omega
    · have h2 : rank = 2 * 4503599627370496 := by omega
      subst h2
      rfl

/-- The magnitudes of a level past the first lie `2 ^ level` units apart, and its end is the
beginning of the next. -/
theorem units_level (level : Nat) {fraction : Nat} (h : fraction ≤ Nat.pow 2 52) :
    units ((level + 1) * Nat.pow 2 52 + fraction) =
      (Nat.pow 2 52 + fraction) * Nat.pow 2 level := by
  rw [levelSize_eq] at h
  unfold units
  simp only [levelSize_eq]
  by_cases hend : fraction = 4503599627370496
  · have hlevel : ((level + 1) * 4503599627370496 + fraction) / 4503599627370496 =
        level + 1 + 1 := by omega
    have hfraction : ((level + 1) * 4503599627370496 + fraction) % 4503599627370496 = 0 := by
      omega
    rw [hlevel, hfraction, if_neg (by omega), hend]
    simp only [Nat.add_sub_cancel, Nat.pow_eq, pow_succ]
    ring
  · have hlevel : ((level + 1) * 4503599627370496 + fraction) / 4503599627370496 =
        level + 1 := by omega
    have hfraction : ((level + 1) * 4503599627370496 + fraction) % 4503599627370496 =
        fraction := by omega
    rw [hlevel, hfraction, if_neg (by omega)]
    rfl

/-- Magnitudes grow with their ranks. -/
theorem units_strictMono : StrictMono units := by
  refine strictMono_nat_of_lt_succ fun rank => ?_
  by_cases hsmall : rank < Nat.pow 2 52
  · rw [units_of_le (by omega), units_of_le (by omega)]
    omega
  · -- past the first level a rank is cut into its level and its place there, so that the next
    -- rank stands on the same level even where it begins another
    obtain ⟨level, fraction, hfraction, rfl⟩ : ∃ level fraction, fraction < Nat.pow 2 52 ∧
        rank = (level + 1) * Nat.pow 2 52 + fraction := by
      refine ⟨rank / Nat.pow 2 52 - 1, rank % Nat.pow 2 52, ?_, ?_⟩
      · exact Nat.mod_lt _ (by rw [levelSize_eq]; omega)
      · rw [levelSize_eq] at hsmall ⊢
        omega
    have hpos : 0 < Nat.pow 2 level := Nat.pow_pos (by omega)
    rw [Nat.add_assoc, units_level level hfraction.le, units_level level hfraction]
    exact Nat.mul_lt_mul_of_pos_right (by omega) hpos

/-- The level of a whole number of units is found by its logarithm: scaled down by it, the number
fits the significand. -/
theorem scaled_bounds {n : Nat} (h : Nat.pow 2 52 ≤ n) :
    Nat.pow 2 52 ≤ n / Nat.pow 2 (n.log2 - 52) ∧
      n / Nat.pow 2 (n.log2 - 52) < 2 * Nat.pow 2 52 := by
  have hne : n ≠ 0 := by
    rw [levelSize_eq] at h
    omega
  have hlog : 52 ≤ n.log2 := (Nat.le_log2 hne).2 h
  have hpos : 0 < 2 ^ (n.log2 - 52) := Nat.two_pow_pos _
  simp only [Nat.pow_eq]
  constructor
  · rw [Nat.le_div_iff_mul_le hpos, ← pow_add, Nat.add_sub_cancel' hlog]
    exact Nat.log2_self_le hne
  · rw [Nat.div_lt_iff_lt_mul hpos, ← pow_succ', ← pow_add]
    have hexp : 52 + 1 + (n.log2 - 52) = n.log2 + 1 := by omega
    rw [hexp]
    exact Nat.lt_log2_self

/-- The rank below a number of units is the last whose magnitude does not exceed it. -/
theorem rankBelow_spec (n : Nat) : units (rankBelow n) ≤ n ∧ n < units (rankBelow n + 1) := by
  by_cases hsmall : n < Nat.pow 2 52
  · have hshift : n.log2 - 52 = 0 := by
      by_cases h0 : n = 0
      · subst h0
        rfl
      · have := (Nat.log2_lt h0).2 hsmall
        omega
    have hrank : rankBelow n = n := by
      unfold rankBelow
      simp only [hshift]
      simp
    rw [hrank, units_of_le (by omega), units_of_le (by omega)]
    omega
  · obtain ⟨hlow, hhigh⟩ := scaled_bounds (Nat.le_of_not_lt hsmall)
    have hpos : 0 < Nat.pow 2 (n.log2 - 52) := Nat.pow_pos (by omega)
    have hrank : rankBelow n = (n.log2 - 52 + 1) * Nat.pow 2 52 +
        (n / Nat.pow 2 (n.log2 - 52) - Nat.pow 2 52) := by
      unfold rankBelow
      simp only [Nat.add_mul, Nat.one_mul]
      omega
    have hdiv := Nat.div_add_mod n (Nat.pow 2 (n.log2 - 52))
    have hmod := Nat.mod_lt n hpos
    rw [hrank, Nat.add_assoc _ _ 1, units_level _ (by omega), units_level _ (by omega)]
    generalize n / Nat.pow 2 (n.log2 - 52) = q at *
    have hq : Nat.pow 2 52 + (q - Nat.pow 2 52) = q := by omega
    have hq' : Nat.pow 2 52 + (q - Nat.pow 2 52 + 1) = q + 1 := by omega
    rw [hq, hq', Nat.mul_comm q, Nat.mul_comm (q + 1), Nat.mul_add]
    omega

/-- Rounding picks the rank below a quotient or the one after it. -/
theorem nearestRank_bounds (num den : Nat) :
    rankBelow (num * one / den) ≤ nearestRank num den ∧
      nearestRank num den ≤ rankBelow (num * one / den) + 1 := by
  unfold nearestRank
  simp only
  split
  · omega
  · split
    · omega
    · omega

/-- The magnitudes of the rank below a quotient and of the next enclose it. -/
theorem quotient_bounds (num : Nat) {den : Nat} (hden : 0 < den) :
    units (rankBelow (num * one / den)) * den ≤ num * one ∧
      num * one < units (rankBelow (num * one / den) + 1) * den := by
  obtain ⟨hlow, hhigh⟩ := rankBelow_spec (num * one / den)
  constructor
  · exact (Nat.le_div_iff_mul_le hden).1 hlow
  · exact (Nat.div_lt_iff_lt_mul hden).1 hhigh

/-- A quotient rounds to a rank of at most `k` exactly when it lies below the middle of the gap
after `k`, or on it when `k` is even. -/
theorem nearestRank_le_iff (num : Nat) {den : Nat} (hden : 0 < den) (k : Nat) :
    nearestRank num den ≤ k ↔
      2 * (num * one) < (units k + units (k + 1)) * den ∨
        2 * (num * one) = (units k + units (k + 1)) * den ∧ k % 2 = 0 := by
  obtain ⟨hlow, hhigh⟩ := quotient_bounds num hden
  obtain ⟨hge, hle⟩ := nearestRank_bounds num den
  have hstep : units k < units (k + 1) := units_strictMono (Nat.lt_succ_self k)
  rcases Nat.lt_trichotomy (rankBelow (num * one / den)) k with hlt | heq | hgt
  · have hunits : units (rankBelow (num * one / den) + 1) ≤ units k :=
      units_strictMono.monotone hlt
    have hmiddle : num * one < units k * den :=
      Nat.lt_of_lt_of_le hhigh (Nat.mul_le_mul_right den hunits)
    have hwider : units k * den ≤ units (k + 1) * den := Nat.mul_le_mul_right den hstep.le
    constructor
    · intro _
      left
      rw [Nat.add_mul]
      omega
    · intro _
      omega
  · -- the quotient lies in the gap itself: here the three cases of rounding decide
    unfold nearestRank
    simp only [heq]
    split
    · next hbelow =>
      constructor
      · intro _
        exact .inl hbelow
      · intro _
        exact Nat.le_refl k
    · split
      · omega
      · next hnotBelow hnotAbove =>
        constructor
        · intro h
          right
          omega
        · intro h
          rcases h with h | ⟨-, heven⟩
          · exact absurd h hnotBelow
          · omega
  · have hunits : units (k + 1) ≤ units (rankBelow (num * one / den)) :=
      units_strictMono.monotone hgt
    have habove : units (k + 1) * den ≤ num * one :=
      Nat.le_trans (Nat.mul_le_mul_right den hunits) hlow
    have hwider : units k * den < units (k + 1) * den := Nat.mul_lt_mul_of_pos_right hstep hden
    constructor
    · intro h
      omega
    · intro h
      rw [Nat.add_mul] at h
      omega

/-- The least whole number that rounds to an infinity: the middle between the last finite magnitude
and the one that would follow it. -/
def overflowBound : Nat := Nat.pow 2 1024 - Nat.pow 2 970

/-- The middle of the gap before the first magnitude beyond all finite ones. -/
theorem units_before_overflow :
    units (overflowRank - 1) + units (overflowRank - 1 + 1) = 2 * (overflowBound * one) := by
  decide +kernel

/-- A quotient is finite when rounded exactly when it lies below the overflow bound. -/
theorem isFinite_ofRatio_iff (negative : Bool) (num : Nat) {den : Nat} (hden : 0 < den) :
    (ofRatio negative num den).isFinite = true ↔ num < overflowBound * den := by
  have hodd : ¬ (overflowRank - 1) % 2 = 0 := by decide +kernel
  have hpos : 0 < overflowRank := by decide +kernel
  have hfinite : (ofRatio negative num den).isFinite = true ↔
      nearestRank num den ≤ overflowRank - 1 := by
    unfold ofRatio ofRank
    by_cases h : nearestRank num den < overflowRank
    · rw [dif_pos h]
      simp only [isFinite, true_iff]
      omega
    · rw [dif_neg h]
      simp only [isFinite, Bool.false_eq_true, false_iff]
      omega
  rw [hfinite, nearestRank_le_iff num hden, units_before_overflow]
  have hscale : 2 * (overflowBound * one) * den = 2 * (overflowBound * den * one) := by ring
  rw [hscale]
  constructor
  · intro h
    rcases h with h | ⟨-, heven⟩
    · exact Nat.lt_of_mul_lt_mul_right (a := one) (by omega)
    · exact absurd heven hodd
  · intro h
    have := Nat.mul_lt_mul_of_pos_right h one_pos
    left
    omega

/-- A whole number is finite when rounded exactly when its magnitude lies below the overflow
bound. -/
theorem isFinite_ofInt_iff (n : Int) :
    (ofInt n).isFinite = true ↔ n.natAbs < overflowBound := by
  unfold ofInt
  rw [isFinite_ofRatio_iff _ _ (by omega : 0 < 1), Nat.mul_one]

/-- The last finite magnitude. -/
def lastUnit : Nat := Nat.pow 2 1024 - Nat.pow 2 971

/-- The greatest finite number is a whole one. -/
theorem units_last : units (overflowRank - 1) = lastUnit * one := by
  decide +kernel

/-- Rounding adds at most one to the whole part of a quotient. -/
theorem roundQuotient_le (num den : Nat) : roundQuotient num den ≤ num / den + 1 := by
  unfold roundQuotient
  simp only
  split
  · omega
  · split <;> omega

/-- Rounding to decimal places never leaves the finite numbers: the last of them is whole, and lies
below the overflow bound by more than one. -/
theorem isFinite_roundTo (x : Binary64) (places : Nat) :
    (x.roundTo places).isFinite = x.isFinite := by
  cases x with
  | infinite negative => rfl
  | nan => rfl
  | finite negative rank =>
    have hbound : lastUnit + 2 ≤ overflowBound := by decide +kernel
    have hpos : 0 < Nat.pow 10 places := Nat.pow_pos (by decide)
    have hunits : units rank ≤ lastUnit * one := by
      rw [← units_last]
      exact units_strictMono.monotone (by omega)
    have hquotient : units rank * Nat.pow 10 places / one ≤ lastUnit * Nat.pow 10 places := by
      apply Nat.div_le_of_le_mul
      calc units rank * Nat.pow 10 places
          ≤ lastUnit * one * Nat.pow 10 places := Nat.mul_le_mul_right _ hunits
        _ = one * (lastUnit * Nat.pow 10 places) := by ring
    have hrounded := roundQuotient_le (units rank * Nat.pow 10 places) one
    have hscaled := Nat.mul_le_mul_right (Nat.pow 10 places) hbound
    rw [Nat.add_mul] at hscaled
    have hfinite : (ofRatio negative (roundQuotient (units rank * Nat.pow 10 places) one)
        (Nat.pow 10 places)).isFinite = true := by
      rw [isFinite_ofRatio_iff _ _ hpos]
      omega
    exact hfinite

end TokenAudit.Binary64
