import TokenAudit.Binary64.Decimal
import TokenAudit.Proofs.Binary64.Rounding

/-!
# Decimals that read back

A magnitude rounds to its own rank, and what a quotient rounds to does not depend on how the
quotient is written. So the shortest decimal of a rank, which is chosen among decimals that round to
it or else is the magnitude itself, rounds to the rank, and the number that is nearest to it is
found again: it is neither so large nor so small that no power of ten is formed.
-/

set_option autoImplicit false

namespace TokenAudit.Binary64

/-- Powers of ten are positive. -/
theorem pow_ten_pos (n : Nat) : 0 < Nat.pow 10 n :=
  Nat.pow_pos (by decide)

/-! ## Quotients -/

/-- A quotient rounds alike however it is written. -/
theorem nearestRank_congr {num den num' den' : Nat} (hden : 0 < den) (hden' : 0 < den')
    (h : num * den' = num' * den) : nearestRank num den = nearestRank num' den' := by
  apply eq_of_forall_ge_iff
  intro k
  rw [nearestRank_le_iff num hden, nearestRank_le_iff num' hden']
  have hnum : 2 * (num * one) * den' = 2 * (num' * one) * den := by
    calc 2 * (num * one) * den' = 2 * one * (num * den') := by ring
      _ = 2 * one * (num' * den) := by rw [h]
      _ = 2 * (num' * one) * den := by ring
  have hmiddle : (units k + units (k + 1)) * den * den' =
      (units k + units (k + 1)) * den' * den := by ring
  rw [← Nat.mul_lt_mul_right hden', hnum, hmiddle, Nat.mul_lt_mul_right hden,
    ← Nat.mul_left_inj (Nat.ne_of_gt hden'), hnum, hmiddle, Nat.mul_left_inj (Nat.ne_of_gt hden)]

/-- A magnitude rounds to its rank. -/
theorem nearestRank_units (rank : Nat) : nearestRank (units rank) one = rank := by
  have hnext : units rank < units (rank + 1) := units_strictMono (Nat.lt_succ_self rank)
  have hle : nearestRank (units rank) one ≤ rank := by
    rw [nearestRank_le_iff _ one_pos, ← Nat.mul_assoc]
    left
    exact Nat.mul_lt_mul_of_pos_right (by omega) one_pos
  apply Nat.le_antisymm hle
  cases rank with
  | zero => exact Nat.zero_le _
  | succ k =>
    -- the middle of the gap before the rank lies below its magnitude
    have hbefore : units k < units (k + 1) := units_strictMono (Nat.lt_succ_self k)
    by_contra hless
    have hk : nearestRank (units (k + 1)) one ≤ k := by omega
    rw [nearestRank_le_iff _ one_pos, ← Nat.mul_assoc] at hk
    rcases hk with hk | ⟨hk, -⟩
    · have := Nat.lt_of_mul_lt_mul_right hk
      omega
    · have := Nat.eq_of_mul_eq_mul_right one_pos hk
      omega

/-- The number nearest to zero is zero. -/
theorem nearestRank_zero {den : Nat} (hden : 0 < den) : nearestRank 0 den = 0 := by
  rw [← Nat.le_zero, nearestRank_le_iff _ hden]
  left
  have hunits : units 0 + units (0 + 1) = 1 := rfl
  rw [hunits]
  omega

/-! ## Decimals -/

namespace Decimal

/-- A decimal is another one with zeros at the end of its coefficient. -/
def Extends (d short : Decimal) : Prop :=
  ∃ zeros : Nat, d.coefficient = short.coefficient * Nat.pow 10 zeros ∧
    d.exponent = short.exponent - zeros

/-- Zeros at the end of the coefficient make no difference. -/
theorem Extends.nearestRank_eq {d short : Decimal} (h : d.Extends short) :
    d.nearestRank = short.nearestRank := by
  obtain ⟨zeros, hcoefficient, hexponent⟩ := h
  apply nearestRank_congr (pow_ten_pos _) (pow_ten_pos _)
  have hpowers : zeros + d.exponent.toNat + (-short.exponent).toNat =
      short.exponent.toNat + (-d.exponent).toNat := by
    rw [hexponent]
    omega
  rw [hcoefficient]
  simp only [Nat.pow_eq, Nat.mul_assoc, ← pow_add]
  rw [hpowers]

/-- A decimal whose nearest number is not zero has a digit other than zero. -/
theorem coefficient_ne_zero {d : Decimal} (h : d.nearestRank ≠ 0) : d.coefficient ≠ 0 := by
  intro hzero
  apply h
  rw [Decimal.nearestRank, hzero, Nat.zero_mul]
  exact nearestRank_zero (pow_ten_pos _)

/-- The quotient that a decimal stands for is rounded to the number nearest to it. -/
theorem ofRatio_eq {d : Decimal} (negative : Bool) (hrank : d.nearestRank < overflowRank) :
    ofRatio negative (d.coefficient * Nat.pow 10 d.exponent.toNat)
      (Nat.pow 10 (-d.exponent).toNat) = .finite negative ⟨d.nearestRank, hrank⟩ :=
  dif_pos hrank

/-- A bound by two powers of ten is a bound by every power whose exponent reaches their sum. -/
theorem le_pow_ten {a i j n : Nat} (h : a ≤ Nat.pow 10 i * Nat.pow 10 j) (hn : i + j ≤ n) :
    a ≤ Nat.pow 10 n := by
  have hpow : Nat.pow 10 i * Nat.pow 10 j = Nat.pow 10 (i + j) := by
    simp only [Nat.pow_eq, ← pow_add]
  rw [hpow] at h
  exact Nat.le_trans h (Nat.pow_le_pow_right (by decide) hn)

/-- The powers of ten from the 311th on reach the least number that overflows. -/
theorem overflowBound_le_pow {n : Nat} (h : 311 ≤ n) : overflowBound ≤ Nat.pow 10 n := by
  have hbound : overflowBound ≤ Nat.pow 10 155 * Nat.pow 10 156 := by decide +kernel
  exact le_pow_ten hbound h

/-- Those from the 401st on reach twice the number of units in one. -/
theorem two_mul_one_le_pow {n : Nat} (h : 401 ≤ n) : 2 * one ≤ Nat.pow 10 n := by
  have hbound : 2 * one ≤ Nat.pow 10 200 * Nat.pow 10 201 := by decide +kernel
  exact le_pow_ten hbound h

/-- A decimal that rounds to a finite rank is less than `10 ^ 311`. -/
theorem exponent_le {d : Decimal} (hcoefficient : d.coefficient ≠ 0)
    (hrank : d.nearestRank < overflowRank) : d.exponent ≤ 310 := by
  by_contra hlarge
  have hfinite : (ofRatio false (d.coefficient * Nat.pow 10 d.exponent.toNat)
      (Nat.pow 10 (-d.exponent).toNat)).isFinite = true := by
    rw [ofRatio_eq false hrank]
    rfl
  have hden : (-d.exponent).toNat = 0 := by omega
  have hscaled : Nat.pow 10 d.exponent.toNat ≤ d.coefficient * Nat.pow 10 d.exponent.toNat :=
    Nat.le_mul_of_pos_left _ (Nat.pos_of_ne_zero hcoefficient)
  have hbound : overflowBound ≤ Nat.pow 10 d.exponent.toNat := overflowBound_le_pow (by omega)
  rw [isFinite_ofRatio_iff _ _ (pow_ten_pos _), hden, Nat.pow, Nat.mul_one] at hfinite
  exact absurd hfinite (Nat.not_lt.2 (Nat.le_trans hbound hscaled))

/-- A number has no more digits than their bound. -/
theorem lt_pow_digitBound (n : Nat) : n < Nat.pow 10 (digitBound n) := by
  have hbits : n < Nat.pow 2 (3 * digitBound n) := by
    apply Nat.lt_of_lt_of_le Nat.lt_log2_self
    apply Nat.pow_le_pow_right (by decide)
    unfold digitBound
    omega
  have height : Nat.pow 2 (3 * digitBound n) = Nat.pow 8 (digitBound n) := by
    simp only [Nat.pow_eq, pow_mul]
    rfl
  rw [height] at hbits
  exact Nat.lt_of_lt_of_le hbits (Nat.pow_le_pow_left (by decide) _)

/-- A decimal that does not round to zero is not below `10 ^ -400`. -/
theorem le_exponent {d : Decimal} (hrank : d.nearestRank ≠ 0) :
    -400 ≤ d.exponent + digitBound d.coefficient := by
  by_contra hsmall
  apply hrank
  have hnum : d.exponent.toNat = 0 := by omega
  obtain ⟨large, hlarge, hden⟩ : ∃ large : Nat, 401 ≤ large ∧
      (-d.exponent).toNat = large + digitBound d.coefficient :=
    ⟨(-d.exponent).toNat - digitBound d.coefficient, by omega, by omega⟩
  rw [Decimal.nearestRank, ← Nat.le_zero, nearestRank_le_iff _ (pow_ten_pos _), hnum, hden]
  left
  have hunits : units 0 + units (0 + 1) = 1 := rfl
  rw [hunits, Nat.one_mul]
  calc 2 * (d.coefficient * Nat.pow 10 0 * one) = 2 * one * d.coefficient := by
        simp only [Nat.pow_eq, pow_zero]
        ring
    _ ≤ Nat.pow 10 large * d.coefficient := Nat.mul_le_mul_right _ (two_mul_one_le_pow hlarge)
    _ < Nat.pow 10 large * Nat.pow 10 (digitBound d.coefficient) :=
        Nat.mul_lt_mul_of_pos_left (lt_pow_digitBound _) (pow_ten_pos _)
    _ = Nat.pow 10 (large + digitBound d.coefficient) := by
        simp only [Nat.pow_eq, ← pow_add]

/-- The number nearest to a decimal has the rank that the decimal rounds to. -/
theorem ofDecimal_eq {d : Decimal} (negative : Bool) (hpos : d.nearestRank ≠ 0)
    (hrank : d.nearestRank < overflowRank) :
    ofDecimal negative d.coefficient d.exponent = .finite negative ⟨d.nearestRank, hrank⟩ := by
  have hcoefficient := coefficient_ne_zero hpos
  have hlarge := exponent_le hcoefficient hrank
  have hsmall := le_exponent hpos
  unfold ofDecimal
  rw [if_neg hcoefficient, if_neg (by omega), if_neg (by omega)]
  exact ofRatio_eq negative hrank

end Decimal

/-! ## The shortest decimal -/

/-- The neighbour that is kept is read back as the number it was made from. -/
theorem nearestRank_of_neighbour? {rank : Nat} {exponent : Int} {d : Decimal}
    (h : neighbour? rank exponent = some d) : d.nearestRank = rank := by
  have hfound := List.find?_some h
  exact of_decide_eq_true hfound

/-- A magnitude is a decimal, which rounds to its rank. -/
theorem nearestRank_magnitude (rank : Nat) {n : Nat} (hone : one = Nat.pow 2 n) :
    Decimal.nearestRank ⟨units rank * Nat.pow 5 n, -(n : Int)⟩ = rank := by
  have hnum : (-(n : Int)).toNat = 0 ∧ (- -(n : Int)).toNat = n := by omega
  have hten : Nat.pow 10 n = Nat.pow 5 n * Nat.pow 2 n := Nat.mul_pow 5 2 n
  have hsame : nearestRank (units rank * Nat.pow 5 n * Nat.pow 10 0) (Nat.pow 10 n) =
      nearestRank (units rank) one := by
    apply nearestRank_congr (pow_ten_pos _) one_pos
    rw [hten, hone]
    simp only [Nat.pow_eq, pow_zero]
    ring
  rw [Decimal.nearestRank, hnum.1, hnum.2, hsame]
  exact nearestRank_units rank

/-- The shortest decimal of a rank rounds to the rank. -/
theorem nearestRank_shortest {rank : Nat} (h : rank ≠ 0) : (shortest rank).nearestRank = rank := by
  unfold shortest
  rw [if_neg h]
  simp only
  cases hfound : (List.range ((decimalPoint (units rank) + 1074).toNat + 1)).findSome?
      fun (i : Nat) => neighbour? rank (decimalPoint (units rank) - 1 - i) with
  | some d =>
    obtain ⟨i, -, hd⟩ := List.exists_of_findSome?_eq_some hfound
    exact nearestRank_of_neighbour? hd
  | none =>
    apply nearestRank_magnitude
    unfold one
    with_reducible rfl

end TokenAudit.Binary64
