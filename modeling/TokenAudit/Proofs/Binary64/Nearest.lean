import TokenAudit.Proofs.Binary64.Rounding

/-!
# The nearest floating-point number

A quotient lies at some distance from each magnitude. The rank that it rounds to is the one whose
magnitude is nearest, and of two that are nearest the even one; there is exactly one such rank.
Ranks go on beyond the finite numbers as if exponents had no bound, and stand for an infinity
there.
-/

set_option autoImplicit false

namespace TokenAudit.Binary64

/-- The distance of a quotient from the magnitude of a rank, in units of `2 ^ -1074` times the
denominator. -/
def distance (num den rank : Nat) : Nat :=
  (num * one - units rank * den) + (units rank * den - num * one)

/-- A rank is nearest to a quotient: no magnitude is nearer, and if another one is as near, the rank
is even. -/
structure IsNearest (num den rank : Nat) : Prop where
  nearest : ∀ other, distance num den rank ≤ distance num den other
  even : ∀ other, other ≠ rank → distance num den other = distance num den rank → rank % 2 = 0

/-- A number is nearest to a quotient with a sign: it has the sign and the nearest rank. -/
def NearestTo (x : Binary64) (negative : Bool) (num den : Nat) : Prop :=
  ∃ rank, IsNearest num den rank ∧ x = ofRank negative rank

variable {num den : Nat}

/-- A quotient that rounds to a rank lies at most in the middle of the gap after the rank, and in
the middle only if the rank is even. -/
theorem le_middle_after (num : Nat) (hden : 0 < den) :
    2 * (num * one) ≤ units (nearestRank num den) * den + units (nearestRank num den + 1) * den ∧
      (2 * (num * one) =
          units (nearestRank num den) * den + units (nearestRank num den + 1) * den →
        nearestRank num den % 2 = 0) := by
  have hself := (nearestRank_le_iff num hden (nearestRank num den)).1 (Nat.le_refl _)
  rw [Nat.add_mul] at hself
  omega

/-- A quotient that rounds to a rank lies at least in the middle of the gap before the rank, and in
the middle only if the rank is even. -/
theorem middle_before_le (hden : 0 < den) {before : Nat} (h : nearestRank num den = before + 1) :
    units before * den + units (before + 1) * den ≤ 2 * (num * one) ∧
      (2 * (num * one) = units before * den + units (before + 1) * den →
        (before + 1) % 2 = 0) := by
  have hnot : ¬ nearestRank num den ≤ before := by omega
  rw [nearestRank_le_iff num hden, Nat.add_mul] at hnot
  omega

/-- Magnitudes that are scaled by a denominator grow with their ranks. -/
theorem scaledUnits_strictMono (hden : 0 < den) : StrictMono fun rank => units rank * den :=
  fun _ _ h => Nat.mul_lt_mul_of_pos_right (units_strictMono h) hden

/-- The rank that a quotient rounds to is nearest to it. -/
theorem isNearest_nearestRank (num : Nat) (hden : 0 < den) :
    IsNearest num den (nearestRank num den) := by
  have hmono := scaledUnits_strictMono hden
  obtain ⟨hafter, hafterEven⟩ := le_middle_after num hden
  have hgap : units (nearestRank num den) * den < units (nearestRank num den + 1) * den :=
    hmono (Nat.lt_succ_self _)
  -- what is not the rank itself lies past one of the two gaps that enclose the quotient
  have hother : ∀ other, other ≠ nearestRank num den →
      distance num den (nearestRank num den) ≤ distance num den other ∧
        (distance num den other = distance num den (nearestRank num den) →
          nearestRank num den % 2 = 0) := by
    intro other hne
    unfold distance
    rcases Nat.lt_or_gt_of_ne hne with hlt | hgt
    · obtain ⟨before, hbefore⟩ : ∃ before, nearestRank num den = before + 1 :=
        Nat.exists_eq_succ_of_ne_zero (by omega)
      obtain ⟨hmiddle, hmiddleEven⟩ := middle_before_le hden hbefore
      have hle : units other * den ≤ units before * den := hmono.monotone (by omega)
      have hstep : units before * den < units (before + 1) * den := hmono (Nat.lt_succ_self _)
      rw [hbefore] at hafter hgap ⊢
      omega
    · have hle : units (nearestRank num den + 1) * den ≤ units other * den := hmono.monotone hgt
      omega
  constructor
  · intro other
    by_cases h : other = nearestRank num den
    · rw [h]
    · exact (hother other h).1
  · intro other h
    exact (hother other h).2

/-- No two ranks are nearest to one quotient: between two that were as near and even there would be
a nearer one. -/
theorem IsNearest.not_lt (hden : 0 < den) {rank rank' : Nat} (h : IsNearest num den rank)
    (h' : IsNearest num den rank') : ¬ rank < rank' := by
  intro hlt
  have hmono := scaledUnits_strictMono hden
  have hsame : distance num den rank = distance num den rank' :=
    Nat.le_antisymm (h.nearest rank') (h'.nearest rank)
  have heven := h.even rank' (by omega) hsame.symm
  have heven' := h'.even rank (by omega) hsame
  have hbetween := h.nearest (rank + 1)
  have hleft : units rank * den < units (rank + 1) * den := hmono (Nat.lt_succ_self _)
  have hright : units (rank + 1) * den < units rank' * den := hmono (by omega)
  unfold distance at hsame hbetween
  omega

/-- A rank is nearest to a quotient exactly when the quotient rounds to it. -/
theorem isNearest_iff (hden : 0 < den) {rank : Nat} :
    IsNearest num den rank ↔ nearestRank num den = rank := by
  have hrounded := isNearest_nearestRank num hden
  constructor
  · intro h
    exact Nat.le_antisymm (Nat.le_of_not_lt (h.not_lt hden hrounded))
      (Nat.le_of_not_lt (hrounded.not_lt hden h))
  · rintro rfl
    exact hrounded

/-- A number is nearest to a quotient exactly when the quotient rounds to it. -/
theorem nearestTo_iff {x : Binary64} {negative : Bool} (hden : 0 < den) :
    x.NearestTo negative num den ↔ ofRatio negative num den = x := by
  simp only [NearestTo, isNearest_iff hden, exists_eq_left']
  exact eq_comm

end TokenAudit.Binary64
