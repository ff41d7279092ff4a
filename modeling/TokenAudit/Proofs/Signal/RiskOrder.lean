import TokenAudit.Proofs.Binary64.Order
import TokenAudit.Proofs.Signal.Reading
import TokenAudit.Signal.Rating

/-!
# Risk never lowers the level

Bundles are ordered by the signals that are rated: a honeypot is riskier than none, a higher sell
tax or top holder's share than a lower one, unlocked liquidity or a smaller locked share than more
of it, unverified code than verified code. The buy tax and the warnings do not count. Each check
asks for at least as much of the riskier bundle, and so its rating has at least the level.
-/

set_option autoImplicit false

namespace TokenAudit

/-- The second bundle is at least as risky as the first in every signal that is rated. -/
structure Signals.AtMostAsRisky (s s' : Signals) : Prop where
  honeypot : s.honeypot = true → s'.honeypot = true
  sellTax : s.sellTax.amount.le s'.sellTax.amount = true
  topHolderShare : s.topHolderShare.amount.le s'.topHolderShare.amount = true
  liquidityLocked : s'.liquidityLocked = true → s.liquidityLocked = true
  liquidityLockShare : s'.liquidityLockShare.amount.le s.liquidityLockShare.amount = true
  verified : s'.verified = true → s.verified = true

/-- A percentage is a number. -/
theorem Percentage.amount_ne_nan (p : Percentage) : p.amount ≠ .nan := by
  cases p with
  | text content x reads =>
    obtain ⟨spelled, -, rfl⟩ := Option.map_eq_some_iff.1 reads
    exact Binary64.ofRatio_ne_nan _ _ _
  | number x finite =>
    intro h
    rw [show x = .nan from h] at finite
    cases finite

/-- A bundle that loses its verification, if anything, is at least as risky. -/
theorem Signals.atMostAsRisky_with_verified {s : Signals} {verified : Bool}
    (h : verified = true → s.verified = true) : s.AtMostAsRisky { s with verified } where
  honeypot := id
  sellTax := Binary64.le_self_of_ne_nan s.sellTax.amount_ne_nan
  topHolderShare := Binary64.le_self_of_ne_nan s.topHolderShare.amount_ne_nan
  liquidityLocked := id
  liquidityLockShare := Binary64.le_self_of_ne_nan s.liquidityLockShare.amount_ne_nan
  verified := h

namespace Rating

/-- A check with one condition asks for no less when the condition holds more often. -/
theorem level_ite_mono {p q : Prop} [Decidable p] [Decidable q] (g : Grade)
    (reason reason' : RawText) (h : p → q) :
    (if p then Rating.because g reason else .clear).level ≤
      (if q then Rating.because g reason' else .clear).level := by
  by_cases hp : p
  · rw [if_pos hp, if_pos (h hp)]
    exact Grade.le_refl g
  · rw [if_neg hp]
    exact Grade.low_le _

/-- A check with a grave and a milder condition asks for no less when both hold more often. -/
theorem level_chain_mono {p q p' q' : Prop} [Decidable p] [Decidable q] [Decidable p']
    [Decidable q'] (grave mild grave' mild' : RawText) (hp : p → p') (hq : q → q') :
    (if p then Rating.because .high grave
      else if q then Rating.because .medium mild else .clear).level ≤
    (if p' then Rating.because .high grave'
      else if q' then Rating.because .medium mild' else .clear).level := by
  by_cases h' : p'
  · rw [if_pos h']
    exact Grade.le_high _
  · rw [if_neg h', if_neg fun h => h' (hp h)]
    exact level_ite_mono .medium mild mild' hq

end Rating

namespace Signals

variable {s s' : Signals}

/-- The check for a honeypot asks for no less of a token at least as risky. -/
theorem checkHoneypot_mono (h : s.AtMostAsRisky s') :
    s.checkHoneypot.level ≤ s'.checkHoneypot.level := by
  unfold checkHoneypot
  exact Rating.level_ite_mono _ _ _ h.honeypot

/-- Neither does the check of the sell tax. -/
theorem checkSellTax_mono (h : s.AtMostAsRisky s') :
    s.checkSellTax.level ≤ s'.checkSellTax.level := by
  unfold checkSellTax
  exact Rating.level_ite_mono _ _ _ fun hlt => Binary64.lt_of_lt_of_le hlt h.sellTax

/-- Neither does the check of the top holder. -/
theorem checkTopHolder_mono (h : s.AtMostAsRisky s') :
    s.checkTopHolder.level ≤ s'.checkTopHolder.level := by
  unfold checkTopHolder
  apply Rating.level_chain_mono
  · intro hlt
    exact Binary64.lt_of_lt_of_le hlt h.topHolderShare
  · intro hlt
    exact Binary64.lt_of_lt_of_le hlt h.topHolderShare

/-- Neither does the check of the liquidity. -/
theorem checkLiquidity_mono (h : s.AtMostAsRisky s') :
    s.checkLiquidity.level ≤ s'.checkLiquidity.level := by
  unfold checkLiquidity
  apply Rating.level_chain_mono
  · intro hopen
    simp only [Bool.not_eq_true'] at hopen ⊢
    rw [Bool.eq_false_iff] at hopen ⊢
    exact fun hlocked => hopen (h.liquidityLocked hlocked)
  · intro hlt
    exact Binary64.lt_of_le_of_lt h.liquidityLockShare hlt

/-- Neither does the check of the verification. -/
theorem checkVerified_mono (h : s.AtMostAsRisky s') :
    s.checkVerified.level ≤ s'.checkVerified.level := by
  unfold checkVerified
  by_cases hverified : s'.verified = true
  · rw [if_pos hverified, if_pos (h.verified hverified)]
    exact Grade.le_refl _
  · rw [if_neg hverified]
    split
    · exact Grade.low_le _
    · exact Grade.le_refl _

/-- The level of a riskier bundle is at least as high: each check of the first is answered by the
same check of the second. -/
theorem level_mono (h : s.AtMostAsRisky s') : s.rating.level ≤ s'.rating.level := by
  rw [level_le_iff]
  intro check hcheck
  rcases mem_checks.1 hcheck with hc | hc | hc | hc | hc | hc
  · rw [hc]
    exact Grade.le_trans (checkHoneypot_mono h) s'.checkHoneypot_level_le
  · -- warnings raise no level, so those of the second bundle need not answer them
    rw [hc]
    exact Grade.low_le _
  · rw [hc]
    exact Grade.le_trans (checkSellTax_mono h) s'.checkSellTax_level_le
  · rw [hc]
    exact Grade.le_trans (checkTopHolder_mono h) s'.checkTopHolder_level_le
  · rw [hc]
    exact Grade.le_trans (checkLiquidity_mono h) s'.checkLiquidity_level_le
  · rw [hc]
    exact Grade.le_trans (checkVerified_mono h) s'.checkVerified_level_le

end Signals

/-- Of two values that make bundles, the riskier has a rating of at least the level. -/
theorem rating_level_mono {d d' : Datum} {s s' : Signals} (hd : Signals.ofDatum d = .ok s)
    (hd' : Signals.ofDatum d' = .ok s') (h : s.AtMostAsRisky s') :
    ∃ r r', d.rating = .ok r ∧ d'.rating = .ok r' ∧ r.level ≤ r'.level := by
  refine ⟨s.rating, s'.rating, ?_, ?_, Signals.level_mono h⟩
  · rw [Datum.rating, hd]
    rfl
  · rw [Datum.rating, hd']
    rfl

/-- A token without a blemish but for its top holder. -/
def quietSignals : Signals where
  honeypot := false
  sellTax := .text "5%" (.ofInt 5) (by decide +kernel)
  buyTax := .text "2%" (.ofInt 2) (by decide +kernel)
  topHolderShare := .text "25%" (.ofInt 25) (by decide +kernel)
  liquidityLocked := true
  liquidityLockShare := .text "70%" (.ofInt 70) (by decide +kernel)
  verified := true
  warnings := []

/-- The same token with more in the hands of its top holder, less of it locked, and higher taxes,
some of them given as numbers. -/
def riskySignals : Signals where
  honeypot := false
  sellTax := .number (.ofRatio false 21 2) (by decide +kernel)
  buyTax := .number (.ofInt 90) (by decide +kernel)
  topHolderShare := .text "50.01%" (.ofRatio false 5001 100) (by decide +kernel)
  liquidityLocked := true
  liquidityLockShare := .text "59.9%" (.ofRatio false 599 10) (by decide +kernel)
  verified := false
  warnings := ["Trading can be paused"]

/-- A token whose top holder comes to hold more than one half is rated no lower than before. -/
theorem rating_level_mono_quiet_risky :
    ∃ r r', quietSignals.toDatum.rating = .ok r ∧ riskySignals.toDatum.rating = .ok r' ∧
      r.level ≤ r'.level := by
  refine rating_level_mono quietSignals.ofDatum_toDatum riskySignals.ofDatum_toDatum ?_
  constructor <;> decide +kernel

end TokenAudit
