import TokenAudit.Note
import TokenAudit.Signal.Bundle

/-!
# Rating a token

Six checks in a fixed order, each of which may raise the risk level and add reasons. The rating is
the highest level any check asks for, and all their reasons in order. Main statement: the level of a
rating is at least the level of each of its checks.
-/

set_option autoImplicit false

namespace TokenAudit

/-- A risk level and the reasons for it: the result of one check, or of all. -/
structure Rating where
  level : Grade
  reasons : List RawText
  deriving DecidableEq

/-- A check that asks for nothing. -/
def Rating.clear : Rating :=
  { level := .low, reasons := [] }

/-- A check that asks for a level for one reason. -/
def Rating.because (level : Grade) (reason : RawText) : Rating :=
  { level, reasons := [reason] }

/-- A sell tax above this limit is high. -/
def sellTaxLimit : Binary64 := .ofInt 10

/-- A top holder's share above this limit raises the level to medium. -/
def holderShareMedium : Binary64 := .ofInt 20

/-- A top holder's share above this limit raises the level to high. -/
def holderShareHigh : Binary64 := .ofInt 50

/-- A locked share of liquidity below this limit is small. -/
def liquidityLockMinimum : Binary64 := .ofInt 60

namespace Signals

/-- Is the contract a honeypot? -/
def checkHoneypot (s : Signals) : Rating :=
  if s.honeypot then .because .high "Contract identified as potential honeypot" else .clear

/-- Warnings are passed on and raise nothing. -/
def checkWarnings (s : Signals) : Rating :=
  { level := .low, reasons := s.warnings }

/-- Is selling taxed highly? -/
def checkSellTax (s : Signals) : Rating :=
  if sellTaxLimit.lt s.sellTax.amount then
    .because .medium ("High sell tax (" ++ s.sellTax.shown ++ ")")
  else .clear

/-- The reason given for a concentrated supply. -/
def topHolderReason (s : Signals) : RawText :=
  "Top holder owns " ++ s.topHolderShare.shown ++ " of supply"

/-- Is the supply in one hand? -/
def checkTopHolder (s : Signals) : Rating :=
  if holderShareHigh.lt s.topHolderShare.amount then .because .high s.topHolderReason
  else if holderShareMedium.lt s.topHolderShare.amount then .because .medium s.topHolderReason
  else .clear

/-- Is the liquidity locked, and enough of it? -/
def checkLiquidity (s : Signals) : Rating :=
  if !s.liquidityLocked then .because .high "Liquidity is not locked"
  else if s.liquidityLockShare.amount.lt liquidityLockMinimum then
    .because .medium ("Only " ++ s.liquidityLockShare.shown ++ " of liquidity is locked")
  else .clear

/-- Is the source code verified? -/
def checkVerified (s : Signals) : Rating :=
  if s.verified then .clear else .because .medium "Contract source code is not verified"

/-- The checks in order. -/
def checks (s : Signals) : List Rating :=
  [ s.checkHoneypot, s.checkWarnings, s.checkSellTax, s.checkTopHolder, s.checkLiquidity,
    s.checkVerified ]

/-- The rating of a bundle. -/
def rating (s : Signals) : Rating :=
  { level := s.checks.foldl (fun level check => level.atLeast check.level) .low
    reasons := s.checks.flatMap (·.reasons) }

end Signals

/-- Raising a grade by checks in turn gives the least grade above it and all of theirs. -/
theorem foldl_atLeast_le_iff (checks : List Rating) (start g : Grade) :
    checks.foldl (fun level check => level.atLeast check.level) start ≤ g ↔
      start ≤ g ∧ ∀ check ∈ checks, check.level ≤ g := by
  induction checks generalizing start with
  | nil => simp
  | cons check checks ih =>
    rw [List.foldl_cons, ih, Grade.atLeast_le_iff, List.forall_mem_cons, and_assoc]

namespace Signals

/-- There are six checks. -/
theorem mem_checks {s : Signals} {check : Rating} :
    check ∈ s.checks ↔ check = s.checkHoneypot ∨ check = s.checkWarnings ∨
      check = s.checkSellTax ∨ check = s.checkTopHolder ∨ check = s.checkLiquidity ∨
      check = s.checkVerified := by
  simp only [checks, List.mem_cons, List.not_mem_nil, or_false]

/-- The level of a rating is the least grade above those of its checks. -/
theorem level_le_iff {s : Signals} {g : Grade} :
    s.rating.level ≤ g ↔ ∀ check ∈ s.checks, check.level ≤ g := by
  rw [rating, foldl_atLeast_le_iff]
  exact and_iff_right (Grade.low_le g)

/-- The level of a rating is at least the level of each of its checks. -/
theorem le_level {s : Signals} {check : Rating} (h : check ∈ s.checks) :
    check.level ≤ s.rating.level :=
  level_le_iff.1 (Grade.le_refl s.rating.level) check h

variable (s : Signals)

/-- The rating is at least as high as the check for a honeypot. -/
theorem checkHoneypot_level_le : s.checkHoneypot.level ≤ s.rating.level :=
  le_level (mem_checks.2 (.inl rfl))

/-- It is at least as high as the check of the sell tax. -/
theorem checkSellTax_level_le : s.checkSellTax.level ≤ s.rating.level :=
  le_level (mem_checks.2 (.inr (.inr (.inl rfl))))

/-- It is at least as high as the check of the top holder. -/
theorem checkTopHolder_level_le : s.checkTopHolder.level ≤ s.rating.level :=
  le_level (mem_checks.2 (.inr (.inr (.inr (.inl rfl)))))

/-- It is at least as high as the check of the liquidity. -/
theorem checkLiquidity_level_le : s.checkLiquidity.level ≤ s.rating.level :=
  le_level (mem_checks.2 (.inr (.inr (.inr (.inr (.inl rfl))))))

/-- It is at least as high as the check of the verification. -/
theorem checkVerified_level_le : s.checkVerified.level ≤ s.rating.level :=
  le_level (mem_checks.2 (.inr (.inr (.inr (.inr (.inr rfl))))))

end Signals

/-- The note on a rating. -/
def Rating.note (r : Rating) : Note :=
  .rated r.reasons.length r.level

/-- Rates a decoded value. -/
def Datum.rating (d : Datum) : Except SignalFault Rating :=
  (Signals.ofDatum d).map Signals.rating

end TokenAudit
