import TokenAudit.Proofs.Outcome
import TokenAudit.Proofs.Signal.Reading
import TokenAudit.Signal.Reports

/-!
# Gathering a bundle from reports

Each report is reduced to facts on its own, the facts are the fields of a source, and that source is
read like any other. So what the reports make is known from what each of them gives.
-/

set_option autoImplicit false

namespace TokenAudit

/-- The facts that reports are reduced to. -/
structure Reports.Facts where
  honeypot : HoneypotFacts
  topHolder : Datum
  locked : Datum
  share : Datum
  verified : Bool

/-- The facts that the reports give, each report for itself. -/
structure Reports.Give (r : Reports) (facts : Reports.Facts) : Prop where
  honeypot : honeypotFacts r.honeypot = .ok facts.honeypot
  topHolder : topHolderFact r.holders = .ok facts.topHolder
  liquidity : liquidityFacts r.liquidity = .ok (facts.locked, facts.share)
  verified : verifiedFact r.verified = .ok facts.verified

/-- The value of a field among gathered facts. -/
def Reports.Facts.value (facts : Reports.Facts) : SignalField → Datum
  | .honeypot => facts.honeypot.honeypot
  | .sellTax => facts.honeypot.sellTax
  | .buyTax => facts.honeypot.buyTax
  | .topHolderShare => facts.topHolder
  | .liquidityLocked => facts.locked
  | .liquidityLockShare => facts.share
  | .verified => .bool facts.verified
  | .warnings => facts.honeypot.warnings

/-- The fields of gathered facts, under their plain names. -/
def Reports.Facts.source (facts : Reports.Facts) : FieldSource := fun field =>
  some ⟨field.plainName, facts.value field⟩

/-- Reports make a bundle exactly when each gives its facts and the facts read as the bundle. -/
theorem Reports.signals_eq_ok_iff {r : Reports} {s : Signals} :
    r.signals = .ok s ↔ ∃ facts, r.Give facts ∧ s.ReadFrom facts.source := by
  unfold Reports.signals
  constructor
  · intro h
    obtain ⟨honeypot, h1, h⟩ := bind_eq_ok_iff.1 h
    obtain ⟨topHolder, h2, h⟩ := bind_eq_ok_iff.1 h
    obtain ⟨⟨locked, share⟩, h3, h⟩ := bind_eq_ok_iff.1 h
    obtain ⟨verified, h4, h⟩ := bind_eq_ok_iff.1 h
    refine ⟨⟨honeypot, topHolder, locked, share, verified⟩, ⟨h1, h2, h3, h4⟩, ?_⟩
    exact Signals.ofSource_eq_ok_iff.1 (mapError_eq_ok_iff.1 h)
  · rintro ⟨facts, hgive, hread⟩
    refine bind_eq_ok_iff.2 ⟨_, hgive.honeypot, ?_⟩
    refine bind_eq_ok_iff.2 ⟨_, hgive.topHolder, ?_⟩
    refine bind_eq_ok_iff.2 ⟨_, hgive.liquidity, ?_⟩
    refine bind_eq_ok_iff.2 ⟨_, hgive.verified, ?_⟩
    exact mapError_eq_ok_iff.2 (Signals.ofSource_eq_ok_iff.2 hread)

end TokenAudit
