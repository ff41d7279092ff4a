import TokenAudit.Proofs.Signal.Gathering
import TokenAudit.Proofs.Signal.RiskOrder

/-!
# A failed lookup is never taken for a safe one

A lookup has failed when its report is no dictionary or calls itself an error, and the question of
verification when it has no answer. Each failure shows in the rating by a reason of its own; each
but the last makes the level high, and the last makes it medium at least. Replacing reports by
failures therefore never lowers the level, although a failed honeypot report may well replace a
risky tax by none.
-/

set_option autoImplicit false

namespace TokenAudit

/-- Whether a report calls itself an error. -/
def reportsError : Datum → Bool
  | .dict entries =>
    match Datum.lookup? "status" entries with
    | some (.text status) => status == "error"
    | _ => false
  | _ => false

/-- Whether a lookup failed: its report is no dictionary, or calls itself an error. -/
def lookupFailed : Datum → Bool
  | .dict entries => reportsError (.dict entries)
  | _ => true

/-- Whether a question was left without an answer. -/
def unanswered : Datum → Bool
  | .null => true
  | _ => false

/-- A reason that is given when it applies. -/
def reasonIf (applies : Bool) (reason : RawText) : List RawText :=
  if applies then [reason] else []

namespace Reports

/-- The reasons that stand for the failed lookups, in the order of the checks. -/
def failureReasons (r : Reports) : List RawText :=
  reasonIf (lookupFailed r.honeypot) "Contract identified as potential honeypot" ++
    reasonIf (lookupFailed r.holders) "Top holder owns 100% of supply" ++
    reasonIf (lookupFailed r.liquidity) "Liquidity is not locked" ++
    reasonIf (unanswered r.verified) "Contract source code is not verified"

/-- The second reports are the first, some of them replaced by those of failed lookups; the answer
on verification may be lost or replaced by a report that calls itself an error. -/
structure DegradesTo (r r' : Reports) : Prop where
  honeypot : r'.honeypot = r.honeypot ∨ lookupFailed r'.honeypot = true
  holders : r'.holders = r.holders ∨ lookupFailed r'.holders = true
  liquidity : r'.liquidity = r.liquidity ∨ lookupFailed r'.liquidity = true
  verified : r'.verified = r.verified ∨ unanswered r'.verified = true ∨
    reportsError r'.verified = true

end Reports

/-! ## What the reports contribute -/

/-- A report has no entries to read exactly when its lookup failed. -/
theorem succeeded?_eq_none_iff {report : Datum} :
    succeeded? report = none ↔ lookupFailed report = true := by
  cases report with
  | dict entries =>
    simp only [succeeded?, lookupFailed, reportsError]
    cases Datum.lookup? "status" entries with
    | none => simp
    | some status =>
      cases status with
      | text status => by_cases h : status = "error" <;> simp [h]
      | _ => simp
  | _ => simp [succeeded?, lookupFailed]

/-- A failed honeypot report counts as one of a honeypot. -/
theorem honeypotFacts_of_failed {report : Datum} {facts : HoneypotFacts}
    (hfailed : lookupFailed report = true) (h : honeypotFacts report = .ok facts) :
    facts.honeypot = .bool true := by
  unfold honeypotFacts at h
  rw [succeeded?_eq_none_iff.2 hfailed] at h
  simp only at h
  split at h
  · obtain ⟨sellTax, -, h⟩ := bind_eq_ok_iff.1 h
    obtain ⟨buyTax, -, h⟩ := bind_eq_ok_iff.1 h
    cases h
    rfl
  · cases h
    rfl

/-- After a failed lookup the top holder has all. -/
theorem topHolderFact_of_failed {report : Datum} (hfailed : lookupFailed report = true) :
    topHolderFact report = .ok (.text "100%") := by
  unfold topHolderFact
  rw [succeeded?_eq_none_iff.2 hfailed]

/-- After a failed lookup no liquidity is locked. -/
theorem liquidityFacts_of_failed {report : Datum} (hfailed : lookupFailed report = true) :
    liquidityFacts report = .ok (.bool false, .text "0%") := by
  unfold liquidityFacts
  rw [succeeded?_eq_none_iff.2 hfailed]

/-- Without an answer the source code is not verified. -/
theorem verifiedFact_of_unanswered {answer : Datum} (h : unanswered answer = true) :
    verifiedFact answer = .ok false := by
  cases answer <;> simp_all [unanswered, verifiedFact]

/-- An answer that calls itself an error is no answer. -/
theorem verifiedFact_ne_of_reportsError {answer : Datum} {b : Bool}
    (h : reportsError answer = true) : verifiedFact answer ≠ .ok b := by
  cases answer <;> simp_all [reportsError, verifiedFact]

/-! ## What a failure makes of the rating -/

namespace Reports

variable {r r' : Reports} {s s' : Signals}

/-- A failed honeypot lookup counts as a honeypot. -/
theorem honeypot_of_failed (h : r.signals = .ok s) (hfailed : lookupFailed r.honeypot = true) :
    s.honeypot = true := by
  obtain ⟨facts, hgive, hread⟩ := signals_eq_ok_iff.1 h
  have hfact := honeypotFacts_of_failed hfailed hgive.honeypot
  obtain ⟨f, hf, hvalue⟩ := hread.honeypot
  cases hf
  have hhoneypot := Found.boolean_eq_ok_iff.1 hvalue
  simp only [Facts.value, hfact, Datum.bool.injEq] at hhoneypot
  exact hhoneypot.symm

/-- A share that the report on holders gives as a text is shown as that text. -/
theorem topHolderShare_of_text {content : RawText} (h : r.signals = .ok s)
    (hfact : topHolderFact r.holders = .ok (.text content)) :
    s.topHolderShare.shown = content ∧ textAmount? content = some s.topHolderShare.amount := by
  obtain ⟨facts, hgive, hread⟩ := signals_eq_ok_iff.1 h
  have hshare := hfact.symm.trans hgive.topHolder
  obtain ⟨f, hf, hvalue⟩ := hread.topHolderShare
  cases hf
  exact Found.percentage_of_text (Except.ok.inj hshare).symm hvalue

/-- A failed holder lookup counts as all in one hand. -/
theorem topHolderShare_of_failed (h : r.signals = .ok s)
    (hfailed : lookupFailed r.holders = true) :
    s.topHolderShare.shown = "100%" ∧ s.topHolderShare.amount = .ofInt 100 := by
  obtain ⟨hshown, hreads⟩ := topHolderShare_of_text h (topHolderFact_of_failed hfailed)
  have hall : textAmount? "100%" = some (.ofInt 100) := by decide +kernel
  exact ⟨hshown, Option.some.inj (hreads.symm.trans hall)⟩

/-- A failed liquidity lookup counts as unlocked. -/
theorem liquidityLocked_of_failed (h : r.signals = .ok s)
    (hfailed : lookupFailed r.liquidity = true) : s.liquidityLocked = false := by
  obtain ⟨facts, hgive, hread⟩ := signals_eq_ok_iff.1 h
  have hfact := (liquidityFacts_of_failed hfailed).symm.trans hgive.liquidity
  obtain ⟨f, hf, hvalue⟩ := hread.liquidityLocked
  cases hf
  have hlocked := Found.boolean_eq_ok_iff.1 hvalue
  simp only [Except.ok.injEq, Prod.mk.injEq] at hfact
  simp only [Facts.value, ← hfact.1, Datum.bool.injEq] at hlocked
  exact hlocked.symm

/-- A token is verified exactly when the answer says so. -/
theorem verified_eq (h : r.signals = .ok s) : verifiedFact r.verified = .ok s.verified := by
  obtain ⟨facts, hgive, hread⟩ := signals_eq_ok_iff.1 h
  obtain ⟨f, hf, hvalue⟩ := hread.verified
  cases hf
  have hverified := Found.boolean_eq_ok_iff.1 hvalue
  simp only [Facts.value, Datum.bool.injEq] at hverified
  rw [hgive.verified, hverified]

/-- A question of verification without an answer counts as unverified. -/
theorem verified_of_unanswered (h : r.signals = .ok s)
    (hnone : unanswered r.verified = true) : s.verified = false :=
  Except.ok.inj ((verified_eq h).symm.trans (verifiedFact_of_unanswered hnone))

/-- So the check for a honeypot asks for the high level. -/
theorem checkHoneypot_of_failed (h : r.signals = .ok s) (hfailed : lookupFailed r.honeypot = true) :
    s.checkHoneypot = .because .high "Contract identified as potential honeypot" := by
  unfold Signals.checkHoneypot
  rw [if_pos (honeypot_of_failed h hfailed)]

/-- So does the check of the top holder. -/
theorem checkTopHolder_of_failed (h : r.signals = .ok s) (hfailed : lookupFailed r.holders = true) :
    s.checkTopHolder = .because .high "Top holder owns 100% of supply" := by
  obtain ⟨hshown, hamount⟩ := topHolderShare_of_failed h hfailed
  have habove : holderShareHigh.lt s.topHolderShare.amount = true := by
    rw [hamount]
    decide +kernel
  unfold Signals.checkTopHolder Signals.topHolderReason
  rw [if_pos habove, hshown]
  rfl

/-- So does the check of the liquidity. -/
theorem checkLiquidity_of_failed (h : r.signals = .ok s)
    (hfailed : lookupFailed r.liquidity = true) :
    s.checkLiquidity = .because .high "Liquidity is not locked" := by
  unfold Signals.checkLiquidity
  rw [liquidityLocked_of_failed h hfailed]
  rfl

/-- The check of the verification asks for the middle level. -/
theorem checkVerified_of_unanswered (h : r.signals = .ok s)
    (hnone : unanswered r.verified = true) :
    s.checkVerified = .because .medium "Contract source code is not verified" := by
  unfold Signals.checkVerified
  rw [verified_of_unanswered h hnone]
  rfl

/-- A failed lookup of the first three makes the level high. -/
theorem level_of_failed (h : r.signals = .ok s)
    (hfailed : lookupFailed r.honeypot = true ∨ lookupFailed r.holders = true ∨
      lookupFailed r.liquidity = true) : s.rating.level = .high := by
  apply Grade.eq_high_of_le
  rcases hfailed with hfailed | hfailed | hfailed
  · have hle := s.checkHoneypot_level_le
    rwa [checkHoneypot_of_failed h hfailed] at hle
  · have hle := s.checkTopHolder_level_le
    rwa [checkTopHolder_of_failed h hfailed] at hle
  · have hle := s.checkLiquidity_level_le
    rwa [checkLiquidity_of_failed h hfailed] at hle

/-- Without an answer on verification the level is medium at least. -/
theorem level_of_unanswered (h : r.signals = .ok s) (hnone : unanswered r.verified = true) :
    Grade.medium ≤ s.rating.level := by
  have hle := s.checkVerified_level_le
  rwa [checkVerified_of_unanswered h hnone] at hle

/-- A reason that applies is among those of the check that gives it. -/
theorem reasonIf_sublist {applies : Bool} {reason : RawText} {level : Grade} {check : Rating}
    (h : applies = true → check = .because level reason) :
    (reasonIf applies reason).Sublist check.reasons := by
  unfold reasonIf
  split
  · next happlies =>
    rw [h happlies]
    exact List.Sublist.refl _
  · exact List.nil_sublist _

/-- The reasons of a rating hold those of the failed lookups, in order. -/
theorem failureReasons_sublist (h : r.signals = .ok s) :
    r.failureReasons.Sublist s.rating.reasons := by
  have h1 := reasonIf_sublist (checkHoneypot_of_failed h)
  have h2 := reasonIf_sublist (checkTopHolder_of_failed h)
  have h3 := reasonIf_sublist (checkLiquidity_of_failed h)
  have h4 := reasonIf_sublist (checkVerified_of_unanswered h)
  unfold failureReasons Signals.rating Signals.checks
  simp only [List.flatMap_cons, List.flatMap_nil, List.append_nil, List.append_assoc]
  refine h1.append (List.Sublist.trans (h2.append (h3.append h4)) ?_)
  exact (List.sublist_append_right _ _).trans (List.sublist_append_right _ _)

/-- Where only the answer on verification differs, the bundles differ in nothing else. -/
theorem signals_eq_with_verified (h : r.signals = .ok s) (h' : r'.signals = .ok s')
    (hhoneypot : r'.honeypot = r.honeypot) (hholders : r'.holders = r.holders)
    (hliquidity : r'.liquidity = r.liquidity) : s' = { s with verified := s'.verified } := by
  obtain ⟨facts, hgive, hread⟩ := signals_eq_ok_iff.1 h
  obtain ⟨facts', hgive', hread'⟩ := signals_eq_ok_iff.1 h'
  have h1 := hgive'.honeypot
  have h2 := hgive'.topHolder
  have h3 := hgive'.liquidity
  rw [hhoneypot, hgive.honeypot, Except.ok.injEq] at h1
  rw [hholders, hgive.topHolder, Except.ok.injEq] at h2
  rw [hliquidity, hgive.liquidity, Except.ok.injEq, Prod.mk.injEq] at h3
  obtain ⟨honeypot, topHolder, locked, share, verified⟩ := facts'
  simp only at h1 h2 h3
  subst h1 h2
  obtain ⟨rfl, rfl⟩ := h3
  have hboth : { s with verified := s'.verified }.ReadFrom
      (Facts.source ⟨facts.honeypot, facts.topHolder, facts.locked, facts.share, verified⟩) :=
    { hread with verified := hread'.verified }
  exact Except.ok.inj
    ((Signals.ofSource_eq_ok_iff.2 hread').symm.trans (Signals.ofSource_eq_ok_iff.2 hboth))

/-- Replacing reports by those of failed lookups never lowers the level. -/
theorem level_le_of_degradesTo (h : r.signals = .ok s) (h' : r'.signals = .ok s')
    (hworse : r.DegradesTo r') : s.rating.level ≤ s'.rating.level := by
  by_cases hfailed : lookupFailed r'.honeypot = true ∨ lookupFailed r'.holders = true ∨
      lookupFailed r'.liquidity = true
  · rw [level_of_failed h' hfailed]
    exact Grade.le_high _
  · -- no report was replaced but the answer on verification, which can only have been lost
    simp only [not_or] at hfailed
    have hhoneypot := hworse.honeypot.resolve_right hfailed.1
    have hholders := hworse.holders.resolve_right hfailed.2.1
    have hliquidity := hworse.liquidity.resolve_right hfailed.2.2
    rw [signals_eq_with_verified h h' hhoneypot hholders hliquidity]
    apply Signals.level_mono
    apply Signals.atMostAsRisky_with_verified
    intro hverified
    rcases hworse.verified with hsame | hnone | herror
    · have hanswer := verified_eq h'
      rw [hsame, verified_eq h, Except.ok.injEq] at hanswer
      rw [hanswer, hverified]
    · rw [verified_of_unanswered h' hnone] at hverified
      cases hverified
    · exact absurd (verified_eq h') (verifiedFact_ne_of_reportsError herror)

end Reports

/-- A failed lookup is never taken for a safe one: failures of the first three make the level high,
a missing answer on verification makes it medium at least, the reasons name every failure in the
order of the checks, and no replacement of reports by failed ones lowers the level. -/
theorem failed_lookups_never_safe {r : Reports} {s : Signals} (h : r.signals = .ok s) :
    (lookupFailed r.honeypot = true ∨ lookupFailed r.holders = true ∨
        lookupFailed r.liquidity = true → s.rating.level = .high) ∧
      (r.verified = .null → Grade.medium ≤ s.rating.level) ∧
      r.failureReasons.Sublist s.rating.reasons ∧
      ∀ r' s', r.DegradesTo r' → r'.signals = .ok s' → s.rating.level ≤ s'.rating.level := by
  refine ⟨Reports.level_of_failed h, ?_, Reports.failureReasons_sublist h, ?_⟩
  · intro hnull
    apply Reports.level_of_unanswered h
    rw [hnull]
    rfl
  · intro r' s' hworse h'
    exact Reports.level_le_of_degradesTo h h' hworse

/-- Reports of which the first failed with a risky tax on it, and the last has no answer. -/
def brokenReports : Reports where
  honeypot := .dict [("status", .text "error"), ("isHoneypot", .bool false),
    ("sellTax", .text "35%"), ("buyTax", .text "Unknown")]
  holders := .dict [("holders", .list [.dict [("percentage", .text "33%")]])]
  liquidity := .dict [("liquidity", .dict [("liquidityLocked", .bool true),
    ("lockPercentage", .int 80)])]
  verified := .null

/-- The bundle made of the broken reports. -/
def brokenSignals : Signals where
  honeypot := true
  sellTax := .text "35%" (.ofInt 35) (by decide +kernel)
  buyTax := .text "0%" (.ofInt 0) (by decide +kernel)
  topHolderShare := .text "33%" (.ofInt 33) (by decide +kernel)
  liquidityLocked := true
  liquidityLockShare := .number (.ofInt 80) (by decide +kernel)
  verified := false
  warnings := ["Unable to verify contract safety"]

/-- The broken reports make a bundle of high level, with a reason for either failure. -/
theorem failed_lookups_never_safe_broken :
    brokenReports.signals = .ok brokenSignals ∧ brokenSignals.rating.level = .high ∧
      brokenReports.failureReasons.Sublist brokenSignals.rating.reasons := by
  have h : brokenReports.signals = .ok brokenSignals := by decide +kernel
  obtain ⟨hlevel, -, hreasons, -⟩ := failed_lookups_never_safe h
  exact ⟨h, hlevel (.inl (by decide)), hreasons⟩

end TokenAudit
