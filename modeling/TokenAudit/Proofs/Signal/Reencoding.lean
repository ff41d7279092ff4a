import TokenAudit.Proofs.Signal.ReasonTrail
import TokenAudit.Proofs.Signal.ReportFaults

/-!
# Accepted bundles stay good

A percentage is kept as it was given, a text verbatim and any other value by its number, and what is
kept can be read again. So no check of an accepted bundle fails on a percentage, whether the bundle
was read from a dictionary or gathered from reports; and the dictionary that it is written to reads
as the same bundle, and is rated as the bundle is and as what it was read from.
-/

set_option autoImplicit false

namespace TokenAudit

/-! ## Rating with the percentages read again -/

/-- The rating that the outcomes of checks make together. -/
def Rating.combined (checks : List Rating) : Rating where
  level := checks.foldl (fun level check => level.atLeast check.level) .low
  reasons := checks.flatMap (·.reasons)

namespace Signals

/-- The check of the sell tax, which is read again from what is kept of it. -/
def recheckSellTax (s : Signals) : Except PercentageFault Rating := do
  let tax ← s.sellTax.toDatum.amount
  return if sellTaxLimit.lt tax then .because .medium s.sellTaxReason else .clear

/-- The check of the top holder, whose share is read again. -/
def recheckTopHolder (s : Signals) : Except PercentageFault Rating := do
  let share ← s.topHolderShare.toDatum.amount
  return if holderShareHigh.lt share then .because .high s.topHolderReason
    else if holderShareMedium.lt share then .because .medium s.topHolderReason
    else .clear

/-- The check of the liquidity; the locked share is read again, unless nothing is locked. -/
def recheckLiquidity (s : Signals) : Except PercentageFault Rating :=
  if s.liquidityLocked then do
    let share ← s.liquidityLockShare.toDatum.amount
    return if share.lt liquidityLockMinimum then .because .medium s.lockShareReason else .clear
  else .ok (.because .high unlockedReason)

/-- The rating of a bundle with its percentages read again, check by check. -/
def rerating (s : Signals) : Except PercentageFault Rating := do
  let sellTax ← s.recheckSellTax
  let topHolder ← s.recheckTopHolder
  let liquidity ← s.recheckLiquidity
  return .combined
    [s.checkHoneypot, s.checkWarnings, sellTax, topHolder, liquidity, s.checkVerified]

variable {s : Signals}

/-- Checked once more, the sell tax gives the same. -/
theorem recheckSellTax_eq (s : Signals) : s.recheckSellTax = .ok s.checkSellTax := by
  unfold recheckSellTax
  rw [Percentage.amount_toDatum]
  rfl

/-- So does the share of the top holder. -/
theorem recheckTopHolder_eq (s : Signals) : s.recheckTopHolder = .ok s.checkTopHolder := by
  unfold recheckTopHolder
  rw [Percentage.amount_toDatum]
  rfl

/-- So does the liquidity. -/
theorem recheckLiquidity_eq (s : Signals) : s.recheckLiquidity = .ok s.checkLiquidity := by
  unfold recheckLiquidity checkLiquidity
  rw [Percentage.amount_toDatum]
  cases s.liquidityLocked with
  | true => rfl
  | false => rfl

/-- Reading the percentages again changes nothing, and none of the readings fails. -/
theorem rerating_eq (s : Signals) : s.rerating = .ok s.rating := by
  unfold rerating
  rw [recheckSellTax_eq, recheckTopHolder_eq, recheckLiquidity_eq]
  rfl

/-! ## The dictionary of a bundle -/

/-- A percentage stands in the dictionary of its bundle as it is kept. -/
theorem toDatum_has_of_percentageAt? {field : SignalField} {p : Percentage}
    (hp : s.percentageAt? field = some p) : s.toDatum.Has field.wireName p.toDatum := by
  cases field with
  | sellTax =>
    cases hp
    exact ⟨_, rfl, rfl⟩
  | buyTax =>
    cases hp
    exact ⟨_, rfl, rfl⟩
  | topHolderShare =>
    cases hp
    exact ⟨_, rfl, rfl⟩
  | liquidityLockShare =>
    cases hp
    exact ⟨_, rfl, rfl⟩
  | _ => cases hp

/-- The bundle and the dictionary that it is written to are rated alike, that dictionary reads as
the bundle, and each percentage is the one that was found in the source: a text stands in the
dictionary verbatim. -/
structure Reencodes (source : FieldSource) (s : Signals) : Prop where
  rerated : s.rerating = .ok s.rating
  reread : Signals.ofDatum s.toDatum = .ok s
  rated : s.toDatum.rating = .ok s.rating
  kept : ∀ field p, s.percentageAt? field = some p →
    s.toDatum.Has field.wireName p.toDatum ∧ ∃ f, source field = some f ∧ f.value.KeptAs p
  verbatim : ∀ field ∈ SignalField.percentages, ∀ f content, source field = some f →
    f.value = .text content → s.toDatum.Has field.wireName (.text content)

/-- The rating of a value that reads as a bundle is that of the bundle. -/
theorem rating_of_ofDatum {d : Datum} (h : Signals.ofDatum d = .ok s) :
    d.rating = .ok s.rating := by
  rw [Datum.rating, h]
  rfl

/-- A bundle has a percentage in each field for one. -/
theorem exists_percentageAt? {field : SignalField} (h : field ∈ SignalField.percentages)
    (s : Signals) : ∃ p, s.percentageAt? field = some p := by
  simp only [SignalField.percentages, List.mem_cons, List.not_mem_nil, or_false] at h
  rcases h with rfl | rfl | rfl | rfl
  · exact ⟨_, rfl⟩
  · exact ⟨_, rfl⟩
  · exact ⟨_, rfl⟩
  · exact ⟨_, rfl⟩

/-- A text that is kept as a percentage is given back verbatim. -/
theorem toDatum_of_keptAs_text {content : RawText} {p : Percentage}
    (h : (Datum.text content).KeptAs p) : p.toDatum = .text content := by
  cases h with
  | text reads => rfl
  | number other => exact absurd rfl (other content)

/-- What is read from a source stays good. -/
theorem ReadFrom.reencodes {source : FieldSource} (h : s.ReadFrom source) : s.Reencodes source where
  rerated := s.rerating_eq
  reread := s.ofDatum_toDatum
  rated := rating_of_ofDatum s.ofDatum_toDatum
  kept := by
    intro field p hp
    obtain ⟨f, hf, hread⟩ := h.percentageAt? hp
    exact ⟨toDatum_has_of_percentageAt? hp, f, hf, Found.percentage_eq_ok_iff.1 hread⟩
  verbatim := by
    intro field hfield f content hf hcontent
    obtain ⟨p, hp⟩ := s.exists_percentageAt? hfield
    obtain ⟨f', hf', hread⟩ := h.percentageAt? hp
    cases hf.symm.trans hf'
    have hkept := Found.percentage_eq_ok_iff.1 hread
    rw [hcontent] at hkept
    rw [← toDatum_of_keptAs_text hkept]
    exact toDatum_has_of_percentageAt? hp

end Signals

/-- A bundle that is read from a value or gathered from reports stays good: no check fails on a
percentage that is read again, and the dictionary it is written to reads as the bundle, with every
text verbatim. The value, the bundle and that dictionary have one rating. -/
theorem accepted_bundles_reencode :
    (∀ (d : Datum) (s : Signals), Signals.ofDatum d = .ok s →
      d.rating = .ok s.rating ∧ ∃ entries, d = .dict entries ∧
        s.Reencodes (dictionarySource entries)) ∧
    ∀ (r : Reports) (s : Signals), r.signals = .ok s →
      ∃ facts : Reports.Facts, r.Give facts ∧ s.Reencodes facts.source := by
  constructor
  · intro d s h
    refine ⟨Signals.rating_of_ofDatum h, ?_⟩
    cases d with
    | dict entries => exact ⟨entries, rfl, (Signals.ofSource_eq_ok_iff.1 h).reencodes⟩
    | _ => cases h
  · intro r s h
    obtain ⟨facts, hgive, hread⟩ := Reports.signals_eq_ok_iff.1 h
    exact ⟨facts, hgive, hread.reencodes⟩

/-- A bundle with a whole number for a tax, percentages in texts of several shapes, and a key that
names no field. -/
def looseBundle : Datum :=
  .dict
    [ ("honeypot", .bool false), ("sell_tax", .int 12), ("buyTax", .text "+.5 percent"),
      ("topHolderShare", .text " 7.50% of it"), ("liquidityLocked", .bool true),
      ("liquidityLockShare", .text "61"), ("verified", .bool true),
      ("warnings", .list [.text "Fees can change"]), ("chain", .null) ]

/-- Reports of the same facts. -/
def looseReports : Reports where
  honeypot := .dict [("isHoneypot", .bool false), ("sellTax", .int 12),
    ("buyTax", .text "+.5 percent"), ("warnings", .list [.text "Fees can change"])]
  holders := .dict [("holders", .list [.dict [("percentage", .text " 7.50% of it")]])]
  liquidity := .dict [("liquidityLocked", .bool true), ("lockPercentage", .text "61")]
  verified := .bool true

/-- The bundle of these facts. -/
def looseSignals : Signals where
  honeypot := false
  sellTax := .number (.ofInt 12) (by decide +kernel)
  buyTax := .text "+.5 percent" (.ofRatio false 1 2) (by decide +kernel)
  topHolderShare := .text " 7.50% of it" (.ofRatio false 15 2) (by decide +kernel)
  liquidityLocked := true
  liquidityLockShare := .text "61" (.ofInt 61) (by decide +kernel)
  verified := true
  warnings := ["Fees can change"]

/-- The texts of the loose bundle are given back as they came, from either way to it. -/
theorem accepted_bundles_reencode_looseBundle :
    Signals.ofDatum looseBundle = .ok looseSignals ∧ looseReports.signals = .ok looseSignals ∧
      looseBundle.rating = .ok looseSignals.rating ∧
      looseSignals.rerating = .ok looseSignals.rating ∧
      looseSignals.toDatum.Has "topHolderShare" (.text " 7.50% of it") ∧
      looseSignals.toDatum.Has "buyTax" (.text "+.5 percent") := by
  obtain ⟨hdatum, hreports⟩ := accepted_bundles_reencode
  have hbundle : Signals.ofDatum looseBundle = .ok looseSignals := by decide +kernel
  have hgathered : looseReports.signals = .ok looseSignals := by decide +kernel
  obtain ⟨hrating, entries, hentries, hkeeps⟩ := hdatum _ _ hbundle
  cases hentries
  obtain ⟨facts, hgive, hkeeps'⟩ := hreports _ _ hgathered
  have hbuyTax : facts.value .buyTax = .text "+.5 percent" := by
    obtain ⟨-, -, hbuy, -⟩ := (honeypotFacts_eq_ok_iff rfl).1 hgive.honeypot
    obtain ⟨entries, hentries, hlookup⟩ := hbuy
    cases hentries
    exact (Option.some.inj hlookup).symm
  exact ⟨hbundle, hgathered, hrating, hkeeps.rerated,
    hkeeps.verbatim .topHolderShare (by decide) ⟨"topHolderShare", .text " 7.50% of it"⟩ _ rfl rfl,
    hkeeps'.verbatim .buyTax (by decide) ⟨"buy_tax", facts.value .buyTax⟩ _ rfl hbuyTax⟩

end TokenAudit
