import TokenAudit.Proofs.Signal.Gathering

/-!
# Two ways to a bundle

A bundle comes from a dictionary under the wire names, or from the reports of the lookups. Where a
field was found shows in the wording of a refusal and nowhere else: what can be read, and which
class of fault ends the reading, depends on the values alone. So reports of lookups that succeeded
and the dictionary of the same facts make equal bundles, or fail by faults of one class.
-/

set_option autoImplicit false

namespace TokenAudit

/-! ## Classes of faults -/

/-- The class of a fault, whatever its wording. -/
inductive FaultClass where
  | refusal
  | overflow
  | missingKey
  | wrongType
  deriving DecidableEq

/-- The class of a fault of a bundle. -/
def SignalFault.faultClass : SignalFault → FaultClass
  | refused _ => .refusal
  | tooLarge => .overflow

/-- The class of a fault of reports. -/
def ReportFault.faultClass : ReportFault → FaultClass
  | signal f => f.faultClass
  | noFirstKey => .missingKey
  | noElements _ => .wrongType

/-! ## Reading depends on the values -/

/-- A value reads as the same percentage wherever it was found. -/
theorem Found.percentage_of_value_eq {f f' : Found} {field : SignalField} {p : Percentage}
    (hvalue : f'.value = f.value) (h : f.percentage field = .ok p) :
    f'.percentage field = .ok p := by
  rw [Found.percentage_eq_ok_iff, hvalue]
  exact Found.percentage_eq_ok_iff.1 h

/-- A list of warnings can be read exactly when all of them are texts. -/
theorem warningList_list_iff {location : String} {items : List Datum} {w : List RawText} :
    warningList (some ⟨location, .list items⟩) = .ok w ↔ items = w.map .text := by
  constructor
  · intro h
    unfold warningList at h
    simp only at h
    split at h
    · next hproblems =>
      cases h
      rw [List.filterMap_eq_nil_iff] at hproblems
      have htexts : ∀ d ∈ items, ∃ content, d = .text content := by
        intro d hd
        obtain ⟨i, hi⟩ := List.mem_iff_getElem?.1 hd
        have hproblem := hproblems (d, i) (List.mem_zipIdx_iff_getElem?.2 hi)
        cases d with
        | text content => exact ⟨content, rfl⟩
        | _ => cases hproblem
      clear hproblems
      induction items with
      | nil => rfl
      | cons d items ih =>
        rw [List.forall_mem_cons] at htexts
        obtain ⟨content, rfl⟩ := htexts.1
        have htext : warningText? (.text content) = some content := rfl
        rw [List.filterMap_cons_some htext, List.map_cons, ← ih htexts.2]
    · cases h
  · rintro rfl
    exact warningList_texts location w

/-! ## Outcomes depend on the values -/

/-- Two sources hold the same values: for the warnings it is enough that they can be read as the
same texts. -/
structure SameValues (source source' : FieldSource) : Prop where
  values : ∀ field, field ≠ .warnings →
    (source' field).map (·.value) = (source field).map (·.value)
  warnings : ∀ w, warningList (source' .warnings) = .ok w ↔ warningList (source .warnings) = .ok w

namespace SameValues

variable {source source' : FieldSource}

/-- What holds the same values as a second source, the second holds the same as it. -/
theorem symm (h : SameValues source source') : SameValues source' source where
  values field hfield := (h.values field hfield).symm
  warnings w := (h.warnings w).symm

/-- A value that is found in the one is found in the other. -/
theorem exists_found (h : SameValues source source') {field : SignalField}
    (hfield : field ≠ .warnings) {f : Found} (hf : source field = some f) :
    ∃ f', source' field = some f' ∧ f'.value = f.value := by
  have hvalue := h.values field hfield
  rw [hf, Option.map_some, Option.map_eq_some_iff] at hvalue
  exact hvalue

/-- So it reads as the same boolean. -/
theorem boolean (h : SameValues source source') {field : SignalField} (hfield : field ≠ .warnings)
    {b : Bool} (hread : ∃ f, source field = some f ∧ f.boolean = .ok b) :
    ∃ f, source' field = some f ∧ f.boolean = .ok b := by
  obtain ⟨f, hf, hb⟩ := hread
  obtain ⟨f', hf', hvalue⟩ := h.exists_found hfield hf
  refine ⟨f', hf', ?_⟩
  rw [Found.boolean_eq_ok_iff, hvalue]
  exact Found.boolean_eq_ok_iff.1 hb

/-- So it reads as the same percentage. -/
theorem percentage (h : SameValues source source') {field : SignalField}
    (hfield : field ≠ .warnings) {p : Percentage}
    (hread : ∃ f, source field = some f ∧ f.percentage field = .ok p) :
    ∃ f, source' field = some f ∧ f.percentage field = .ok p := by
  obtain ⟨f, hf, hp⟩ := hread
  obtain ⟨f', hf', hvalue⟩ := h.exists_found hfield hf
  exact ⟨f', hf', Found.percentage_of_value_eq hvalue hp⟩

/-- So the same bundle is read. -/
theorem readFrom {s : Signals} (h : SameValues source source') (hread : s.ReadFrom source) :
    s.ReadFrom source' where
  honeypot := h.boolean (by decide) hread.honeypot
  sellTax := h.percentage (by decide) hread.sellTax
  buyTax := h.percentage (by decide) hread.buyTax
  topHolderShare := h.percentage (by decide) hread.topHolderShare
  liquidityLocked := h.boolean (by decide) hread.liquidityLocked
  liquidityLockShare := h.percentage (by decide) hread.liquidityLockShare
  verified := h.boolean (by decide) hread.verified
  warnings := (h.warnings s.warnings).2 hread.warnings

/-- So a number that is too large ends both readings. -/
theorem tooLarge (h : SameValues source source')
    (hlarge : Signals.ofSource source = .error .tooLarge) :
    Signals.ofSource source' = .error .tooLarge := by
  rw [Signals.ofSource_eq_tooLarge_iff] at hlarge ⊢
  obtain ⟨field, hfield, hholds⟩ := hlarge
  have hne : field ≠ .warnings := by
    rintro rfl
    exact absurd hfield (by decide)
  obtain ⟨f, hf, hamount⟩ := holdsTooLarge_iff.1 hholds
  obtain ⟨f', hf', hvalue⟩ := h.exists_found hne hf
  refine ⟨field, hfield, holdsTooLarge_iff.2 ⟨f', hf', ?_⟩⟩
  rw [hvalue]
  exact hamount

/-- Sources of the same values make equal bundles or fail by faults of one class. -/
theorem outcome_eq (h : SameValues source source') :
    (Signals.ofSource source').mapError SignalFault.faultClass =
      (Signals.ofSource source).mapError SignalFault.faultClass := by
  cases hleft : Signals.ofSource source with
  | ok s =>
    have hread := h.readFrom (Signals.ofSource_eq_ok_iff.1 hleft)
    rw [Signals.ofSource_eq_ok_iff.2 hread]
  | error fault =>
    cases hright : Signals.ofSource source' with
    | ok s =>
      have hread := h.symm.readFrom (Signals.ofSource_eq_ok_iff.1 hright)
      rw [Signals.ofSource_eq_ok_iff.2 hread] at hleft
      cases hleft
    | error fault' =>
      cases fault with
      | tooLarge =>
        rw [h.tooLarge hleft] at hright
        cases hright
        rfl
      | refused e =>
        cases fault' with
        | refused e' => rfl
        | tooLarge =>
          rw [h.symm.tooLarge hright] at hleft
          cases hleft

end SameValues

/-! ## One token on two ways -/

/-- Warnings as they may be given: not at all, as an absent value, or as a list. -/
inductive GivenWarnings where
  | absent
  | null
  | listed (items : List Datum)

/-- The entry of given warnings in a dictionary. -/
def GivenWarnings.entries : GivenWarnings → List (String × Datum)
  | absent => []
  | null => [("warnings", .null)]
  | listed items => [("warnings", .list items)]

/-- What is known of a token before any of it is read. -/
structure TokenFacts where
  honeypot : Datum
  sellTax : Datum
  buyTax : Datum
  topHolderShare : Datum
  liquidityLocked : Datum
  liquidityLockShare : Datum
  verified : Bool
  warnings : GivenWarnings

namespace TokenFacts

/-- The facts as a dictionary under the wire names. -/
def bundle (t : TokenFacts) : Datum :=
  .dict
    ([ ("honeypot", t.honeypot), ("sellTax", t.sellTax), ("buyTax", t.buyTax),
      ("topHolderShare", t.topHolderShare), ("liquidityLocked", t.liquidityLocked),
      ("liquidityLockShare", t.liquidityLockShare), ("verified", .bool t.verified) ] ++
      t.warnings.entries)

/-- The facts on liquidity as a lookup reports them. -/
def liquidity (t : TokenFacts) : Datum :=
  .dict [("liquidityLocked", t.liquidityLocked), ("lockPercentage", t.liquidityLockShare)]

/-- The facts as lookups that succeeded report them, with further holders after the top one; the
facts on liquidity may be nested under a key of their own. -/
def reports (t : TokenFacts) (further : List Datum) (nested : Bool) : Reports where
  honeypot := .dict
    ([("isHoneypot", t.honeypot), ("sellTax", t.sellTax), ("buyTax", t.buyTax)] ++
      t.warnings.entries)
  holders := .dict
    [("holders", .list (.dict [("percentage", t.topHolderShare)] :: further))]
  liquidity := if nested then .dict [("liquidity", t.liquidity)] else t.liquidity
  verified := .bool t.verified

/-- The warnings that a report of a honeypot contributes. -/
def reportedWarnings (t : TokenFacts) : Datum :=
  match t.warnings with
  | .listed items => .list items
  | _ => .list []

/-- What the reports of the facts are reduced to. -/
def gathered (t : TokenFacts) : Reports.Facts where
  honeypot :=
    { honeypot := t.honeypot, sellTax := t.sellTax, buyTax := t.buyTax,
      warnings := t.reportedWarnings }
  topHolder := t.topHolderShare
  locked := t.liquidityLocked
  share := t.liquidityLockShare
  verified := t.verified

/-- The facts of a token are read back from its honeypot report. -/
theorem honeypotFacts_reports (t : TokenFacts) (further : List Datum) (nested : Bool) :
    honeypotFacts (t.reports further nested).honeypot = .ok t.gathered.honeypot := by
  obtain ⟨honeypot, sellTax, buyTax, topHolderShare, locked, share, verified, warnings⟩ := t
  cases warnings with
  | absent => rfl
  | null => rfl
  | listed items =>
    cases items with
    | nil => rfl
    | cons d items => rfl

/-- So is the share of its top holder from the report on holders. -/
theorem topHolderFact_reports (t : TokenFacts) (further : List Datum) (nested : Bool) :
    topHolderFact (t.reports further nested).holders = .ok t.topHolderShare := rfl

/-- So are the facts of its liquidity from either form of that report. -/
theorem liquidityFacts_reports (t : TokenFacts) (further : List Datum) (nested : Bool) :
    liquidityFacts (t.reports further nested).liquidity =
      .ok (t.liquidityLocked, t.liquidityLockShare) := by
  cases nested with
  | false => rfl
  | true => rfl

/-- So the reports give all of the facts. -/
theorem reports_give (t : TokenFacts) (further : List Datum) (nested : Bool) :
    (t.reports further nested).Give t.gathered where
  honeypot := t.honeypotFacts_reports further nested
  topHolder := t.topHolderFact_reports further nested
  liquidity := t.liquidityFacts_reports further nested
  verified := rfl

/-- The dictionary of the facts and their reports hold the same values. -/
theorem sameValues (t : TokenFacts) :
    ∃ entries, t.bundle = .dict entries ∧
      SameValues (dictionarySource entries) t.gathered.source := by
  refine ⟨_, rfl, ?_, ?_⟩
  · intro field hfield
    obtain ⟨honeypot, sellTax, buyTax, topHolderShare, locked, share, verified, warnings⟩ := t
    cases field with
    | warnings => exact absurd rfl hfield
    | _ => cases warnings <;> rfl
  · intro w
    obtain ⟨honeypot, sellTax, buyTax, topHolderShare, locked, share, verified, warnings⟩ := t
    cases warnings with
    | absent => rfl
    | null => rfl
    | listed items => exact warningList_list_iff.trans warningList_list_iff.symm

end TokenFacts

/-- Reports are rated by the bundle of the facts that they give. -/
theorem Reports.Give.signals_eq {r : Reports} {facts : Reports.Facts} (h : r.Give facts) :
    r.signals = (Signals.ofSource facts.source).mapError .signal := by
  unfold Reports.signals
  rw [h.honeypot, h.topHolder, h.liquidity, h.verified]
  rfl

/-- The reports of the facts on a token and the dictionary of the same facts make equal bundles, or
both fail by faults of one class. -/
theorem entry_paths_agree (t : TokenFacts) (further : List Datum) (nested : Bool) :
    (t.reports further nested).signals.mapError ReportFault.faultClass =
      (Signals.ofDatum t.bundle).mapError SignalFault.faultClass := by
  obtain ⟨entries, hbundle, hsame⟩ := t.sameValues
  have hclass : ∀ x : Except SignalFault Signals,
      (x.mapError ReportFault.signal).mapError ReportFault.faultClass =
        x.mapError SignalFault.faultClass := by
    intro x
    cases x with
    | error fault => rfl
    | ok s => rfl
  rw [(t.reports_give further nested).signals_eq, hclass, hsame.outcome_eq, hbundle]
  rfl

end TokenAudit
