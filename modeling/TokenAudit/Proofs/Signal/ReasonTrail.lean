import TokenAudit.Proofs.Signal.Keys
import TokenAudit.Signal.Rating

/-!
# The level of a rating and its reasons

A rating lists the reason of a honeypot, then the warnings of the bundle, and then the reasons of
the checks of tax, holder, liquidity and verification. What it lists beside the warnings tells the
level: nothing at all is low, a honeypot, unlocked liquidity or a top holder of more than one half
is high, and the rest is medium. The warnings themselves, the buy tax and keys that name no field
have no part in this, even where a warning has the wording of a reason.
-/

set_option autoImplicit false

namespace TokenAudit

/-! ## The reasons beside the warnings -/

/-- The reason given for a honeypot. -/
def honeypotReason : RawText := "Contract identified as potential honeypot"

/-- The reason given for liquidity that is not locked. -/
def unlockedReason : RawText := "Liquidity is not locked"

/-- The reason given for source code that is not verified. -/
def unverifiedReason : RawText := "Contract source code is not verified"

namespace Signals

/-- The reason given for a high sell tax. -/
def sellTaxReason (s : Signals) : RawText := "High sell tax (" ++ s.sellTax.shown ++ ")"

/-- The reason given for a small locked share. -/
def lockShareReason (s : Signals) : RawText :=
  "Only " ++ s.liquidityLockShare.shown ++ " of liquidity is locked"

/-- The reason that can be given on liquidity. -/
def liquidityReason (s : Signals) : RawText :=
  if s.liquidityLocked then s.lockShareReason else unlockedReason

/-- The reasons before the warnings. -/
def leadingReasons (s : Signals) : List RawText := s.checkHoneypot.reasons

/-- The reasons after the warnings. -/
def trailingReasons (s : Signals) : List RawText :=
  [s.checkSellTax, s.checkTopHolder, s.checkLiquidity, s.checkVerified].flatMap (·.reasons)

/-- How a percentage of a bundle is shown. -/
def shownOf (s : Signals) : SignalField → RawText
  | .sellTax => s.sellTax.shown
  | .buyTax => s.buyTax.shown
  | .topHolderShare => s.topHolderShare.shown
  | .liquidityLockShare => s.liquidityLockShare.shown
  | _ => ⟨[]⟩

end Signals

/-- The level of a rating and its reasons say the same of a bundle: `leading` are the reasons before
the warnings and `trailing` those after them. -/
structure Rating.Agrees (r : Rating) (s : Signals) (leading trailing : List RawText) : Prop where
  reasons : r.reasons = leading ++ s.warnings ++ trailing
  before : leading = [] ∨ leading = [honeypotReason]
  after : ∃ liquidityReason ∈ [unlockedReason, s.lockShareReason],
    trailing.Sublist [s.sellTaxReason, s.topHolderReason, liquidityReason, unverifiedReason]
  high : r.level = .high ↔ leading ≠ [] ∨ unlockedReason ∈ trailing ∨
    (s.topHolderReason ∈ trailing ∧ holderShareHigh.lt s.topHolderShare.amount = true)
  low : r.level = .low ↔ leading = [] ∧ trailing = []
  medium : r.level ≠ .high → r.level ≠ .low → r.level = .medium
  quiet : r.level = .low ↔ r.reasons = s.warnings

namespace Grade

/-- Only the lowest grade is below the lowest. -/
theorem le_low_iff {g : Grade} : g ≤ low ↔ g = low := by
  cases g <;> decide

/-- Only the highest grade is not below the middle one. -/
theorem not_le_medium_iff {g : Grade} : ¬ g ≤ medium ↔ g = high := by
  cases g <;> decide

/-- A grade that is neither the highest nor the lowest is the middle one. -/
theorem eq_medium_of_ne {g : Grade} (hhigh : g ≠ high) (hlow : g ≠ low) : g = medium := by
  cases g with
  | low => exact absurd rfl hlow
  | medium => rfl
  | high => exact absurd rfl hhigh

end Grade

namespace Rating

/-- The outcome of a check that can ask for one of some levels for a reason: it asks for nothing, or
for one of the levels and gives the reason. -/
def IsCheck (r : Rating) (levels : List Grade) (reason : RawText) : Prop :=
  r = .clear ∨ ∃ g ∈ levels, r = .because g reason

variable {r : Rating} {levels : List Grade} {reason : RawText}

/-- A check that asks for more than the lowest level asks for nothing exactly when it gives no
reason. -/
theorem IsCheck.level_eq_low_iff (h : r.IsCheck levels reason) (hlow : .low ∉ levels) :
    r.level = .low ↔ r.reasons = [] := by
  rcases h with rfl | ⟨g, hg, rfl⟩
  · simp [clear]
  · have hne : g ≠ .low := by
      rintro rfl
      exact hlow hg
    simp [because, hne]

/-- A check that cannot ask for the high level does not. -/
theorem IsCheck.level_ne_high (h : r.IsCheck levels reason) (hhigh : .high ∉ levels) :
    r.level ≠ .high := by
  rcases h with rfl | ⟨g, hg, rfl⟩
  · simp [clear]
  · rintro rfl
    exact hhigh hg

/-- A check gives its reason or none. -/
theorem IsCheck.reasons_sublist (h : r.IsCheck levels reason) : r.reasons.Sublist [reason] := by
  rcases h with rfl | ⟨g, -, rfl⟩
  · exact List.nil_sublist _
  · exact List.Sublist.refl _

end Rating

namespace Signals

variable (s : Signals)

/-- The check for a honeypot can ask for the high level. -/
theorem checkHoneypot_isCheck : s.checkHoneypot.IsCheck [.high] honeypotReason := by
  unfold checkHoneypot
  split
  · exact .inr ⟨.high, by simp, rfl⟩
  · exact .inl rfl

/-- The check of the sell tax can ask for the middle level. -/
theorem checkSellTax_isCheck : s.checkSellTax.IsCheck [.medium] s.sellTaxReason := by
  unfold checkSellTax
  split
  · exact .inr ⟨.medium, by simp, rfl⟩
  · exact .inl rfl

/-- The check of the top holder can ask for either. -/
theorem checkTopHolder_isCheck : s.checkTopHolder.IsCheck [.high, .medium] s.topHolderReason := by
  unfold checkTopHolder
  split
  · exact .inr ⟨.high, by simp, rfl⟩
  · split
    · exact .inr ⟨.medium, by simp, rfl⟩
    · exact .inl rfl

/-- So can the check of the liquidity. -/
theorem checkLiquidity_isCheck : s.checkLiquidity.IsCheck [.high, .medium] s.liquidityReason := by
  unfold checkLiquidity liquidityReason
  cases s.liquidityLocked with
  | false => exact .inr ⟨.high, by simp, rfl⟩
  | true =>
    simp only [Bool.not_true, Bool.false_eq_true, if_false, if_true]
    split
    · exact .inr ⟨.medium, by simp, rfl⟩
    · exact .inl rfl

/-- The check of the verification can ask for the middle level. -/
theorem checkVerified_isCheck : s.checkVerified.IsCheck [.medium] unverifiedReason := by
  unfold checkVerified
  split
  · exact .inl rfl
  · exact .inr ⟨.medium, by simp, rfl⟩

/-- The warnings stand between the reasons of the first check and those of the others. -/
theorem reasons_eq : s.rating.reasons = s.leadingReasons ++ s.warnings ++ s.trailingReasons := by
  simp [rating, checks, leadingReasons, trailingReasons, checkWarnings]

/-- Before the warnings stands the reason for a honeypot or nothing. -/
theorem leadingReasons_cases : s.leadingReasons = [] ∨ s.leadingReasons = [honeypotReason] := by
  rcases s.checkHoneypot_isCheck with h | ⟨g, -, h⟩
  · left
    rw [leadingReasons, h]
    rfl
  · right
    rw [leadingReasons, h]
    rfl

/-- After them stand some of four reasons, in order. -/
theorem trailingReasons_sublist : s.trailingReasons.Sublist
    [s.sellTaxReason, s.topHolderReason, s.liquidityReason, unverifiedReason] := by
  have htax := s.checkSellTax_isCheck.reasons_sublist
  have hholder := s.checkTopHolder_isCheck.reasons_sublist
  have hliquidity := s.checkLiquidity_isCheck.reasons_sublist
  have hverified := s.checkVerified_isCheck.reasons_sublist
  have hall := htax.append (hholder.append (hliquidity.append hverified))
  simpa [trailingReasons] using hall

/-- On liquidity there are two reasons to choose from. -/
theorem liquidityReason_mem : s.liquidityReason ∈ [unlockedReason, s.lockShareReason] := by
  unfold liquidityReason
  split
  · simp
  · simp

/-- The level is low exactly when no check gives a reason. -/
theorem level_eq_low_iff :
    s.rating.level = .low ↔ s.leadingReasons = [] ∧ s.trailingReasons = [] := by
  have hwarnings : s.checkWarnings.level = .low := rfl
  rw [← Grade.le_low_iff, level_le_iff]
  simp only [checks, List.forall_mem_cons, Grade.le_low_iff, hwarnings,
    s.checkHoneypot_isCheck.level_eq_low_iff (by decide),
    s.checkSellTax_isCheck.level_eq_low_iff (by decide),
    s.checkTopHolder_isCheck.level_eq_low_iff (by decide),
    s.checkLiquidity_isCheck.level_eq_low_iff (by decide),
    s.checkVerified_isCheck.level_eq_low_iff (by decide)]
  simp [leadingReasons, trailingReasons]

/-- The reasons are the warnings alone exactly when no check gives one. -/
theorem quiet_iff : s.rating.reasons = s.warnings ↔
    s.leadingReasons = [] ∧ s.trailingReasons = [] := by
  rw [reasons_eq]
  constructor
  · intro h
    have hlength := congrArg List.length h
    simp only [List.length_append] at hlength
    constructor
    · apply List.eq_nil_of_length_eq_zero
      omega
    · apply List.eq_nil_of_length_eq_zero
      omega
  · rintro ⟨hleading, htrailing⟩
    rw [hleading, htrailing, List.nil_append, List.append_nil]

/-- The check for a honeypot asks for the high level exactly when a reason stands before the
warnings. -/
theorem checkHoneypot_level_eq_high_iff :
    s.checkHoneypot.level = .high ↔ s.leadingReasons ≠ [] := by
  unfold leadingReasons checkHoneypot
  split
  · simp [Rating.because]
  · simp [Rating.clear]

/-- The check of the top holder does so exactly when its reason is given and the share is above the
higher limit. -/
theorem checkTopHolder_level_eq_high_iff :
    s.checkTopHolder.level = .high ↔
      s.topHolderReason ∈ s.trailingReasons ∧
        holderShareHigh.lt s.topHolderShare.amount = true := by
  by_cases hlt : holderShareHigh.lt s.topHolderShare.amount = true
  · have hcheck : s.checkTopHolder = .because .high s.topHolderReason := by
      unfold checkTopHolder
      rw [if_pos hlt]
    have hmem : s.topHolderReason ∈ s.trailingReasons := by
      unfold trailingReasons
      simp [hcheck, Rating.because]
    simp [hcheck, hmem, hlt, Rating.because]
  · have hcheck : s.checkTopHolder.level ≠ .high := by
      unfold checkTopHolder
      rw [if_neg hlt]
      split
      · simp [Rating.because]
      · simp [Rating.clear]
    simp [hcheck, hlt]

/-- No other reason after the warnings has the wording of unlocked liquidity. -/
theorem unlockedReason_notMem :
    unlockedReason ∉ [s.sellTaxReason, s.topHolderReason, s.lockShareReason, unverifiedReason] := by
  have hfirst : ∀ {reason reason' : RawText}, reason.points.head? ≠ reason'.points.head? →
      reason ≠ reason' := by
    rintro reason reason' h rfl
    exact h rfl
  simp only [List.mem_cons, List.not_mem_nil, or_false, not_or]
  refine ⟨hfirst ?_, hfirst ?_, hfirst ?_, hfirst ?_⟩
  · unfold unlockedReason sellTaxReason
    simp [RawText.points_append, RawText.ofString]
  · unfold unlockedReason topHolderReason
    simp [RawText.points_append, RawText.ofString]
  · unfold unlockedReason lockShareReason
    simp [RawText.points_append, RawText.ofString]
  · decide

/-- The check of the liquidity does so exactly when the reason for unlocked liquidity is given. -/
theorem checkLiquidity_level_eq_high_iff :
    s.checkLiquidity.level = .high ↔ unlockedReason ∈ s.trailingReasons := by
  cases hlocked : s.liquidityLocked with
  | false =>
    have hcheck : s.checkLiquidity = .because .high unlockedReason := by
      unfold checkLiquidity
      rw [hlocked]
      rfl
    have hmem : unlockedReason ∈ s.trailingReasons := by
      unfold trailingReasons
      simp [hcheck, Rating.because]
    simp [hcheck, hmem, Rating.because]
  | true =>
    have hlevel : s.checkLiquidity.level ≠ .high := by
      unfold checkLiquidity
      rw [hlocked]
      simp only [Bool.not_true, Bool.false_eq_true, if_false]
      split
      · simp [Rating.because]
      · simp [Rating.clear]
    have hreason : s.liquidityReason = s.lockShareReason := by
      unfold liquidityReason
      rw [hlocked, if_pos rfl]
    have hnotMem : unlockedReason ∉ s.trailingReasons := by
      intro hmem
      have hlisted := s.trailingReasons_sublist.subset hmem
      rw [hreason] at hlisted
      exact s.unlockedReason_notMem hlisted
    simp [hlevel, hnotMem]

/-- The level is high exactly when one of these three cases holds. -/
theorem level_eq_high_iff :
    s.rating.level = .high ↔ s.leadingReasons ≠ [] ∨ unlockedReason ∈ s.trailingReasons ∨
      (s.topHolderReason ∈ s.trailingReasons ∧
        holderShareHigh.lt s.topHolderShare.amount = true) := by
  have hwarnings : s.checkWarnings.level ≠ .high := by simp [checkWarnings]
  have htax := s.checkSellTax_isCheck.level_ne_high (by decide)
  have hverified := s.checkVerified_isCheck.level_ne_high (by decide)
  rw [← Grade.not_le_medium_iff, level_le_iff, ← s.checkHoneypot_level_eq_high_iff,
    ← s.checkLiquidity_level_eq_high_iff, ← s.checkTopHolder_level_eq_high_iff]
  simp only [checks, List.forall_mem_cons, not_and_or, Grade.not_le_medium_iff, hwarnings, htax,
    hverified]
  simp [or_comm]

end Signals

/-- Level and reasons of a rating agree, by the reasons before and after the warnings. -/
theorem Signals.rating_agrees (s : Signals) :
    s.rating.Agrees s s.leadingReasons s.trailingReasons where
  reasons := s.reasons_eq
  before := s.leadingReasons_cases
  after := ⟨s.liquidityReason, s.liquidityReason_mem, s.trailingReasons_sublist⟩
  high := s.level_eq_high_iff
  low := s.level_eq_low_iff
  medium := Grade.eq_medium_of_ne
  quiet := s.level_eq_low_iff.trans s.quiet_iff.symm

/-! ## What has no part in the level -/

/-- Two dictionaries hold the same in every field but the buy tax and the warnings. -/
def AgreeOnRated (entries entries' : List (String × Datum)) : Prop :=
  ∀ field, field ≠ .buyTax → field ≠ .warnings →
    dictionarySource entries' field = dictionarySource entries field

namespace Signals

/-- With another buy tax and other warnings, the rest of a bundle is read as before. -/
theorem ReadFrom.exchange {source source' : FieldSource} {s : Signals} {f : Found} {t : Percentage}
    {w : List RawText} (h : s.ReadFrom source)
    (hagree : ∀ field, field ≠ .buyTax → field ≠ .warnings → source' field = source field)
    (hfound : source' .buyTax = some f) (htax : f.percentage .buyTax = .ok t)
    (hwarnings : warningList (source' .warnings) = .ok w) :
    { s with buyTax := t, warnings := w }.ReadFrom source' where
  honeypot := by rw [hagree .honeypot (by decide) (by decide)]; exact h.honeypot
  sellTax := by rw [hagree .sellTax (by decide) (by decide)]; exact h.sellTax
  buyTax := ⟨f, hfound, htax⟩
  topHolderShare := by rw [hagree .topHolderShare (by decide) (by decide)]; exact h.topHolderShare
  liquidityLocked := by
    rw [hagree .liquidityLocked (by decide) (by decide)]
    exact h.liquidityLocked
  liquidityLockShare := by
    rw [hagree .liquidityLockShare (by decide) (by decide)]
    exact h.liquidityLockShare
  verified := by rw [hagree .verified (by decide) (by decide)]; exact h.verified
  warnings := hwarnings

/-- Neither the buy tax nor the warnings count for the level. -/
theorem level_exchange (s : Signals) (t : Percentage) (w : List RawText) :
    { s with buyTax := t, warnings := w }.rating.level = s.rating.level := rfl

/-- A percentage that is given as a text is shown as it is given. -/
theorem shownOf_of_text {source : FieldSource} {s : Signals} (h : s.ReadFrom source)
    {field : SignalField} (hfield : field ∈ SignalField.percentages) {location : String}
    {content : RawText} (hfound : source field = some ⟨location, .text content⟩) :
    s.shownOf field = content := by
  have hshown : ∀ {p : Percentage}, (∃ f, source field = some f ∧ f.percentage field = .ok p) →
      p.shown = content := by
    rintro p ⟨f, hf, hp⟩
    cases hfound.symm.trans hf
    exact (Found.percentage_of_text rfl hp).1
  simp only [SignalField.percentages, List.mem_cons, List.not_mem_nil, or_false] at hfield
  rcases hfield with rfl | rfl | rfl | rfl
  · exact hshown h.sellTax
  · exact hshown h.buyTax
  · exact hshown h.topHolderShare
  · exact hshown h.liquidityLockShare

end Signals

/-- The level of a rating and its reasons agree, the reasons quote the percentages as they are
given, and neither new warnings, nor another buy tax, nor keys that name no field change the level
or any reason beside the warnings. -/
theorem level_agrees_with_reasons {entries : List (String × Datum)} {s : Signals}
    (h : Signals.ofDatum (.dict entries) = .ok s) :
    (∃ r, (Datum.dict entries).rating = .ok r ∧
      r.Agrees s s.leadingReasons s.trailingReasons) ∧
    (∀ field ∈ SignalField.percentages, ∀ location content,
      dictionarySource entries field = some ⟨location, .text content⟩ →
        s.shownOf field = content) ∧
    (∀ entries' f t w, AgreeOnRated entries entries' →
      dictionarySource entries' .buyTax = some f → f.percentage .buyTax = .ok t →
      warningList (dictionarySource entries' .warnings) = .ok w →
        ∃ s', Signals.ofDatum (.dict entries') = .ok s' ∧ s'.warnings = w ∧ s'.buyTax = t ∧
          s'.rating.level = s.rating.level ∧ s'.leadingReasons = s.leadingReasons ∧
          s'.trailingReasons = s.trailingReasons) ∧
    ∀ front back key value, entries = front ++ back → (∀ field : SignalField, ¬ field.Named key) →
      Signals.ofDatum (.dict (front ++ (key, value) :: back)) = .ok s := by
  have hread : s.ReadFrom (dictionarySource entries) := Signals.ofSource_eq_ok_iff.1 h
  refine ⟨⟨s.rating, ?_, s.rating_agrees⟩, ?_, ?_, ?_⟩
  · rw [Datum.rating, h]
    rfl
  · intro field hfield location content hfound
    exact Signals.shownOf_of_text hread hfield hfound
  · intro entries' f t w hagree hfound htax hwarnings
    have hread' := hread.exchange hagree hfound htax hwarnings
    exact ⟨_, Signals.ofSource_eq_ok_iff.2 hread', rfl, rfl, s.level_exchange t w, rfl, rfl⟩
  · intro front back key value hentries hkey
    rw [Signals.ofDatum, dictionarySource_insert hkey, ← hentries]
    exact h

/-- A token with a high tax whose warnings repeat the wording of a graver reason. -/
def echoedSignals : Signals where
  honeypot := false
  sellTax := .text "12.5%" (.ofRatio false 25 2) (by decide +kernel)
  buyTax := .text "99%" (.ofInt 99) (by decide +kernel)
  topHolderShare := .text "50%" (.ofInt 50) (by decide +kernel)
  liquidityLocked := true
  liquidityLockShare := .number (.ofInt 60) (by decide +kernel)
  verified := true
  warnings := [unlockedReason, unlockedReason]

/-- Warnings with the wording of unlocked liquidity make no level high. -/
theorem level_agrees_with_reasons_echoed :
    ∃ r, echoedSignals.toDatum.rating = .ok r ∧ r.level = .medium ∧
      r.reasons = [unlockedReason, unlockedReason, "High sell tax (12.5%)",
        "Top holder owns 50% of supply"] := by
  obtain ⟨⟨r, hrating, hagrees⟩, -⟩ := level_agrees_with_reasons echoedSignals.ofDatum_toDatum
  have hleading : echoedSignals.leadingReasons = [] := rfl
  have htrailing : echoedSignals.trailingReasons =
      [(("High sell tax (12.5%)" : String) : RawText),
        ("Top holder owns 50% of supply" : String)] := by
    decide +kernel
  have hhalf : holderShareHigh.lt echoedSignals.topHolderShare.amount = false := by decide +kernel
  rw [hleading, htrailing] at hagrees
  refine ⟨r, hrating, hagrees.medium ?_ ?_, hagrees.reasons⟩
  · intro hhigh
    rcases hagrees.high.1 hhigh with h | h | ⟨-, h⟩
    · exact h rfl
    · exact absurd h (by decide)
    · rw [hhalf] at h
      cases h
  · intro hlow
    exact absurd (hagrees.low.1 hlow).2 (by decide)

end TokenAudit
