import TokenAudit.Proofs.Signal.PercentageText
import TokenAudit.Proofs.Signal.Reading
import TokenAudit.Proofs.Signal.RiskOrder

/-!
# Which percentages are finite

A percentage that is accepted is a number, and a finite one when it was given as a number. Of a text
it is infinite exactly when the longest numeral writes a number from the overflow bound
`2 ^ 1024 - 2 ^ 970` on, and such a percentage is compared with the limits like any other.
-/

set_option autoImplicit false

namespace TokenAudit

/-- The value is a text whose numeral writes a number from the overflow bound on. -/
def Datum.WritesOverflow (d : Datum) : Prop :=
  ∃ content numeral p, d = .text content ∧
    LongestNumeral (content.chars.dropWhile Text.isBlank) numeral p ∧
      Binary64.overflowBound * Nat.pow 10 p.fraction.length ≤
        writtenNumber (p.whole ++ p.fraction)

variable {d : Datum} {content : RawText} {x : Binary64}

/-- The number of a text is finite exactly when the text writes none beyond the bound. -/
theorem isFinite_of_textAmount? (h : textAmount? content = some x) :
    x.isFinite = true ↔ ¬ (Datum.text content).WritesOverflow := by
  obtain ⟨p, hp, rfl⟩ := Option.map_eq_some_iff.1 h
  obtain ⟨numeral, hnumeral⟩ := numericPrefix?_eq_some_iff_longest.1 hp
  rw [NumericPrefix.value, Binary64.isFinite_ofRatio_iff _ _ (Binary64.pow_ten_pos _),
    digitsValue_eq, ← Nat.not_le, not_iff_not]
  constructor
  · intro hle
    exact ⟨content, numeral, p, rfl, hnumeral, hle⟩
  · rintro ⟨_, numeral', p', hcontent, hnumeral', hle⟩
    cases hcontent
    rw [(hnumeral.unique hnumeral').2]
    exact hle

/-- What gives a number is a text that begins with one, or no text and the number is finite. -/
theorem Datum.amount_cases (h : d.amount = .ok x) :
    (∃ content, d = .text content ∧ textAmount? content = some x) ∨
      ((∀ content, d ≠ .text content) ∧ x.isFinite = true) := by
  cases d with
  | text content => exact .inl ⟨content, rfl, amount_text_eq_ok_iff.1 h⟩
  | int n =>
    simp only [amount] at h
    split at h
    next hfinite =>
      cases h
      simp [hfinite]
    next => cases h
  | float y =>
    simp only [amount] at h
    split at h
    next hfinite =>
      cases h
      simp [hfinite]
    next => cases h
  | _ => cases h

/-- The number of a value is finite exactly when the value is no text that writes one beyond the
bound. -/
theorem Datum.isFinite_of_amount (h : d.amount = .ok x) :
    x.isFinite = true ↔ ¬ d.WritesOverflow := by
  rcases amount_cases h with ⟨content, rfl, hreads⟩ | ⟨hother, hfinite⟩
  · exact isFinite_of_textAmount? hreads
  · refine iff_of_true hfinite ?_
    rintro ⟨content, -, -, hcontent, -⟩
    exact hother content hcontent

/-- The number of a value is a number. -/
theorem Datum.ne_nan_of_amount (h : d.amount = .ok x) : x ≠ .nan := by
  rcases amount_cases h with ⟨content, -, hreads⟩ | ⟨-, hfinite⟩
  · obtain ⟨p, -, rfl⟩ := Option.map_eq_some_iff.1 hreads
    exact Binary64.ofRatio_ne_nan _ _ _
  · rintro rfl
    cases hfinite

/-- What is accepted as a percentage is a number, and a finite one unless it was given as a text
that writes a number from the overflow bound on; of a bundle this holds for the percentage of each
field, which is what is compared with the limits. -/
theorem accepted_percentages_finite_iff (d : Datum) :
    (∀ x, d.amount = .ok x → x ≠ .nan ∧ (x.isFinite = true ↔ ¬ d.WritesOverflow)) ∧
      ∀ s, Signals.ofDatum d = .ok s →
        ∀ (field : SignalField) (p : Percentage), s.percentageAt? field = some p →
          p.amount ≠ .nan ∧ ∃ entries f, d = .dict entries ∧
            dictionarySource entries field = some f ∧
              (p.amount.isFinite = true ↔ ¬ f.value.WritesOverflow) := by
  constructor
  · intro x h
    exact ⟨Datum.ne_nan_of_amount h, Datum.isFinite_of_amount h⟩
  · intro s h field p hp
    refine ⟨p.amount_ne_nan, ?_⟩
    cases d with
    | dict entries =>
      obtain ⟨f, hf, hread⟩ := (Signals.ofSource_eq_ok_iff.1 h).percentageAt? hp
      have hamount := Found.amount_of_percentage hread
      exact ⟨entries, f, rfl, hf, Datum.isFinite_of_amount hamount⟩
    | _ => cases h

/-! ## At the bound -/

/-- A whole number of percent, written out. -/
def percentText (n : Int) : RawText :=
  RawText.ofString (toString n) ++ RawText.ofString "%"

/-- A whole number with the sign of percent has that number for its amount. -/
theorem amount_percentText (n : Int) : (Datum.text (percentText n)).amount = .ok (.ofInt n) := by
  have hpercent : (RawText.ofString "%").chars.head? = some '%' := by decide +kernel
  have hends : EndsNumeral (RawText.ofString "%").chars := by
    intro c hc
    rw [hpercent] at hc
    cases hc
    decide
  exact Datum.amount_text_eq_ok_iff.2 (textAmount?_toString n hends)

/-- A token that is sound in all but its liquidity, of which the locked share is written as a one
and four hundred zeros. -/
def boundlessLock : Signals where
  honeypot := false
  sellTax := .text "3%" (.ofInt 3) (by decide +kernel)
  buyTax := .number (.ofInt 4) (by decide +kernel)
  topHolderShare := .text "15%" (.ofInt 15) (by decide +kernel)
  liquidityLocked := true
  liquidityLockShare := .text (percentText (Int.pow 10 400)) (.ofInt (Int.pow 10 400))
    (Datum.amount_text_eq_ok_iff.1 (amount_percentText _))
  verified := true
  warnings := []

/-- A one and three hundred zeros write a number below the bound; with four hundred, as the bundle
has them for its locked share, they write one beyond it. -/
theorem accepted_percentages_finite_iff_boundlessLock :
    (Datum.text (percentText (Int.pow 10 300))).amount = .ok (.ofInt (Int.pow 10 300)) ∧
      ¬ (Datum.text (percentText (Int.pow 10 300))).WritesOverflow ∧
      Signals.ofDatum boundlessLock.toDatum = .ok boundlessLock ∧
      boundlessLock.liquidityLockShare.amount ≠ .nan ∧
      (Datum.text (percentText (Int.pow 10 400))).WritesOverflow := by
  obtain ⟨hvalue, -⟩ := accepted_percentages_finite_iff (.text (percentText (Int.pow 10 300)))
  obtain ⟨-, hbundle⟩ := accepted_percentages_finite_iff boundlessLock.toDatum
  have hamount := amount_percentText (Int.pow 10 300)
  have hfinite : (Binary64.ofInt (Int.pow 10 300)).isFinite = true := by decide +kernel
  have hinfinite : (Binary64.ofInt (Int.pow 10 400)).isFinite = false := by decide +kernel
  obtain ⟨hnumber, entries, f, hentries, hf, hiff⟩ := hbundle boundlessLock
    boundlessLock.ofDatum_toDatum .liquidityLockShare boundlessLock.liquidityLockShare rfl
  cases hentries
  cases hf
  refine ⟨hamount, (hvalue _ hamount).2.1 hfinite, boundlessLock.ofDatum_toDatum, hnumber, ?_⟩
  by_contra hwrites
  exact absurd (hiff.2 hwrites) (Bool.eq_false_iff.1 hinfinite)

/-- A one and four hundred zeros are accepted as an infinite percentage, and liquidity locked to
that share speaks for the token: the share is compared with the limit and found to be enough. -/
theorem boundlessLock_accepted :
    (Datum.text (percentText (Int.pow 10 400))).amount = .ok (.infinite false) ∧
      Signals.ofDatum boundlessLock.toDatum = .ok boundlessLock ∧
      boundlessLock.liquidityLockShare.amount = .infinite false ∧
      boundlessLock.checkLiquidity = .clear ∧
      boundlessLock.toDatum.rating = .ok .clear := by
  have hinfinite : Binary64.ofInt (Int.pow 10 400) = .infinite false := by decide +kernel
  have hrating : boundlessLock.rating = .clear := by decide +kernel
  refine ⟨?_, boundlessLock.ofDatum_toDatum, hinfinite, by decide +kernel, ?_⟩
  · rw [amount_percentText, hinfinite]
  · rw [Datum.rating, boundlessLock.ofDatum_toDatum, ← hrating]
    rfl

end TokenAudit
