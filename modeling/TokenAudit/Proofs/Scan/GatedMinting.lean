import TokenAudit.Proofs.Summary.SharedLine

/-!
# Minting that is gated, and the rule on minting

A text whose owner can mint has a line with the word for minting and the gate. The rule on minting
looks for the same word, but passes over it where the word for burning stands later on the line,
unless it names a function. So the rule is reported for such a text, but for those in which burning
follows every minting and no function is named for it; and these have a line that gates minting and
burns.
-/

set_option autoImplicit false

namespace TokenAudit

/-- The word for burning stands behind each word for minting, later on its line. -/
def BurnsAfterMinting (text : List Char) : Prop :=
  ∀ before word rest, text = before ++ word ++ rest → SameWord "mint" word →
    OnRestOfLine (BeginsWithWord "burn") rest

variable {text : List Char} {now : Binary64}

/-- A text mints without burning exactly when not every minting in it is followed by burning. -/
theorem mintsWithoutBurning_iff : MintsWithoutBurning text ↔ ¬ BurnsAfterMinting text := by
  simp [MintsWithoutBurning, BurnsAfterMinting]

/-- What stands on the rest of its line stands there without the lines below. -/
theorem onRestOfLine_word_append_iff {w : String} (hw : (Step.word w).all Step.staysOnLine = true)
    {rest after : List Char} (hafter : after = [] ∨ after.head? = some '\n') :
    OnRestOfLine (BeginsWithWord w) (rest ++ after) ↔ OnRestOfLine (BeginsWithWord w) rest := by
  have hsteps : ∀ step ∈ Step.sameLine ++ Step.word w, step.staysOnLine = true := by
    intro step hstep
    rcases List.mem_append.1 hstep with hline | hword
    · rw [List.mem_singleton.1 hline]
      rfl
    · exact List.all_eq_true.1 hw step hword
  rw [← startsWith_sameLine_iff fun _ => startsWith_word_iff,
    ← startsWith_sameLine_iff fun _ => startsWith_word_iff,
    startsWith_append_of_staysOnLine hsteps hafter]

/-- A text holds the word that begins on the rest of its line. -/
theorem holdsWord_of_onRestOfLine {w : String} (h : OnRestOfLine (BeginsWithWord w) text) :
    HoldsWord w text := by
  obtain ⟨line, _, rfl, -, word, later, rfl, hword⟩ := h
  exact ⟨line, word, later, by simp, hword⟩

/-- Where burning follows every minting, a line that mints burns. -/
theorem BurnsAfterMinting.holdsBurn (h : BurnsAfterMinting text) {line : List Char}
    (hline : line ∈ Text.lines text) (hmint : HoldsWord "mint" line) : HoldsWord "burn" line := by
  obtain ⟨i, hi⟩ := List.mem_iff_getElem?.1 hline
  obtain ⟨above, below, hplace⟩ := Text.exists_lineAt hi
  obtain ⟨before, word, rest, rfl, hword⟩ := hmint
  have hburns := h (above ++ before) word (rest ++ below) (by simp [hplace.split]) hword
  rw [onRestOfLine_word_append_iff (by decide) hplace.ends] at hburns
  have hrest := (holdsWord_of_onRestOfLine hburns).around (before ++ word) []
  simpa using hrest

/-- For a text whose owner can mint, the rule on minting is reported unless burning follows every
minting and no function is named for minting. A text for which it is not has a line that holds the
word for minting, the gate and the word for burning. -/
theorem gated_minting_reported (hnow : Clock.Shows now)
    (hrole : "Owner can mint new tokens" ∈ privilegedRoles text) :
    ((∃ line, builtinCatalog.Reports now text "minting_function" line) ↔
        ¬ (BurnsAfterMinting text ∧ ¬ HasSegment IsMintingFunction text)) ∧
      ((∃ line, builtinCatalog.Reports now text "minting_function" line) ∨
        ∃ line ∈ Text.lines text,
          HoldsWord "mint" line ∧ HoldsWord ownerGate line ∧ HoldsWord "burn" line) := by
  have hreported : (∃ line, builtinCatalog.Reports now text "minting_function" line) ↔
      ¬ (BurnsAfterMinting text ∧ ¬ HasSegment IsMintingFunction text) := by
    rw [exists_reports_minting_iff hnow, mintsWithoutBurning_iff, not_and_or, not_not]
  refine ⟨hreported, ?_⟩
  by_cases hburns : BurnsAfterMinting text
  · right
    obtain ⟨c, hc, ⟨line, hline, hname, hgate⟩, hsame⟩ :=
      mem_privilegedRoles_iff_shareLine.1 hrole
    have hmint : c = ⟨"mint", "Owner can mint new tokens"⟩ :=
      eq_of_description_eq c hc _ (by decide) hsame
    rw [hmint] at hname
    exact ⟨line, hline, hname, hgate, hburns.holdsBurn hline hname⟩
  · left
    exact hreported.2 fun h => hburns h.1

/-- A function that mints for the owner, and burns on the same line. -/
def gatedMintFunction : List Char :=
  "Function\tMINT(uint n) onlyOwner \x7b burn(n); \x7d".toList

/-- A function is named for minting, so the rule is reported although burning follows. -/
theorem gated_minting_reported_gatedMintFunction :
    Clock.Shows .zero ∧ "Owner can mint new tokens" ∈ privilegedRoles gatedMintFunction ∧
      ∃ line, builtinCatalog.Reports .zero gatedMintFunction "minting_function" line := by
  have hnow : Clock.Shows .zero := ⟨0, by decide +kernel⟩
  have hrole : "Owner can mint new tokens" ∈ privilegedRoles gatedMintFunction := by
    decide +kernel
  have hnamed : HasSegment IsMintingFunction gatedMintFunction :=
    ⟨[], "Function\tMINT".toList, "(uint n) onlyOwner \x7b burn(n); \x7d".toList, by decide,
      "Function".toList, ['\t'], "MINT".toList, by decide, by decide, by decide, by decide,
      by decide⟩
  exact ⟨hnow, hrole, (gated_minting_reported hnow hrole).1.2 fun h => h.2 hnamed⟩

/-- A call that mints for the owner, and burns on the same line. -/
def gatedMintCall : List Char :=
  "_mint(to, n) onlyOwner; burn(n);".toList

/-- Its owner can mint, and the rule on minting is not reported. -/
theorem gated_minting_unreported :
    "Owner can mint new tokens" ∈ privilegedRoles gatedMintCall ∧
      ¬ ∃ line, builtinCatalog.Reports .zero gatedMintCall "minting_function" line := by
  have hnow : Clock.Shows .zero := ⟨0, by decide +kernel⟩
  rw [exists_reports_iff hnow exists_mintingRule]
  decide +kernel

end TokenAudit
