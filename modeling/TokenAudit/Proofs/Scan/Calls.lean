import TokenAudit.Proofs.Pattern.Shape
import TokenAudit.Proofs.Scan.RecordedLine
import TokenAudit.Proofs.Scan.Reports

/-!
# External calls

Two built-in rules look for a call that passes value or gas: a point, the name `call`, braces and
parentheses. The first allows white space between the parts and lets a call pass when an amount is
set to zero on the rest of its line, or after white space that leaves it. The second allows none,
and lets a call pass when `require(` stands on the rest of its line, or when a transfer or a sending
stands directly behind the call. Had it passed over a transfer or a sending anywhere on the rest of
the line, as it does over `require(`, it would report the same texts but for those in which each
call is followed by one of the three and some call by a late transfer or sending only.
-/

set_option autoImplicit false

namespace TokenAudit

/-- A call that passes value or gas, with white space wherever it may stand. -/
def IsSpacedCall (segment : List Char) : Prop :=
  ∃ beforeName name afterName options between arguments,
    segment = '.' :: beforeName ++ name ++ afterName ++ options ++ between ++ arguments ∧
      AllBlank beforeName ∧ SameWord "call" name ∧ AllBlank afterName ∧
      Enclosed '\x7b' '\x7d' options ∧ AllBlank between ∧ Enclosed '(' ')' arguments

/-- A call that passes value or gas, written without white space. -/
def IsTightCall (segment : List Char) : Prop :=
  ∃ name options arguments, segment = '.' :: name ++ options ++ arguments ∧
    SameWord "call" name ∧ Enclosed '\x7b' '\x7d' options ∧ Enclosed '(' ')' arguments

/-- The text begins with white space and an amount that is set to zero. -/
def BeginsWithClearing (text : List Char) : Prop :=
  ∃ gap name beforeSign afterSign later,
    text = gap ++ name ++ beforeSign ++ '=' :: afterSign ++ '0' :: later ∧
      gap ≠ [] ∧ AllBlank gap ∧ SameWord "_amount" name ∧ AllBlank beforeSign ∧ AllBlank afterSign

/-- The text begins with a point and a name, with white space between them or none. -/
def BeginsWithMember (w : String) (text : List Char) : Prop :=
  ∃ gap name later, text = '.' :: gap ++ name ++ later ∧ AllBlank gap ∧ SameWord w name

/-- The text begins with one of the three words that make up for a call's unchecked result. -/
def BeginsWithCheck (text : List Char) : Prop :=
  BeginsWithWord "require(" text ∨ BeginsWithMember "transfer" text ∨ BeginsWithMember "send" text

/-- The call in front of the text passes: `require(` stands on the rest of its line, or a transfer
or a sending directly behind it. -/
def Passes (rest : List Char) : Prop :=
  OnRestOfLine (BeginsWithWord "require(") rest ∨ BeginsWithMember "transfer" rest ∨
    BeginsWithMember "send" rest

/-- The text has a call without white space, and the rest follows it. -/
def FollowsTightCall (text rest : List Char) : Prop :=
  ∃ before segment, text = before ++ segment ++ rest ∧ IsTightCall segment

variable {text segment rest : List Char} {now : Binary64}

/-! ## Calls -/

/-- A point is spelled by a point alone. -/
theorem spells_point_iff : Spells (Step.word ".") text ↔ text = ['.'] :=
  spells_marks_iff rfl (by decide)

/-- Braces are spelled by a pair of them on one line, with no closing brace between them. -/
theorem spells_braces_iff : Spells braces text ↔ Enclosed '\x7b' '\x7d' text :=
  spells_enclosed_iff rfl rfl (by decide) (by decide)

/-- So are parentheses. -/
theorem spells_parentheses_iff : Spells parentheses text ↔ Enclosed '(' ')' text :=
  spells_enclosed_iff rfl rfl (by decide) (by decide)

/-- The name of a call is spelled in any letter case. -/
theorem spells_callName_iff : Spells (Step.word "call") text ↔ SameWord "call" text :=
  spells_word_iff

/-- The steps of a call with blanks spell exactly such a call. -/
theorem spells_spacedCall_iff : Spells spacedCall segment ↔ IsSpacedCall segment := by
  simp only [spacedCall, List.append_assoc, Spells.append_iff, spells_point_iff, spells_blanks_iff,
    spells_callName_iff, spells_braces_iff, spells_parentheses_iff]
  constructor
  · rintro ⟨_, _, rfl, rfl, beforeName, _, rfl, hbefore, name, _, rfl, hname, afterName, _, rfl,
      hafter, options, _, rfl, hoptions, between, arguments, rfl, hbetween, harguments⟩
    exact ⟨beforeName, name, afterName, options, between, arguments, by simp, hbefore, hname,
      hafter, hoptions, hbetween, harguments⟩
  · rintro ⟨beforeName, name, afterName, options, between, arguments, rfl, hbefore, hname, hafter,
      hoptions, hbetween, harguments⟩
    exact ⟨_, _, by simp, rfl, beforeName, _, rfl, hbefore, name, _, rfl, hname, afterName, _, rfl,
      hafter, options, _, rfl, hoptions, between, arguments, rfl, hbetween, harguments⟩

/-- The steps of a call without blanks spell exactly such a call. -/
theorem spells_tightCall_iff : Spells tightCall segment ↔ IsTightCall segment := by
  have hword : Step.word ".call" = Step.word "." ++ Step.word "call" := rfl
  simp only [tightCall, hword, List.append_assoc, Spells.append_iff, spells_point_iff,
    spells_callName_iff, spells_braces_iff, spells_parentheses_iff]
  constructor
  · rintro ⟨_, _, rfl, rfl, name, _, rfl, hname, options, arguments, rfl, hoptions, harguments⟩
    exact ⟨name, options, arguments, by simp, hname, hoptions, harguments⟩
  · rintro ⟨name, options, arguments, rfl, hname, hoptions, harguments⟩
    exact ⟨_, _, by simp, rfl, name, _, rfl, hname, options, arguments, rfl, hoptions, harguments⟩

/-! ## What may follow them -/

/-- The guard of a call is met exactly when an amount is cleared on the rest of the line. -/
theorem startsWith_amountCleared_iff :
    startsWith amountCleared rest = true ↔ OnRestOfLine BeginsWithClearing rest := by
  have hsign (text : List Char) : Spells (Step.word "=") text ↔ text = ['='] :=
    spells_marks_iff rfl (by decide)
  have hzero (text : List Char) :
      startsWith (Step.word "0") text = true ↔ ∃ later, text = ['0'] ++ later :=
    startsWith_marks_iff rfl (by decide)
  simp only [amountCleared, List.append_assoc]
  apply startsWith_sameLine_iff
  intro tail
  simp only [startsWith_append_iff, spells_someBlanks_iff, spells_word_iff, spells_blanks_iff,
    hsign, hzero]
  constructor
  · rintro ⟨gap, _, rfl, ⟨hne, hgap⟩, name, _, rfl, hname, beforeSign, _, rfl, hbefore, _, _, rfl,
      rfl, afterSign, _, rfl, hafter, later, rfl⟩
    exact ⟨gap, name, beforeSign, afterSign, later, by simp, hne, hgap, hname, hbefore, hafter⟩
  · rintro ⟨gap, name, beforeSign, afterSign, later, rfl, hne, hgap, hname, hbefore, hafter⟩
    exact ⟨gap, _, by simp, ⟨hne, hgap⟩, name, _, rfl, hname, beforeSign, _, rfl, hbefore, _, _,
      rfl, rfl, afterSign, _, rfl, hafter, later, rfl⟩

instance : Decidable (OnRestOfLine BeginsWithClearing rest) :=
  decidable_of_iff _ startsWith_amountCleared_iff

/-- A text begins with a member exactly when it does so with a point, blanks and the name. -/
theorem startsWith_member_iff {w : String} :
    startsWith (Step.word "." ++ Step.blanks ++ Step.word w) rest = true ↔
      BeginsWithMember w rest := by
  simp only [List.append_assoc, startsWith_append_iff, spells_point_iff, spells_blanks_iff,
    startsWith_word_iff]
  constructor
  · rintro ⟨_, _, rfl, rfl, gap, _, rfl, hgap, name, later, rfl, hname⟩
    exact ⟨gap, name, later, by simp, hgap, hname⟩
  · rintro ⟨gap, name, later, rfl, hgap, hname⟩
    exact ⟨_, _, by simp, rfl, gap, _, rfl, hgap, name, later, rfl, hname⟩

/-- A call passes by the guards of its rule. -/
theorem passes_iff : Passes rest ↔ ∃ guard ∈ [Step.sameLine ++ Step.word "require(",
    Step.word "." ++ Step.blanks ++ Step.word "transfer",
    Step.word "." ++ Step.blanks ++ Step.word "send"], startsWith guard rest = true := by
  simp only [List.exists_mem_cons_iff, List.not_mem_nil, false_and, exists_false, or_false,
    startsWith_sameLine_iff fun _ => startsWith_word_iff, startsWith_member_iff]
  rfl

instance : Decidable (Passes rest) :=
  decidable_of_iff _ passes_iff.symm

/-- A check stands on the rest of the line exactly when one of three guards would be met there. -/
theorem onRestOfLine_check_iff : OnRestOfLine BeginsWithCheck rest ↔
    ∃ guard ∈ [Step.word "require(", Step.word "." ++ Step.blanks ++ Step.word "transfer",
      Step.word "." ++ Step.blanks ++ Step.word "send"],
      startsWith (Step.sameLine ++ guard) rest = true := by
  simp only [List.exists_mem_cons_iff, List.not_mem_nil, false_and, exists_false, or_false,
    startsWith_sameLine_iff fun _ => startsWith_word_iff,
    startsWith_sameLine_iff fun _ => startsWith_member_iff, OnRestOfLine, BeginsWithCheck,
    and_or_left, exists_or]

instance : Decidable (OnRestOfLine BeginsWithCheck rest) :=
  decidable_of_iff _ onRestOfLine_check_iff.symm

/-- Whether some call is followed by a rest of a kind is found by a search. -/
theorem exists_followsTightCall_iff {kind : List Char → Prop} [DecidablePred kind] :
    (∃ rest, FollowsTightCall text rest ∧ kind rest) ↔
      someSuffix (spellsThen tightCall fun rest => decide (kind rest)) text = true := by
  simp only [someSuffix_iff, spellsThen_iff, spells_tightCall_iff, decide_eq_true_eq]
  constructor
  · rintro ⟨rest, ⟨before, segment, rfl, hcall⟩, hkind⟩
    exact ⟨before, segment ++ rest, by simp, segment, rest, rfl, hcall, hkind⟩
  · rintro ⟨before, _, rfl, segment, rest, rfl, hcall, hkind⟩
    exact ⟨rest, ⟨before, segment, by simp, hcall⟩, hkind⟩

instance {kind : List Char → Prop} [DecidablePred kind] :
    Decidable (∃ rest, FollowsTightCall text rest ∧ kind rest) :=
  decidable_of_iff _ exists_followsTightCall_iff.symm

/-- What lets a call pass is one of the three words, on the rest of its line. -/
theorem Passes.onRestOfLine (h : Passes rest) : OnRestOfLine BeginsWithCheck rest := by
  rcases h with ⟨line, tail, rfl, hline, hrequire⟩ | htransfer | hsend
  · exact ⟨line, tail, rfl, hline, .inl hrequire⟩
  · exact ⟨[], rest, rfl, by simp, .inr (.inl htransfer)⟩
  · exact ⟨[], rest, rfl, by simp, .inr (.inr hsend)⟩

/-! ## The rule on calls before the state changes -/

/-- The rule is reported exactly when some call of the text is not followed, on the rest of its line
or after white space that leaves it, by an amount that is set to zero. -/
theorem reentrancy_reported_iff (hnow : Clock.Shows now) (text : List Char) :
    (∃ line, builtinCatalog.Reports now text "reentrancy" line) ↔
      ∃ before segment rest, text = before ++ segment ++ rest ∧ IsSpacedCall segment ∧
        ¬ OnRestOfLine BeginsWithClearing rest := by
  have hrule : ∃ rule ∈ builtinRules, rule.key = "reentrancy" ∧
      rule.probe = .pattern [{ body := spacedCall, guards := [amountCleared] }] :=
    ⟨builtinRules[0], List.getElem_mem _, rfl, rfl⟩
  rw [exists_reports_iff hnow hrule, Pattern.occursIn_singleton_iff]
  simp only [spells_spacedCall_iff, List.mem_singleton, forall_eq, startsWith_amountCleared_iff]

/-- A call that is followed on the next line by an amount set to zero, and one in capitals, over two
lines, that is not. -/
def clearedOnce : List Char :=
  "a.call\x7b\x7d();\n_amount = 0;\nb. CALL\n\x7bv\x7d (x);".toList

/-- The second call is not cleared, so the rule is reported. -/
theorem reentrancy_reported_iff_clearedOnce :
    Clock.Shows .zero ∧ (∃ line, builtinCatalog.Reports .zero clearedOnce "reentrancy" line) ∧
      ∃ before segment rest, clearedOnce = before ++ segment ++ rest ∧ IsSpacedCall segment ∧
        ¬ OnRestOfLine BeginsWithClearing rest := by
  have hnow : Clock.Shows .zero := ⟨0, by decide +kernel⟩
  have hcall : IsSpacedCall ". CALL\n\x7bv\x7d (x)".toList :=
    ⟨[' '], "CALL".toList, ['\n'], "\x7bv\x7d".toList, [' '], "(x)".toList, by decide, by decide,
      by decide, by decide, ⟨['v'], by decide, by simp⟩, by decide, ⟨['x'], by decide, by simp⟩⟩
  have hfound : ∃ before segment rest, clearedOnce = before ++ segment ++ rest ∧
      IsSpacedCall segment ∧ ¬ OnRestOfLine BeginsWithClearing rest :=
    ⟨"a.call\x7b\x7d();\n_amount = 0;\nb".toList, _, [';'], by decide, hcall,
      by decide⟩
  exact ⟨hnow, (reentrancy_reported_iff hnow clearedOnce).2 hfound, hfound⟩

/-! ## The rule on unchecked results -/

/-- An unchecked call is reported exactly when what follows a call does not pass for a check. -/
theorem exists_reports_uncheckedCall_iff (hnow : Clock.Shows now) (text : List Char) :
    (∃ line, builtinCatalog.Reports now text "unchecked_call_return" line) ↔
      ∃ rest, FollowsTightCall text rest ∧ ¬ Passes rest := by
  have hrule : ∃ rule ∈ builtinRules, rule.key = "unchecked_call_return" ∧
      rule.probe = .pattern [{
        body := tightCall
        guards := [Step.sameLine ++ Step.word "require(",
          Step.word "." ++ Step.blanks ++ Step.word "transfer",
          Step.word "." ++ Step.blanks ++ Step.word "send"] }] :=
    ⟨builtinRules[2], List.getElem_mem _, rfl, rfl⟩
  rw [exists_reports_iff hnow hrule, Pattern.occursIn_singleton_iff]
  simp only [passes_iff, not_exists, not_and]
  unfold FollowsTightCall
  simp only [spells_tightCall_iff]
  constructor
  · rintro ⟨before, segment, rest, htext, hcall, hguards⟩
    exact ⟨rest, ⟨before, segment, htext, hcall⟩, hguards⟩
  · rintro ⟨rest, ⟨before, segment, htext, hcall⟩, hguards⟩
    exact ⟨before, segment, rest, htext, hcall, hguards⟩

/-- The rule is reported exactly when some call of the text does not pass. That is whether some call
has none of the three words on the rest of its line exactly for the texts that have such a call, and
for those in which every call passes. -/
theorem unchecked_call_reported_iff (hnow : Clock.Shows now) (text : List Char) :
    ((∃ line, builtinCatalog.Reports now text "unchecked_call_return" line) ↔
        ∃ rest, FollowsTightCall text rest ∧ ¬ Passes rest) ∧
      (((∃ line, builtinCatalog.Reports now text "unchecked_call_return" line) ↔
          ∃ rest, FollowsTightCall text rest ∧ ¬ OnRestOfLine BeginsWithCheck rest) ↔
        (∃ rest, FollowsTightCall text rest ∧ ¬ OnRestOfLine BeginsWithCheck rest) ∨
          ∀ rest, FollowsTightCall text rest → Passes rest) := by
  have hreports := exists_reports_uncheckedCall_iff hnow text
  refine ⟨hreports, ?_⟩
  rw [hreports]
  constructor
  · intro h
    by_cases hall : ∀ rest, FollowsTightCall text rest → Passes rest
    · exact .inr hall
    · left
      apply h.1
      simpa using hall
  · rintro (⟨rest, hcall, hnone⟩ | hall)
    · have hfails : ¬ Passes rest := fun hpasses => hnone hpasses.onRestOfLine
      exact ⟨fun _ => ⟨rest, hcall, hnone⟩, fun _ => ⟨rest, hcall, hfails⟩⟩
    · constructor
      · rintro ⟨rest, hcall, hfails⟩
        exact absurd (hall rest hcall) hfails
      · rintro ⟨rest, hcall, hnone⟩
        exact absurd (hall rest hcall).onRestOfLine hnone

/-- Three calls: one before a requirement on its line, one directly before a transfer, and one
before neither. -/
def uncheckedOnce : List Char :=
  "a.call\x7b\x7d(); require(a);\nb.CALL\x7bv\x7d(c). Transfer(d);\ne.call\x7b\x7d(f);".toList

/-- The last call has none of the three words on the rest of its line, and the rule is reported. -/
theorem unchecked_call_reported_iff_uncheckedOnce :
    Clock.Shows .zero ∧
      (∃ rest, FollowsTightCall uncheckedOnce rest ∧ ¬ OnRestOfLine BeginsWithCheck rest) ∧
      ∃ line, builtinCatalog.Reports .zero uncheckedOnce "unchecked_call_return" line := by
  have hnow : Clock.Shows .zero := ⟨0, by decide +kernel⟩
  have hfound : ∃ rest, FollowsTightCall uncheckedOnce rest ∧
      ¬ OnRestOfLine BeginsWithCheck rest := by
    decide +kernel
  exact ⟨hnow, hfound,
    ((unchecked_call_reported_iff hnow uncheckedOnce).2.2 (.inl hfound)).2 hfound⟩

/-- A call with a transfer further on in its line. -/
def lateTransfer : List Char :=
  "x.call\x7b\x7d(); y.transfer(z);".toList

/-- The rule is reported although every call has one of the three words on the rest of its line. -/
theorem late_transfer_reported :
    (∃ line, builtinCatalog.Reports .zero lateTransfer "unchecked_call_return" line) ∧
      ¬ ∃ rest, FollowsTightCall lateTransfer rest ∧ ¬ OnRestOfLine BeginsWithCheck rest := by
  have hnow : Clock.Shows .zero := ⟨0, by decide +kernel⟩
  have hnone : ¬ ∃ rest, FollowsTightCall lateTransfer rest ∧
      ¬ OnRestOfLine BeginsWithCheck rest := by
    decide +kernel
  have hfails : ∃ rest, FollowsTightCall lateTransfer rest ∧ ¬ Passes rest := by
    decide +kernel
  exact ⟨(exists_reports_uncheckedCall_iff hnow lateTransfer).2 hfails, hnone⟩

end TokenAudit
