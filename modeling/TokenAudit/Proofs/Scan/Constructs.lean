import TokenAudit.Proofs.Scan.Joined
import TokenAudit.Proofs.Scan.Words

/-!
# The other risky constructs

Two of the built-in rules look for external calls. Of the other eight, five look for words only;
one looks for two words or a check that only the owner passes, one for an address with its forty
digits, and one for a word that no other follows on its line, or for a function of that name. What
stays on its line is found in one of the lines too, so a rule that is reported carries no line only
where white space in what it looks for may have led off the line.
-/

set_option autoImplicit false

namespace TokenAudit

/-- A check that only the owner passes, with white space wherever it may stand. -/
def IsOwnerCheck (segment : List Char) : Prop :=
  ∃ opening beforeSender sender afterSender beforeOwner owner afterOwner,
    segment = opening ++ beforeSender ++ sender ++ afterSender ++ '=' :: '=' :: beforeOwner ++
        owner ++ afterOwner ++ [')'] ∧
      SameWord "require(" opening ∧ AllBlank beforeSender ∧ SameWord "msg.sender" sender ∧
      AllBlank afterSender ∧ AllBlank beforeOwner ∧ SameWord "owner" owner ∧ AllBlank afterOwner

/-- An address given by exactly forty hexadecimal digits, with white space wherever it may stand. -/
def IsLiteralAddress (segment : List Char) : Prop :=
  ∃ name afterName beforeDigits sign digits afterDigits,
    segment = name ++ afterName ++ '(' :: beforeDigits ++ sign ++ digits ++ afterDigits ++ [')'] ∧
      SameWord "address" name ∧ AllBlank afterName ∧ AllBlank beforeDigits ∧ SameWord "0x" sign ∧
      digits.length = 40 ∧ (∀ c ∈ digits, c ∈ "0123456789abcdefABCDEF".toList) ∧
      AllBlank afterDigits

/-- A function whose name begins with the word for minting. -/
def IsMintingFunction (segment : List Char) : Prop :=
  ∃ keyword gap name, segment = keyword ++ gap ++ name ∧ SameWord "function" keyword ∧
    gap ≠ [] ∧ AllBlank gap ∧ SameWord "mint" name

/-- The word for minting stands in the text, somewhere without the word for burning later on the
line. -/
def MintsWithoutBurning (text : List Char) : Prop :=
  ∃ before word rest, text = before ++ word ++ rest ∧ SameWord "mint" word ∧
    ¬ OnRestOfLine (BeginsWithWord "burn") rest

variable {text segment : List Char} {now : Binary64}

/-! ## What the phrases spell -/

/-- The steps of a check of the owner spell exactly such a check. -/
theorem spells_ownerCheck_iff : Spells ownerCheck segment ↔ IsOwnerCheck segment := by
  have hequals (text : List Char) : Spells (Step.word "==") text ↔ text = ['=', '='] :=
    spells_marks_iff rfl (by decide)
  have hclosing (text : List Char) : Spells (Step.word ")") text ↔ text = [')'] :=
    spells_marks_iff rfl (by decide)
  simp only [ownerCheck, List.append_assoc, Spells.append_iff, hequals, hclosing,
    spells_blanks_iff, spells_word_iff]
  constructor
  · rintro ⟨opening, _, rfl, hopening, beforeSender, _, rfl, hbefore, sender, _, rfl, hsender,
      afterSender, _, rfl, hafter, _, _, rfl, rfl, beforeOwner, _, rfl, hgap, owner, _, rfl,
      howner, afterOwner, _, rfl, hlast, rfl⟩
    exact ⟨opening, beforeSender, sender, afterSender, beforeOwner, owner, afterOwner, by simp,
      hopening, hbefore, hsender, hafter, hgap, howner, hlast⟩
  · rintro ⟨opening, beforeSender, sender, afterSender, beforeOwner, owner, afterOwner, rfl,
      hopening, hbefore, hsender, hafter, hgap, howner, hlast⟩
    exact ⟨opening, _, by simp, hopening, beforeSender, _, rfl, hbefore, sender, _, rfl, hsender,
      afterSender, _, rfl, hafter, _, _, rfl, rfl, beforeOwner, _, rfl, hgap, owner, _, rfl,
      howner, afterOwner, _, rfl, hlast, rfl⟩

/-- The hexadecimal digits are the ten digits and six letters in either case. -/
theorem hexDigit_has_iff {c : Char} :
    CharSet.hexDigit.has c = true ↔ c ∈ "0123456789abcdefABCDEF".toList := by
  have hsmall (h : CharSet.hexDigit.has c = true) : c.toNat < 128 := by
    have hranges : (48 ≤ c.toNat ∧ c.toNat ≤ 57 ∨ 97 ≤ c.toNat ∧ c.toNat ≤ 102) ∨
        65 ≤ c.toNat ∧ c.toNat ≤ 70 := by
      simpa [CharSet.has, Char.isDigit, Char.le_def, UInt32.le_iff_toNat_le] using h
    omega
  have hlisted : "0123456789abcdefABCDEF".toList.all CharSet.hexDigit.has = true := by
    decide
  constructor
  · intro h
    have hlt := hsmall h
    revert h
    apply Text.of_lt_ascii _ hlt
    decide +kernel
  · exact List.all_eq_true.1 hlisted c

/-- The steps of an address spell exactly an address. -/
theorem spells_literalAddress_iff : Spells literalAddress segment ↔ IsLiteralAddress segment := by
  have hopening (text : List Char) : Spells (Step.word "(") text ↔ text = ['('] :=
    spells_marks_iff rfl (by decide)
  have hclosing (text : List Char) : Spells (Step.word ")") text ↔ text = [')'] :=
    spells_marks_iff rfl (by decide)
  simp only [literalAddress, List.append_assoc, Spells.append_iff, hopening, hclosing,
    spells_blanks_iff, spells_word_iff, spells_replicate_iff, hexDigit_has_iff]
  constructor
  · rintro ⟨name, _, rfl, hname, afterName, _, rfl, hafter, _, _, rfl, rfl, beforeDigits, _, rfl,
      hbefore, sign, _, rfl, hsign, digits, _, rfl, ⟨hlength, hdigits⟩, afterDigits, _, rfl, hlast,
      rfl⟩
    exact ⟨name, afterName, beforeDigits, sign, digits, afterDigits, by simp, hname, hafter,
      hbefore, hsign, hlength, hdigits, hlast⟩
  · rintro ⟨name, afterName, beforeDigits, sign, digits, afterDigits, rfl, hname, hafter,
      hbefore, hsign, hlength, hdigits, hlast⟩
    exact ⟨name, _, by simp, hname, afterName, _, rfl, hafter, _, _, rfl, rfl, beforeDigits, _, rfl,
      hbefore, sign, _, rfl, hsign, digits, _, rfl, ⟨hlength, hdigits⟩, afterDigits, _, rfl, hlast,
      rfl⟩

/-- The steps of a minting function spell exactly the beginning of one. -/
theorem spells_mintingFunction_iff :
    Spells (Step.word "function" ++ Step.someBlanks ++ Step.word "mint") segment ↔
      IsMintingFunction segment := by
  simp only [List.append_assoc, Spells.append_iff, spells_someBlanks_iff, spells_word_iff]
  constructor
  · rintro ⟨keyword, _, rfl, hkeyword, gap, name, rfl, ⟨hne, hgap⟩, hname⟩
    exact ⟨keyword, gap, name, by simp, hkeyword, hne, hgap, hname⟩
  · rintro ⟨keyword, gap, name, rfl, hkeyword, hne, hgap, hname⟩
    exact ⟨keyword, _, by simp, hkeyword, gap, name, rfl, ⟨hne, hgap⟩, hname⟩

/-! ## When they are found in a line -/

/-- A phrase that stays on its line, and that occurs in a text, occurs in one of its lines: a guard
that followed there would follow in the text. -/
theorem Phrase.exists_line_of_occursIn {p : Phrase}
    (hbody : ∀ step ∈ p.body, step.staysOnLine = true) (h : p.occursIn text = true) :
    ∃ line ∈ Text.lines text, p.occursIn line = true := by
  obtain ⟨before, segment, after, rfl, hspells, hguards⟩ := Phrase.occursIn_iff.1 h
  have hunbroken := hspells.newline_not_mem hbody
  obtain ⟨start, rest, hrest, hat⟩ := Text.exists_line_around hunbroken before after
  refine ⟨_, List.mem_of_getElem? hat, Phrase.occursIn_iff.2 ?_⟩
  refine ⟨start, segment, rest, rfl, hspells, ?_⟩
  intro guard hguard
  rw [Bool.eq_false_iff]
  intro hfollows
  have hafter := startsWith_of_isPrefix hrest hfollows
  rw [hguards guard hguard] at hafter
  cases hafter

/-- Each phrase of a built-in rule allows for white space or stays on its line. -/
theorem builtinRules_blank_or_staysOnLine : ∀ rule ∈ builtinRules, ∃ ps, rule.probe = .pattern ps ∧
    ∀ p ∈ ps, .many .blank ∈ p.body ∨ ∀ step ∈ p.body, step.staysOnLine = true := by
  have hrules : builtinRules.all (fun rule => rule.probe.isPatternWith fun ps => ps.all fun p =>
      p.body.contains (.many .blank) || p.body.all Step.staysOnLine) = true := by
    decide +kernel
  intro rule hrule
  obtain ⟨ps, hps, hphrases⟩ := exists_pattern_of_all hrules rule hrule
  refine ⟨ps, hps, ?_⟩
  simpa using hphrases

/-- A built-in rule that is reported without a line looks for something with white space in it. -/
theorem exists_blank_of_reports_none {rule : Rule} (hrule : rule ∈ builtinRules)
    (hreports : builtinCatalog.Reports now text rule.key none) :
    ∃ ps, rule.probe = .pattern ps ∧ ∃ p ∈ ps, .many .blank ∈ p.body := by
  obtain ⟨ps, hps, hphrases⟩ := builtinRules_blank_or_staysOnLine rule hrule
  obtain ⟨-, hoccurs, hline⟩ := (builtinCatalog_reports_iff hrule hps).1 hreports
  obtain ⟨p, hp, hfound⟩ := List.any_eq_true.1 hoccurs
  refine ⟨ps, hps, p, hp, ?_⟩
  rcases hphrases p hp with hblank | hstays
  · exact hblank
  · exfalso
    obtain ⟨line, hmem, hfound⟩ := p.exists_line_of_occursIn hstays hfound
    have hnone := Pattern.firstLine?_eq_none_iff.1 hline.symm line hmem
    have hhit : ps.occursIn line = true := List.any_eq_true.2 ⟨p, hp, hfound⟩
    rw [hnone] at hhit
    cases hhit

/-! ## The rules -/

/-- A rule that looks for words is reported exactly when the text holds one of them. -/
theorem exists_reports_word_iff (hnow : Clock.Shows now) {key : String}
    (hkey : key ∈ soughtWords.map Prod.fst) :
    (∃ line, builtinCatalog.Reports now text key line) ↔
      ∃ w, (key, w) ∈ soughtWords ∧ HoldsWord w text := by
  obtain ⟨⟨_, w⟩, hsought, rfl⟩ := List.mem_map.1 hkey
  obtain ⟨⟨rule, hrule, hname⟩, -⟩ := exists_rule_of_soughtWord _ hsought
  rw [← hname] at hkey
  have hprobe := builtinRules_soughtWords rule hrule hkey
  rw [exists_reports_iff hnow ⟨rule, hrule, hname, hprobe⟩, Pattern.occursIn_anyWord_iff]
  simp [hname]

/-- Privileges of an owner are reported exactly when the text holds a word for them or a check of
the owner. -/
theorem exists_reports_owner_iff (hnow : Clock.Shows now) :
    (∃ line, builtinCatalog.Reports now text "owner_privileges" line) ↔
      HoldsWord "onlyOwner" text ∨ HoldsWord "Ownable" text ∨ HasSegment IsOwnerCheck text := by
  have hrule : ∃ rule ∈ builtinRules, rule.key = "owner_privileges" ∧ rule.probe = .pattern
      [.plain (Step.word "onlyOwner"), .plain (Step.word "Ownable"), .plain ownerCheck] :=
    ⟨builtinRules[3], List.getElem_mem _, rfl, rfl⟩
  rw [exists_reports_iff hnow hrule]
  simp only [Pattern.occursIn_cons_iff, Pattern.occursIn_nil, Bool.false_eq_true, or_false,
    Phrase.occursIn_word_iff, Phrase.occursIn_plain_iff fun _ => spells_ownerCheck_iff]

/-- An address is reported exactly when the text has one. -/
theorem exists_reports_address_iff (hnow : Clock.Shows now) :
    (∃ line, builtinCatalog.Reports now text "hardcoded_address" line) ↔
      HasSegment IsLiteralAddress text := by
  have hrule : ∃ rule ∈ builtinRules, rule.key = "hardcoded_address" ∧
      rule.probe = .pattern [.plain literalAddress] :=
    ⟨builtinRules[5], List.getElem_mem _, rfl, rfl⟩
  rw [exists_reports_iff hnow hrule]
  simp only [Pattern.occursIn_cons_iff, Pattern.occursIn_nil, Bool.false_eq_true, or_false,
    Phrase.occursIn_plain_iff fun _ => spells_literalAddress_iff]

/-- The rule on minting looks for a word without another behind it, or for a function. -/
theorem exists_mintingRule : ∃ rule ∈ builtinRules, rule.key = "minting_function" ∧
    rule.probe = .pattern
      [{ body := Step.word "mint", guards := [Step.sameLine ++ Step.word "burn"] },
        .plain (Step.word "function" ++ Step.someBlanks ++ Step.word "mint")] :=
  ⟨builtinRules[8], List.getElem_mem _, rfl, rfl⟩

/-- Minting is reported exactly when the text mints without burning later on the line, or has a
minting function. -/
theorem exists_reports_minting_iff (hnow : Clock.Shows now) :
    (∃ line, builtinCatalog.Reports now text "minting_function" line) ↔
      MintsWithoutBurning text ∨ HasSegment IsMintingFunction text := by
  have hburn (rest : List Char) : startsWith (Step.sameLine ++ Step.word "burn") rest = true ↔
      OnRestOfLine (BeginsWithWord "burn") rest :=
    startsWith_sameLine_iff fun _ => startsWith_word_iff
  rw [exists_reports_iff hnow exists_mintingRule]
  simp only [Pattern.occursIn_cons_iff, Pattern.occursIn_nil, Bool.false_eq_true, or_false,
    Phrase.occursIn_plain_iff fun _ => spells_mintingFunction_iff, Phrase.occursIn_iff,
    spells_word_iff, List.mem_singleton, forall_eq, ← Bool.not_eq_true, hburn]
  rfl

/-- A rule that looks for words only is never reported without a line. -/
theorem not_reports_word_none {key : String} (hkey : key ∈ soughtWords.map Prod.fst) :
    ¬ builtinCatalog.Reports now text key none := by
  intro hreports
  obtain ⟨⟨_, w⟩, hsought, rfl⟩ := List.mem_map.1 hkey
  obtain ⟨⟨rule, hrule, hname⟩, -⟩ := exists_rule_of_soughtWord _ hsought
  rw [← hname] at hkey hreports
  obtain ⟨ps, hps, p, hp, hblank⟩ := exists_blank_of_reports_none hrule hreports
  rw [builtinRules_soughtWords rule hrule hkey, Probe.pattern.injEq] at hps
  subst hps
  obtain ⟨word, -, rfl⟩ := List.mem_map.1 hp
  -- a word is spelled by single characters
  simp [Phrase.plain, Step.word] at hblank

/-- Each of the eight rules is reported exactly when the text holds what it looks for, in any letter
case and with any white space where white space may stand. Those that look for words only always
carry a line, and so does each rule but those that look for something with white space in it. -/
theorem constructs_reported_iff (hnow : Clock.Shows now) (text : List Char) :
    (∀ key ∈ soughtWords.map Prod.fst,
        (∃ line, builtinCatalog.Reports now text key line) ↔
          ∃ w, (key, w) ∈ soughtWords ∧ HoldsWord w text) ∧
      ((∃ line, builtinCatalog.Reports now text "owner_privileges" line) ↔
        HoldsWord "onlyOwner" text ∨ HoldsWord "Ownable" text ∨ HasSegment IsOwnerCheck text) ∧
      ((∃ line, builtinCatalog.Reports now text "hardcoded_address" line) ↔
        HasSegment IsLiteralAddress text) ∧
      ((∃ line, builtinCatalog.Reports now text "minting_function" line) ↔
        MintsWithoutBurning text ∨ HasSegment IsMintingFunction text) ∧
      (∀ key ∈ soughtWords.map Prod.fst, ¬ builtinCatalog.Reports now text key none) ∧
      ∀ rule ∈ builtinRules, builtinCatalog.Reports now text rule.key none →
        ∃ ps, rule.probe = .pattern ps ∧ ∃ p ∈ ps, .many .blank ∈ p.body := by
  refine ⟨?_, exists_reports_owner_iff hnow, exists_reports_address_iff hnow,
    exists_reports_minting_iff hnow, ?_, ?_⟩
  · intro key hkey
    exact exists_reports_word_iff hnow hkey
  · intro key hkey
    exact not_reports_word_none hkey
  · intro rule hrule hreports
    exact exists_blank_of_reports_none hrule hreports

/-- A word with the sign for kelvin in place of a letter. -/
def oddWord : List Char :=
  "blac\u212alist".toList

/-- An address that ends on the next line. -/
def oddAddress : List Char :=
  "Address (0X".toList ++ List.replicate 40 'F' ++ ['\n', ')']

/-- A function to mint whose name stands on the next line, before the word for burning. -/
def oddFunction : List Char :=
  "function\n\tMint".toList

/-- Constructs in odd spellings. -/
def oddSpellings : List Char :=
  oddWord ++ ' ' :: oddAddress ++ ' ' :: oddFunction ++ " burn".toList

/-- This is an address. -/
theorem isLiteralAddress_oddAddress : IsLiteralAddress oddAddress := by
  have hdigits : ∀ c ∈ List.replicate 40 'F', c ∈ "0123456789abcdefABCDEF".toList := by
    intro c hc
    rw [List.eq_of_mem_replicate hc]
    decide
  exact ⟨"Address".toList, [' '], [], "0X".toList, _, ['\n'], rfl, by decide, by decide, by decide,
    by decide, List.length_replicate, hdigits, by decide⟩

/-- This is the beginning of a minting function. -/
theorem isMintingFunction_oddFunction : IsMintingFunction oddFunction :=
  ⟨"function".toList, ['\n', '\t'], "Mint".toList, rfl, by decide, by decide, by decide,
    by decide⟩

/-- The three rules that look for them are reported. -/
theorem constructs_reported_iff_oddSpellings :
    Clock.Shows .zero ∧
      (∃ line, builtinCatalog.Reports .zero oddSpellings "blacklist_feature" line) ∧
      (∃ line, builtinCatalog.Reports .zero oddSpellings "hardcoded_address" line) ∧
      (∃ line, builtinCatalog.Reports .zero oddSpellings "minting_function" line) := by
  have hnow : Clock.Shows .zero := ⟨0, by decide +kernel⟩
  have hsame : SameWord "blacklist" oddWord := by decide +kernel
  have hword : HoldsWord "blacklist" oddSpellings :=
    ⟨[], oddWord, ' ' :: oddAddress ++ ' ' :: oddFunction ++ " burn".toList, by simp [oddSpellings],
      hsame⟩
  have haddress : HasSegment IsLiteralAddress oddSpellings :=
    ⟨oddWord ++ [' '], oddAddress, ' ' :: oddFunction ++ " burn".toList, by simp [oddSpellings],
      isLiteralAddress_oddAddress⟩
  have hmint : HasSegment IsMintingFunction oddSpellings :=
    ⟨oddWord ++ ' ' :: oddAddress ++ [' '], oddFunction, " burn".toList, by simp [oddSpellings],
      isMintingFunction_oddFunction⟩
  obtain ⟨hwords, -, haddresses, hmints, -, -⟩ := constructs_reported_iff hnow oddSpellings
  refine ⟨hnow, ?_, haddresses.2 haddress, hmints.2 (.inr hmint)⟩
  exact (hwords "blacklist_feature" (by decide)).2 ⟨"blacklist", by decide, hword⟩

end TokenAudit
