import TokenAudit.Proofs.Pattern.LineEnding
import TokenAudit.Summary.Basic

/-!
# Summaries and line endings

What is said about a source beside its findings does not depend on whether its lines end in a
carriage return: comment markers are made of slashes and asterisks, which no line ending parts or
brings together, the idioms that are looked for hold neither of the two characters, and the
patterns of the owner's capabilities tolerate both endings.
-/

set_option autoImplicit false

namespace TokenAudit

open Text (withReturns)

/-- A text begins with a character other than the two of a line ending exactly when it does with
carriage returns. -/
theorem head?_withReturns_eq_some_iff {c : Char} {text : List Char} (hnewline : c ≠ '\n')
    (hreturn : c ≠ '\r') : (withReturns text).head? = some c ↔ text.head? = some c := by
  cases text with
  | nil => rfl
  | cons d text =>
    by_cases hd : d = '\n'
    · subst hd
      simp [Ne.symm hnewline, Ne.symm hreturn]
    · rw [Text.withReturns_cons hd]
      rfl

/-- A character with which no pair begins adds none. -/
theorem slashPairs_cons (count : Nat) {c : Char} {rest : List Char}
    (h : ¬ (c = '/' ∧ rest.head? = some '/')) :
    slashPairs count (c :: rest) = slashPairs count rest := by
  rw [slashPairs]
  rintro tail rfl rfl
  exact h ⟨rfl, rfl⟩

/-- Line endings make and break no pair of slashes. -/
theorem slashPairs_withReturns (count : Nat) (text : List Char) :
    slashPairs count (withReturns text) = slashPairs count text := by
  fun_induction slashPairs count text with
  | case1 count rest ih =>
    rw [Text.withReturns_cons (by decide), Text.withReturns_cons (by decide)]
    exact ih
  | case2 count c rest hpair ih =>
    by_cases hc : c = '\n'
    · subst hc
      rw [Text.withReturns_newline, slashPairs_cons _ (by simp), slashPairs_cons _ (by simp), ih]
    · rw [Text.withReturns_cons hc, slashPairs_cons, ih]
      rintro ⟨rfl, hhead⟩
      rw [head?_withReturns_eq_some_iff (by decide) (by decide)] at hhead
      obtain ⟨tail, rfl⟩ := List.head?_eq_some_iff.1 hhead
      exact hpair tail rfl rfl
  | case3 count => rfl

/-- A character with which no mark begins neither opens nor closes a block. -/
theorem closedBlocks_cons (inside : Bool) (count : Nat) {c : Char} {rest : List Char}
    (hopen : inside = false → ¬ (c = '/' ∧ rest.head? = some '*'))
    (hclose : inside = true → ¬ (c = '*' ∧ rest.head? = some '/')) :
    closedBlocks inside count (c :: rest) = closedBlocks inside count rest := by
  cases rest with
  | nil => rfl
  | cons d rest =>
    cases inside with
    | false =>
      have hpair : ¬ (c = '/' ∧ d = '*') := by simpa using hopen rfl
      exact if_neg hpair
    | true =>
      have hpair : ¬ (c = '*' ∧ d = '/') := by simpa using hclose rfl
      exact if_neg hpair

/-- Carriage returns neither open nor close a block. -/
theorem closedBlocks_withReturns (inside : Bool) (count : Nat) (text : List Char) :
    closedBlocks inside count (withReturns text) = closedBlocks inside count text := by
  have hskip (inside : Bool) (count : Nat) (rest : List Char) :
      closedBlocks inside count ('\r' :: '\n' :: rest) = closedBlocks inside count rest := by
    rw [closedBlocks_cons _ _ (by simp) (by simp), closedBlocks_cons _ _ (by simp) (by simp)]
  fun_induction closedBlocks inside count text with
  | case1 count c d rest hpair ih =>
    obtain ⟨rfl, rfl⟩ := hpair
    rw [Text.withReturns_cons (by decide), Text.withReturns_cons (by decide)]
    exact ih
  | case2 count c d rest hpair ih =>
    by_cases hc : c = '\n'
    · subst hc
      rw [Text.withReturns_newline, hskip, ih]
    · rw [Text.withReturns_cons hc, closedBlocks_cons _ _ _ (by simp), ih]
      rintro - ⟨rfl, hhead⟩
      rw [head?_withReturns_eq_some_iff (by decide) (by decide)] at hhead
      cases hhead
      exact hpair ⟨rfl, rfl⟩
  | case3 count c d rest hpair ih =>
    obtain ⟨rfl, rfl⟩ := hpair
    rw [Text.withReturns_cons (by decide), Text.withReturns_cons (by decide)]
    exact ih
  | case4 count c d rest hpair ih =>
    by_cases hc : c = '\n'
    · subst hc
      rw [Text.withReturns_newline, hskip, ih]
    · rw [Text.withReturns_cons hc, closedBlocks_cons _ _ (by simp) _, ih]
      rintro - ⟨rfl, hhead⟩
      rw [head?_withReturns_eq_some_iff (by decide) (by decide)] at hhead
      cases hhead
      exact hpair ⟨rfl, rfl⟩
  | case5 text inside count hshort =>
    cases text with
    | nil => rfl
    | cons c text =>
      cases text with
      | nil =>
        by_cases hc : c = '\n'
        · subst hc
          exact hskip inside count []
        · rw [Text.withReturns_cons hc]
          rfl
      | cons d rest => exact (hshort c d rest rfl).elim

/-- So a text has as many comments with them. -/
theorem commentCount_withReturns (text : List Char) :
    commentCount (withReturns text) = commentCount text := by
  unfold commentCount
  rw [slashPairs_withReturns, closedBlocks_withReturns]

/-- So it has the same ratio of comments. -/
theorem commentRatio_withReturns (text : List Char) :
    commentRatio (withReturns text) = commentRatio text := by
  unfold commentRatio
  rw [commentCount_withReturns, Text.lineCount_withReturns]

/-- A text mentions a word exactly when the word stands in it. -/
theorem mentions_iff {text : List Char} {word : String} :
    mentions text word = true ↔ ∃ before after, text = before ++ word.toList ++ after := by
  unfold mentions
  rw [someSuffix_iff]
  constructor
  · rintro ⟨before, after, rfl, h⟩
    obtain ⟨rest, rfl⟩ := List.isPrefixOf_iff_prefix.1 h
    exact ⟨before, rest, by simp⟩
  · rintro ⟨before, after, rfl⟩
    exact ⟨before, word.toList ++ after, by simp, by simp⟩

/-- A word without line endings is mentioned in a text exactly when it is with carriage returns. -/
theorem mentions_withReturns (text : List Char) {word : String} (hword : word.toList ≠ [])
    (hnewline : '\n' ∉ word.toList) (hreturn : '\r' ∉ word.toList) :
    mentions (withReturns text) word = mentions text word := by
  have hsame : withReturns word.toList = word.toList := Text.withReturns_of_not_mem hnewline
  rw [Bool.eq_iff_iff, mentions_iff, mentions_iff]
  constructor
  · rintro ⟨before, after, hsplit⟩
    have hlast : (before ++ word.toList).getLast? ≠ some '\r' := by
      rw [List.getLast?_append_of_ne_nil _ hword]
      intro h
      exact hreturn (List.mem_of_getLast? h)
    have hhead : word.toList.head? ≠ some '\n' := by
      intro h
      exact hnewline (List.mem_of_head? h)
    obtain ⟨w, v, rfl, hw, rfl⟩ := Text.withReturns_eq_append hsplit (.inl hlast)
    obtain ⟨u, middle, rfl, rfl, hmiddle⟩ := Text.withReturns_eq_append hw.symm (.inr hhead)
    refine ⟨u, v, ?_⟩
    have hback := congrArg Text.withoutReturns (hsame.trans hmiddle)
    rw [Text.withoutReturns_withReturns, Text.withoutReturns_withReturns] at hback
    rw [hback]
  · rintro ⟨before, after, rfl⟩
    refine ⟨withReturns before, withReturns after, ?_⟩
    rw [Text.withReturns_append, Text.withReturns_append, hsame]

/-- The sentence on the code is the same with carriage returns. -/
theorem codeQuality_withReturns (text : List Char) (ratio : Binary64) :
    codeQuality (withReturns text) ratio = codeQuality text ratio := by
  have hmath : mentions (withReturns text) "SafeMath" = mentions text "SafeMath" :=
    mentions_withReturns text (by decide) (by decide) (by decide)
  have hguard : mentions (withReturns text) "ReentrancyGuard" = mentions text "ReentrancyGuard" :=
    mentions_withReturns text (by decide) (by decide) (by decide)
  have hmodifier : mentions (withReturns text) "nonReentrant" = mentions text "nonReentrant" :=
    mentions_withReturns text (by decide) (by decide) (by decide)
  have hguards : ["ReentrancyGuard", "nonReentrant"].any (mentions (withReturns text)) =
      ["ReentrancyGuard", "nonReentrant"].any (mentions text) := by
    simp only [List.any_cons, hguard, hmodifier]
    rfl
  unfold codeQuality
  rw [hmath, hguards]

/-- The patterns by which roles are recognised tolerate carriage returns. -/
theorem capabilities_tolerateReturns :
    ∀ c ∈ capabilities, ∀ p ∈ c.ownerGated, p.toleratesReturns = true := by
  decide +kernel

/-- So a text has the same privileged roles with them. -/
theorem privilegedRoles_withReturns (text : List Char) :
    privilegedRoles (withReturns text) = privilegedRoles text := by
  unfold privilegedRoles
  congr 1
  apply List.filter_congr
  intro c hc
  exact Pattern.occursIn_withReturns (capabilities_tolerateReturns c hc) text

/-- A source has the same summary whichever way its lines end. -/
theorem summarize_withReturns (text : List Char) (findings : List Finding) :
    summarize (withReturns text) findings = summarize text findings := by
  unfold summarize
  simp only [commentRatio_withReturns, codeQuality_withReturns, Text.lineCount_withReturns,
    privilegedRoles_withReturns]

end TokenAudit
