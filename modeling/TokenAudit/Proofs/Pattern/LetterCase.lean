import TokenAudit.Pattern.Spelling
import TokenAudit.Proofs.Text.LetterCase

/-!
# Patterns that ignore letter case

A set of characters that lists what it leaves out can tell the two cases of a letter apart only if
it leaves a letter out; every other set takes both or neither. The search is put together from tests
of sets, so that a phrase whose sets leave out no letters, guards included, occurs in a text
whatever the case of its letters is.
-/

set_option autoImplicit false

namespace TokenAudit

open Text (IgnoresCase Recased SameLetter)

/-- Whether a set leaves out no letters by name. -/
def CharSet.sparesLetters : CharSet → Bool
  | .except excluded => excluded.all Text.isMark
  | _ => true

/-- Whether the set of a step leaves out no letters by name. -/
def Step.sparesLetters : Step → Bool
  | .one set => set.sparesLetters
  | .many set => set.sparesLetters

/-- Whether no set of a phrase, guards included, leaves out letters by name. -/
def Phrase.sparesLetters (p : Phrase) : Bool :=
  p.body.all Step.sparesLetters && p.guards.all fun guard => guard.all Step.sparesLetters

/-! ## Sets and steps -/

/-- A set that spares letters has a letter in both cases or in neither. -/
theorem CharSet.has_of_sameLetter {set : CharSet} {c d : Char} (hset : set.sparesLetters = true)
    (h : SameLetter c d) : set.has d = set.has c := by
  cases set with
  | folded l => simp only [has, h.fold_eq]
  | blank => exact h.isBlank_eq
  | inline =>
    have hnewline : d = '\n' ↔ c = '\n' := h.eq_iff_of_isMark (by decide)
    rw [Bool.eq_iff_iff]
    simp only [has, bne_iff_ne, ne_eq, hnewline]
  | hexDigit => exact h.congr (f := CharSet.hexDigit.has) (by decide +kernel)
  | except excluded =>
    have hmem : d ∈ excluded ↔ c ∈ excluded := by
      constructor
      · intro hd
        rwa [(h.eq_iff_of_isMark (List.all_eq_true.1 hset d hd)).1 rfl]
      · intro hc
        rwa [(h.eq_iff_of_isMark (List.all_eq_true.1 hset c hc)).2 rfl]
    have hcontains : excluded.contains d = excluded.contains c := by
      rw [Bool.eq_iff_iff, List.contains_iff_mem, List.contains_iff_mem, hmem]
    simp only [has, hcontains]

/-- A run of characters that ignores their case hands a text on to what ignores it, too. -/
theorem ignoresCase_runs {admits : Char → Bool} {next : List Char → Bool}
    (hadmits : ∀ c d, SameLetter c d → admits d = admits c) (hnext : IgnoresCase next) :
    IgnoresCase (runs admits next) := by
  intro text other h
  induction h with
  | nil => rfl
  | @cons c d text other hcd hrest ih =>
    rw [runs, runs, hnext (c :: text) (d :: other) (.cons hcd hrest), hadmits c d hcd, ih]

/-- So has the search by steps of such sets, if what follows it ignores case. -/
theorem ignoresCase_spellsThen {steps : List Step} {next : List Char → Bool}
    (hsteps : ∀ step ∈ steps, step.sparesLetters = true) (hnext : IgnoresCase next) :
    IgnoresCase (spellsThen steps next) := by
  induction steps with
  | nil => exact hnext
  | cons step steps ih =>
    have hlater := ih fun s hs => hsteps s (List.mem_cons_of_mem _ hs)
    have hstep := hsteps step List.mem_cons_self
    intro text other h
    cases step with
    | one set =>
      cases h with
      | nil => rfl
      | cons hcd hrest =>
        rw [spellsThen, spellsThen, CharSet.has_of_sameLetter hstep hcd, hlater _ _ hrest]
    | many set =>
      have hset : ∀ c d, SameLetter c d → set.has d = set.has c := by
        intro c d hcd
        exact CharSet.has_of_sameLetter hstep hcd
      rw [spellsThen, spellsThen]
      exact ignoresCase_runs hset hlater text other h

/-- A test that ignores case does so wherever it begins. -/
theorem ignoresCase_someSuffix {test : List Char → Bool} (htest : IgnoresCase test) :
    IgnoresCase (someSuffix test) := by
  intro text other h
  induction h with
  | nil => rfl
  | @cons c d text other hcd hrest ih =>
    rw [someSuffix, someSuffix, htest (c :: text) (d :: other) (.cons hcd hrest), ih]

/-! ## Phrases and patterns -/

/-- A phrase of such steps ignores case, with its guards. -/
theorem Phrase.ignoresCase_unguarded {p : Phrase} (hp : p.sparesLetters = true) :
    IgnoresCase p.unguarded := by
  rw [sparesLetters, Bool.and_eq_true, List.all_eq_true, List.all_eq_true] at hp
  intro text other h
  unfold unguarded
  rw [Bool.eq_iff_iff, List.all_eq_true, List.all_eq_true]
  apply forall₂_congr
  intro guard hguard
  have hsteps := List.all_eq_true.1 (hp.2 guard hguard)
  have hstarts : startsWith guard other = startsWith guard text :=
    ignoresCase_spellsThen hsteps (fun _ _ _ => rfl) text other h
  rw [hstarts]

/-- A phrase that leaves out no letters by name occurs in a text whatever the case of letters. -/
theorem Phrase.ignoresCase_occursIn {p : Phrase} (hp : p.sparesLetters = true) :
    IgnoresCase p.occursIn := by
  have hunguarded := ignoresCase_unguarded hp
  rw [sparesLetters, Bool.and_eq_true, List.all_eq_true] at hp
  exact ignoresCase_someSuffix (ignoresCase_spellsThen hp.1 hunguarded)

/-- So does a pattern of such phrases. -/
theorem Pattern.ignoresCase_occursIn {ps : Pattern} (hps : ∀ p ∈ ps, p.sparesLetters = true) :
    IgnoresCase ps.occursIn := by
  intro text other h
  exact occursIn_congr fun p hp => Phrase.ignoresCase_occursIn (hps p hp) text other h

end TokenAudit
