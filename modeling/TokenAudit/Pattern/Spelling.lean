import TokenAudit.Pattern.Basic

/-!
# What a phrase's occurrence means

The relation `Spells` says which texts spell a sequence of steps, with no search in it. Main
statements: the search for a continuation succeeds exactly when the text splits into a spelling and
a rest that the continuation accepts, and a phrase occurs exactly when the text has a segment that
spells its body and is followed by none of its guards.
-/

set_option autoImplicit false

namespace TokenAudit

/-- The text spells the steps, all of it. -/
inductive Spells : List Step → List Char → Prop where
  | done : Spells [] []
  | one {set : CharSet} {steps : List Step} {c : Char} {rest : List Char} :
      set.has c = true → Spells steps rest → Spells (.one set :: steps) (c :: rest)
  | stop {set : CharSet} {steps : List Step} {text : List Char} :
      Spells steps text → Spells (.many set :: steps) text
  | more {set : CharSet} {steps : List Step} {c : Char} {rest : List Char} :
      set.has c = true → Spells (.many set :: steps) rest → Spells (.many set :: steps) (c :: rest)

/-- A run succeeds exactly when the text splits into admitted characters and a rest that the
continuation accepts. -/
theorem runs_iff {admits : Char → Bool} {next : List Char → Bool} {text : List Char} :
    runs admits next text = true ↔
      ∃ run rest, text = run ++ rest ∧ (∀ c ∈ run, admits c = true) ∧ next rest = true := by
  induction text with
  | nil =>
    constructor
    · intro h
      exact ⟨[], [], rfl, by simp, h⟩
    · rintro ⟨run, rest, heq, -, h⟩
      obtain ⟨rfl, rfl⟩ := List.append_eq_nil_iff.1 heq.symm
      exact h
  | cons c text ih =>
    rw [runs, Bool.or_eq_true, Bool.and_eq_true, ih]
    constructor
    · rintro (h | ⟨hc, run, rest, rfl, hrun, h⟩)
      · exact ⟨[], c :: text, rfl, by simp, h⟩
      · exact ⟨c :: run, rest, rfl, by simpa using ⟨hc, hrun⟩, h⟩
    · rintro ⟨run, rest, heq, hrun, h⟩
      cases run with
      | nil => exact .inl (by simpa [heq] using h)
      | cons d run =>
        obtain ⟨rfl, rfl⟩ := List.cons_eq_cons.1 heq
        exact .inr ⟨hrun _ (by simp), run, rest, rfl, fun x hx => hrun x (by simp [hx]), h⟩

/-- A run of admitted characters in front of a spelling of the later steps spells the run as
well. -/
theorem Spells.many_append {set : CharSet} {steps : List Step} {run text : List Char}
    (hrun : ∀ c ∈ run, set.has c = true) (h : Spells steps text) :
    Spells (.many set :: steps) (run ++ text) := by
  induction run with
  | nil => exact .stop h
  | cons c run ih =>
    exact .more (hrun c (by simp)) (ih fun x hx => hrun x (by simp [hx]))

/-- A spelling that begins with a run splits into the run and a spelling of the later steps. -/
theorem Spells.exists_run {set : CharSet} {steps : List Step} {text : List Char}
    (h : Spells (.many set :: steps) text) :
    ∃ run rest, text = run ++ rest ∧ (∀ c ∈ run, set.has c = true) ∧ Spells steps rest := by
  generalize hs : Step.many set :: steps = all at h
  induction h with
  | done => cases hs
  | one => cases hs
  | stop h =>
    cases hs
    exact ⟨[], _, rfl, by simp, h⟩
  | more hc _ ih =>
    obtain ⟨run, rest, rfl, hrun, h⟩ := ih hs
    cases hs
    exact ⟨_ :: run, rest, rfl, by simpa using ⟨hc, hrun⟩, h⟩

/-- What spells one sequence of steps after another splits into what spells either. -/
theorem Spells.append_iff {steps later : List Step} {text : List Char} :
    Spells (steps ++ later) text ↔ ∃ u v, text = u ++ v ∧ Spells steps u ∧ Spells later v := by
  constructor
  · intro h
    generalize hall : steps ++ later = all at h
    induction h generalizing steps with
    | done =>
      obtain ⟨rfl, rfl⟩ := List.append_eq_nil_iff.1 hall
      exact ⟨[], [], rfl, .done, .done⟩
    | one hc hrest ih =>
      cases steps with
      | nil =>
        rw [List.nil_append] at hall
        exact ⟨[], _, rfl, .done, hall ▸ .one hc hrest⟩
      | cons step steps =>
        obtain ⟨rfl, htail⟩ := List.cons_eq_cons.1 hall
        obtain ⟨u, v, rfl, hu, hv⟩ := ih htail
        exact ⟨_ :: u, v, rfl, .one hc hu, hv⟩
    | stop hrest ih =>
      cases steps with
      | nil =>
        rw [List.nil_append] at hall
        exact ⟨[], _, rfl, .done, hall ▸ .stop hrest⟩
      | cons step steps =>
        obtain ⟨rfl, htail⟩ := List.cons_eq_cons.1 hall
        obtain ⟨u, v, rfl, hu, hv⟩ := ih htail
        exact ⟨u, v, rfl, .stop hu, hv⟩
    | more hc hrest ih =>
      cases steps with
      | nil =>
        rw [List.nil_append] at hall
        exact ⟨[], _, rfl, .done, hall ▸ .more hc hrest⟩
      | cons step steps =>
        obtain ⟨u, v, rfl, hu, hv⟩ := ih hall
        rw [List.cons_append] at hall
        obtain ⟨rfl, -⟩ := List.cons_eq_cons.1 hall
        exact ⟨_ :: u, v, rfl, .more hc hu, hv⟩
  · rintro ⟨u, v, rfl, hu, hv⟩
    induction hu with
    | done => exact hv
    | one hc _ ih => exact .one hc ih
    | stop _ ih => exact .stop ih
    | more hc _ ih => exact .more hc ih

/-- The search succeeds exactly when the text splits into a spelling of the steps and a rest that
the continuation accepts. -/
theorem spellsThen_iff {steps : List Step} {next : List Char → Bool} {text : List Char} :
    spellsThen steps next text = true ↔
      ∃ segment rest, text = segment ++ rest ∧ Spells steps segment ∧ next rest = true := by
  induction steps generalizing text with
  | nil =>
    constructor
    · intro h
      exact ⟨[], text, rfl, .done, by simpa [spellsThen] using h⟩
    · rintro ⟨segment, rest, rfl, hs, h⟩
      cases hs
      simpa [spellsThen] using h
  | cons step steps ih =>
    cases step with
    | one set =>
      cases text with
      | nil =>
        constructor
        · intro h
          simp [spellsThen] at h
        · rintro ⟨segment, rest, heq, hs, -⟩
          cases hs
          simp at heq
      | cons c text =>
        rw [spellsThen, Bool.and_eq_true, ih]
        constructor
        · rintro ⟨hc, segment, rest, rfl, hs, h⟩
          exact ⟨c :: segment, rest, rfl, .one hc hs, h⟩
        · rintro ⟨segment, rest, heq, hs, h⟩
          cases hs with
          | one hc hs =>
            obtain ⟨rfl, rfl⟩ := List.cons_eq_cons.1 heq
            exact ⟨hc, _, rest, rfl, hs, h⟩
    | many set =>
      rw [spellsThen, runs_iff]
      constructor
      · rintro ⟨run, rest, rfl, hrun, h⟩
        obtain ⟨segment, rest, rfl, hs, h⟩ := ih.1 h
        exact ⟨run ++ segment, rest, by simp, .many_append hrun hs, h⟩
      · rintro ⟨segment, rest, rfl, hs, h⟩
        obtain ⟨run, tail, rfl, hrun, hs⟩ := hs.exists_run
        exact ⟨run, tail ++ rest, by simp, hrun, ih.2 ⟨tail, rest, rfl, hs, h⟩⟩

/-- The text begins with a spelling exactly when the search without a continuation succeeds. -/
theorem startsWith_iff {steps : List Step} {text : List Char} :
    startsWith steps text = true ↔
      ∃ segment rest, text = segment ++ rest ∧ Spells steps segment := by
  simp [startsWith, spellsThen_iff]

/-- Some end part of the text is accepted exactly when the text splits before one. -/
theorem someSuffix_iff {test : List Char → Bool} {text : List Char} :
    someSuffix test text = true ↔ ∃ before after, text = before ++ after ∧ test after = true := by
  induction text with
  | nil =>
    constructor
    · intro h
      exact ⟨[], [], rfl, h⟩
    · rintro ⟨before, after, heq, h⟩
      obtain ⟨rfl, rfl⟩ := List.append_eq_nil_iff.1 heq.symm
      exact h
  | cons c text ih =>
    rw [someSuffix, Bool.or_eq_true, ih]
    constructor
    · rintro (h | ⟨before, after, rfl, h⟩)
      · exact ⟨[], c :: text, rfl, h⟩
      · exact ⟨c :: before, after, rfl, h⟩
    · rintro ⟨before, after, heq, h⟩
      cases before with
      | nil => exact .inl (by simpa [heq] using h)
      | cons d before =>
        obtain ⟨rfl, rfl⟩ := List.cons_eq_cons.1 heq
        exact .inr ⟨before, after, rfl, h⟩

/-- A phrase occurs exactly when the text has a segment that spells its body and is followed by none
of its guards. -/
theorem Phrase.occursIn_iff {p : Phrase} {text : List Char} :
    p.occursIn text = true ↔
      ∃ before segment rest, text = before ++ segment ++ rest ∧ Spells p.body segment ∧
        ∀ guard ∈ p.guards, startsWith guard rest = false := by
  simp only [Phrase.occursIn, someSuffix_iff, spellsThen_iff, Phrase.unguarded]
  constructor
  · rintro ⟨before, after, rfl, segment, rest, rfl, hs, h⟩
    exact ⟨before, segment, rest, by simp, hs, by simpa using h⟩
  · rintro ⟨before, segment, rest, rfl, hs, h⟩
    exact ⟨before, segment ++ rest, by simp, segment, rest, rfl, hs, by simpa using h⟩

/-- Whether a pattern occurs in a text depends on where its phrases occur. -/
theorem Pattern.occursIn_congr {ps : Pattern} {a b : List Char}
    (h : ∀ p ∈ ps, p.occursIn a = p.occursIn b) : ps.occursIn a = ps.occursIn b := by
  unfold occursIn
  induction ps with
  | nil => rfl
  | cons p ps ih =>
    have hrest := ih fun q hq => h q (List.mem_cons_of_mem _ hq)
    rw [List.any_cons, List.any_cons, h p List.mem_cons_self, hrest]

end TokenAudit
