import TokenAudit.Pattern.Spelling
import TokenAudit.Proofs.Text.Fold

/-!
# The shape of what steps spell

What a text must look like to spell a word, white space, a mark or a run of characters, and where
something must begin to stand on what is left of a line. A phrase is a sequence of such parts, so
that its meaning is put together from these lemmas without a look at the search.
-/

set_option autoImplicit false

namespace TokenAudit

/-- The text is a word, in some letter case. -/
def SameWord (w : String) (text : List Char) : Prop :=
  text.map Text.fold = w.toList.map Text.fold

/-- The text is white space, or empty. -/
def AllBlank (text : List Char) : Prop :=
  ∀ c ∈ text, Text.isBlank c = true

instance (w : String) (text : List Char) : Decidable (SameWord w text) :=
  inferInstanceAs (Decidable (text.map Text.fold = w.toList.map Text.fold))

instance (text : List Char) : Decidable (AllBlank text) :=
  decidable_of_iff (text.all Text.isBlank = true) List.all_eq_true

/-- A word stands in a text, in some letter case. -/
def HoldsWord (w : String) (text : List Char) : Prop :=
  ∃ before word after, text = before ++ word ++ after ∧
    word.map Text.fold = w.toList.map Text.fold

/-- The text has a segment of a kind. -/
def HasSegment (kind : List Char → Prop) (text : List Char) : Prop :=
  ∃ before segment after, text = before ++ segment ++ after ∧ kind segment

/-- The text begins with a word, in some letter case. -/
def BeginsWithWord (w : String) (text : List Char) : Prop :=
  ∃ word later, text = word ++ later ∧ SameWord w word

/-- What begins in such a way stands on what is left of the line. -/
def OnRestOfLine (begins : List Char → Prop) (rest : List Char) : Prop :=
  ∃ line tail, rest = line ++ tail ∧ '\n' ∉ line ∧ begins tail

/-- The text stands between two marks, on one line and with no further closing mark. -/
def Enclosed (opening closing : Char) (text : List Char) : Prop :=
  ∃ inner, text = opening :: inner ++ [closing] ∧ ∀ c ∈ inner, c ≠ closing ∧ c ≠ '\n'

variable {text : List Char}

/-! ## Words -/

/-- A text spells a word exactly when it is the word in some letter case. -/
theorem spells_word_iff {w : String} {text : List Char} :
    Spells (Step.word w) text ↔ text.map Text.fold = w.toList.map Text.fold := by
  unfold Step.word
  generalize w.toList = cs
  constructor
  · intro h
    induction cs generalizing text with
    | nil =>
      cases h
      rfl
    | cons c cs ih =>
      cases h with
      | @one _ _ d rest hd hrest =>
        have hfold : Text.fold d = Text.fold c := by simpa [CharSet.has] using hd
        rw [List.map_cons, List.map_cons, hfold, ih hrest]
  · intro h
    induction cs generalizing text with
    | nil =>
      rw [List.map_nil, List.map_eq_nil_iff] at h
      rw [h]
      exact .done
    | cons c cs ih =>
      cases text with
      | nil => cases h
      | cons d text =>
        rw [List.map_cons, List.map_cons, List.cons.injEq] at h
        exact .one (by simp [CharSet.has, h.1]) (ih h.2)

/-- A text spells marks exactly when it is those marks. -/
theorem spells_marks_iff {w : String} {marks : List Char} (hw : w.toList = marks)
    (hmarks : marks.all Text.isMark = true) : Spells (Step.word w) text ↔ text = marks := by
  rw [spells_word_iff, hw, Text.map_fold_eq_iff_of_isMark hmarks]

/-- What stands in a part of a text stands in the text. -/
theorem HoldsWord.around {w : String} (h : HoldsWord w text) (before after : List Char) :
    HoldsWord w (before ++ text ++ after) := by
  obtain ⟨start, word, rest, rfl, hword⟩ := h
  exact ⟨before ++ start, word, rest ++ after, by simp, hword⟩

/-- A text that spells a word holds it. -/
theorem holdsWord_of_spells {w : String} (h : Spells (Step.word w) text) : HoldsWord w text :=
  ⟨[], text, [], by simp, spells_word_iff.1 h⟩

/-- A text that holds a word holds what the word begins with. -/
theorem HoldsWord.of_append {w more : String} (h : HoldsWord (w ++ more) text) :
    HoldsWord w text := by
  obtain ⟨before, word, after, rfl, hword⟩ := h
  rw [String.toList_append, List.map_append, List.map_eq_append_iff] at hword
  obtain ⟨first, rest, rfl, hfirst, -⟩ := hword
  exact ⟨before, first, rest ++ after, by simp, hfirst⟩

/-! ## Runs -/

/-- A run of a set is spelled by characters of the set, however many. -/
theorem spells_many_iff {set : CharSet} :
    Spells [.many set] text ↔ ∀ c ∈ text, set.has c = true := by
  constructor
  · intro h
    obtain ⟨run, rest, rfl, hrun, hrest⟩ := h.exists_run
    cases hrest
    simpa using hrun
  · intro h
    have hrun : Spells [.many set] (text ++ []) := .many_append h .done
    rwa [List.append_nil] at hrun

/-- A step of a set is spelled by one character of it, and the rest by the later steps. -/
theorem spells_one_iff {set : CharSet} {steps : List Step} :
    Spells (.one set :: steps) text ↔
      ∃ c rest, text = c :: rest ∧ set.has c = true ∧ Spells steps rest := by
  constructor
  · intro h
    cases h with
    | one hc hrest => exact ⟨_, _, rfl, hc, hrest⟩
  · rintro ⟨c, rest, rfl, hc, hrest⟩
    exact .one hc hrest

/-- White space that may be missing is spelled by white space. -/
theorem spells_blanks_iff : Spells Step.blanks text ↔ AllBlank text :=
  spells_many_iff

/-- The rest of a line is spelled by whatever has no line feed. -/
theorem spells_sameLine_iff : Spells Step.sameLine text ↔ '\n' ∉ text := by
  rw [Step.sameLine, spells_many_iff]
  constructor
  · intro hall hmem
    cases hall _ hmem
  · intro hnone c hc
    have hne : c ≠ '\n' := fun heq => hnone (heq ▸ hc)
    simpa [CharSet.has] using hne

/-- White space that may not be missing is spelled by white space, and some of it. -/
theorem spells_someBlanks_iff : Spells Step.someBlanks text ↔ text ≠ [] ∧ AllBlank text := by
  unfold Step.someBlanks AllBlank
  simp only [spells_one_iff, spells_many_iff]
  constructor
  · rintro ⟨c, rest, rfl, hc, hrest⟩
    exact ⟨by simp, List.forall_mem_cons.2 ⟨hc, hrest⟩⟩
  · rintro ⟨hne, hall⟩
    obtain ⟨c, rest, rfl⟩ := List.exists_cons_of_ne_nil hne
    rw [List.forall_mem_cons] at hall
    exact ⟨c, rest, rfl, hall⟩

/-- So many steps of a set are spelled by so many characters of it. -/
theorem spells_replicate_iff {set : CharSet} {n : Nat} :
    Spells (List.replicate n (.one set)) text ↔
      text.length = n ∧ ∀ c ∈ text, set.has c = true := by
  induction n generalizing text with
  | zero =>
    rw [List.replicate_zero, List.length_eq_zero_iff]
    constructor
    · intro h
      cases h
      simp
    · rintro ⟨rfl, -⟩
      exact .done
  | succ n ih =>
    rw [List.replicate_succ, spells_one_iff]
    constructor
    · rintro ⟨c, rest, rfl, hc, hrest⟩
      obtain ⟨hlength, hall⟩ := ih.1 hrest
      exact ⟨by simp [hlength], List.forall_mem_cons.2 ⟨hc, hall⟩⟩
    · rintro ⟨hlength, hall⟩
      obtain ⟨c, rest, rfl⟩ := List.exists_cons_of_length_eq_add_one hlength
      rw [List.forall_mem_cons] at hall
      exact ⟨c, rest, rfl, hall.1, ih.2 ⟨by simpa using hlength, hall.2⟩⟩

/-- Two marks around a run without the closing one are spelled by a text between them. -/
theorem spells_enclosed_iff {opening closing : String} {o c : Char} (ho : opening.toList = [o])
    (hc : closing.toList = [c]) (hopening : Text.isMark o = true)
    (hclosing : Text.isMark c = true) :
    Spells (Step.word opening ++ [.many (.except [c, '\n'])] ++ Step.word closing) text ↔
      Enclosed o c text := by
  have hfirst (text : List Char) : Spells (Step.word opening) text ↔ text = [o] :=
    spells_marks_iff ho (by simpa using hopening)
  have hlast (text : List Char) : Spells (Step.word closing) text ↔ text = [c] :=
    spells_marks_iff hc (by simpa using hclosing)
  have hinner (d : Char) : (CharSet.except [c, '\n']).has d = true ↔ d ≠ c ∧ d ≠ '\n' := by
    simp [CharSet.has]
  simp only [Spells.append_iff, hfirst, hlast, spells_many_iff, hinner]
  constructor
  · rintro ⟨_, _, rfl, ⟨_, inner, rfl, rfl, hall⟩, rfl⟩
    exact ⟨inner, rfl, hall⟩
  · rintro ⟨inner, rfl, hall⟩
    exact ⟨_, _, rfl, ⟨_, inner, rfl, rfl, hall⟩, rfl⟩

/-! ## What a text begins with -/

/-- A text begins with steps and more when the more begins behind what the steps spell. -/
theorem startsWith_append_iff {steps later : List Step} :
    startsWith (steps ++ later) text = true ↔
      ∃ u v, text = u ++ v ∧ Spells steps u ∧ startsWith later v = true := by
  simp only [startsWith_iff, Spells.append_iff]
  constructor
  · rintro ⟨segment, rest, rfl, u, v, rfl, hu, hv⟩
    exact ⟨u, v ++ rest, by simp, hu, v, rest, rfl, hv⟩
  · rintro ⟨u, v, rfl, hu, segment, rest, rfl, hsegment⟩
    exact ⟨u ++ segment, rest, by simp, u, segment, rfl, hu, hsegment⟩

/-- What a text begins with, a longer text begins with as well. -/
theorem startsWith_of_isPrefix {steps : List Step} {rest : List Char} (hinitial : rest <+: text)
    (h : startsWith steps rest = true) : startsWith steps text = true := by
  obtain ⟨later, rfl⟩ := hinitial
  obtain ⟨segment, left, rfl, hspells⟩ := startsWith_iff.1 h
  exact startsWith_iff.2 ⟨segment, left ++ later, by simp, hspells⟩

/-- A text begins with a word of marks exactly when it begins with these marks. -/
theorem startsWith_marks_iff {w : String} {marks : List Char} (hw : w.toList = marks)
    (hmarks : marks.all Text.isMark = true) :
    startsWith (Step.word w) text = true ↔ ∃ later, text = marks ++ later := by
  simp only [startsWith_iff, spells_marks_iff hw hmarks]
  constructor
  · rintro ⟨_, rest, rfl, rfl⟩
    exact ⟨rest, rfl⟩
  · rintro ⟨rest, rfl⟩
    exact ⟨_, rest, rfl, rfl⟩

/-- It begins with a word of letters exactly when it does so in some letter case. -/
theorem startsWith_word_iff {w : String} :
    startsWith (Step.word w) text = true ↔ BeginsWithWord w text := by
  simp only [startsWith_iff, spells_word_iff]
  rfl

/-- Steps after anything of a line are found exactly when they are spelled on what is left of it. -/
theorem startsWith_sameLine_iff {steps : List Step} {begins : List Char → Prop}
    (h : ∀ tail, startsWith steps tail = true ↔ begins tail) :
    startsWith (Step.sameLine ++ steps) text = true ↔ OnRestOfLine begins text := by
  simp only [startsWith_append_iff, spells_sameLine_iff, h]
  rfl

/-! ## Where phrases occur -/

/-- A phrase that may be followed by anything occurs in a text exactly when the text has a segment
of the kind that its steps spell. -/
theorem Phrase.occursIn_plain_iff {steps : List Step} {kind : List Char → Prop}
    (h : ∀ segment, Spells steps segment ↔ kind segment) :
    (Phrase.plain steps).occursIn text = true ↔ HasSegment kind text := by
  simp [Phrase.occursIn_iff, Phrase.plain, HasSegment, h]

/-- A word occurs in a text exactly when the text holds it. -/
theorem Phrase.occursIn_word_iff {w : String} :
    (Phrase.plain (Step.word w)).occursIn text = true ↔ HoldsWord w text :=
  Phrase.occursIn_plain_iff fun _ => spells_word_iff

instance (w : String) (text : List Char) : Decidable (HoldsWord w text) :=
  decidable_of_iff _ Phrase.occursIn_word_iff

/-- A pattern occurs where its first phrase does, or a later one. -/
theorem Pattern.occursIn_cons_iff {p : Phrase} {ps : Pattern} :
    Pattern.occursIn (p :: ps) text = true ↔ p.occursIn text = true ∨ ps.occursIn text = true := by
  simp [Pattern.occursIn]

/-- A pattern of no phrases occurs nowhere. -/
theorem Pattern.occursIn_nil : Pattern.occursIn [] text = false :=
  rfl

/-- A pattern of one phrase occurs where its body is spelled and none of its guards follows. -/
theorem Pattern.occursIn_singleton_iff {p : Phrase} :
    Pattern.occursIn [p] text = true ↔
      ∃ before segment rest, text = before ++ segment ++ rest ∧ Spells p.body segment ∧
        ∀ guard ∈ p.guards, ¬ startsWith guard rest = true := by
  simp [Pattern.occursIn, Phrase.occursIn_iff]

/-- One of several words occurs in a text exactly when the text holds one of them. -/
theorem Pattern.occursIn_anyWord_iff {words : List String} :
    (Pattern.anyWord words).occursIn text = true ↔ ∃ w ∈ words, HoldsWord w text := by
  simp [Pattern.occursIn, Pattern.anyWord, Phrase.occursIn_word_iff]

end TokenAudit
