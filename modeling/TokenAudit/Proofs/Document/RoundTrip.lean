import Mathlib.Data.List.DropRight
import TokenAudit.Proofs.Document.Text

/-!
# Reading a printed document

A document is read back from its print when its values that are no containers are, and when its
containers do not lie too deep in each other. The reading follows the print: what stands for a value
leaves the machine as after that value, wherever it stands.
-/

set_option autoImplicit false

namespace TokenAudit.Document

variable {limit : Nat}

/-- What follows a value in a printed document: nothing, a comma or a line feed. -/
def EndsToken (rest : List Char) : Prop :=
  ∀ c, rest.head? = some c → c = ',' ∨ c = '\n'

/-- A value that is no container, and is read back from its print. -/
structure ReadsBack (d : Document) : Prop where
  reads : ∀ level rest, EndsToken rest → readScalar (d.printAt level ++ rest) = .ok (d, rest)
  plain : ∀ level, ∀ c ∈ d.printAt level, IsPlain c

/-- A document that can be read back, with as many containers in each other at most. -/
inductive Legible : Nat → Document → Prop
  | scalar {depth : Nat} {d : Document} (h : d.ReadsBack) : Legible depth d
  | list {depth : Nat} {items : List Document} (h : ∀ d ∈ items, Legible depth d) :
      Legible (depth + 1) (.list items)
  | object {depth : Nat} {entries : List (String × Document)}
      (h : ∀ e ∈ entries, Legible depth e.2) : Legible (depth + 1) (.object entries)

/-! ## Blanks -/

section

variable {m m' : Machine} {input rest : List Char}

/-- Nothing is skipped in front of a token. -/
theorem skipSpacing_of_head {c : Char} (h : isSpacing c = false) (rest : List Char) :
    skipSpacing (c :: rest) = c :: rest :=
  List.dropWhile_cons_of_neg (by simp [h])

/-- Blanks are skipped, and what follows them as if it stood alone. -/
theorem skipSpacing_append {blanks : List Char} (h : ∀ c ∈ blanks, isSpacing c = true)
    (input : List Char) : skipSpacing (blanks ++ input) = skipSpacing input :=
  List.dropWhile_append_of_pos h

/-- Blanks are skipped at once. -/
theorem skipSpacing_skipSpacing (input : List Char) :
    skipSpacing (skipSpacing input) = skipSpacing input :=
  List.dropWhile_idempotent _ _

/-- Blanks before a token make no difference. -/
theorem complete_skipSpacing (m : Machine) (input : List Char) :
    m.complete limit (skipSpacing input) = m.complete limit input := by
  by_cases hend : m.expects = .nothing ∧ skipSpacing input = []
  · have hagain : skipSpacing (skipSpacing input) = [] := by
      rw [skipSpacing_skipSpacing]
      exact hend.2
    unfold Machine.complete
    rw [run_of_end hend.1 hagain, run_of_end hend.1 hend.2]
  · cases hstep : m.step limit (skipSpacing input) with
    | error stop =>
      have hgoes : m.expects = .nothing → skipSpacing input ≠ [] :=
        fun hexpects hnone => hend ⟨hexpects, hnone⟩
      unfold Machine.complete
      rw [run_of_stop hstep hgoes, run_of_stop (by rwa [skipSpacing_skipSpacing])
        (by rwa [skipSpacing_skipSpacing])]
    | ok next =>
      obtain ⟨m', rest⟩ := next
      rw [complete_of_step hstep, complete_of_step (by rwa [skipSpacing_skipSpacing])]

/-- A new line, however deep, makes no difference. -/
theorem complete_newline (m : Machine) (level : Nat) (input : List Char) :
    m.complete limit (newline level ++ input) = m.complete limit input := by
  have hblanks : ∀ c ∈ newline level, isSpacing c = true := by
    intro c hc
    rcases List.mem_cons.1 hc with rfl | hc
    · rfl
    · rw [List.eq_of_mem_replicate hc]
      rfl
  rw [← complete_skipSpacing, skipSpacing_append hblanks, complete_skipSpacing]

/-- Neither does a space. -/
theorem complete_blank (m : Machine) (input : List Char) :
    m.complete limit (' ' :: input) = m.complete limit input := by
  rw [← complete_skipSpacing m input, ← complete_skipSpacing]
  rfl

/-- A step that takes a token from the beginning of a text. -/
theorem complete_of_token {c : Char} (hc : isSpacing c = false)
    (h : m.step limit (c :: input) = .ok (m', rest)) :
    m.complete limit (c :: input) = m'.complete limit rest := by
  apply complete_of_step
  rwa [skipSpacing_of_head hc]

end

/-! ## Values that are no containers -/

/-- No value that is no container begins with a bracket or a blank. -/
theorem head_of_readScalar {input rest : List Char} {d : Document}
    (h : readScalar input = .ok (d, rest)) :
    ∃ c tail, input = c :: tail ∧ isSpacing c = false ∧ c ≠ '[' ∧ c ≠ '\x7b' ∧ c ≠ ']' := by
  have hnone : ∀ c tail, c ∈ [' ', '\t', '\n', '\r', '[', '\x7b', ']'] →
      readScalar (c :: tail) ≠ .ok (d, rest) := by
    intro c tail hc h
    simp only [List.mem_cons, List.not_mem_nil, or_false] at hc
    rcases hc with rfl | rfl | rfl | rfl | rfl | rfl | rfl
    all_goals cases h
  cases input with
  | nil => cases h
  | cons c tail =>
    have hc : c ∉ [' ', '\t', '\n', '\r', '[', '\x7b', ']'] := fun hc => hnone c tail hc h
    simp only [List.mem_cons, List.not_mem_nil, or_false, not_or] at hc
    obtain ⟨hblank, htab, hfeed, hreturn, hlist, hobject, hclose⟩ := hc
    refine ⟨c, tail, rfl, ?_, hlist, hobject, hclose⟩
    simp [isSpacing, hblank, htab, hfeed, hreturn]

section

variable {m : Machine}

/-- A printed value that is no container is taken in one step. -/
theorem complete_scalar {d : Document} (h : d.ReadsBack)
    (hexpects : m.expects = .value ∨ m.expects = .firstItem) (level : Nat) {rest : List Char}
    (hrest : EndsToken rest) :
    m.complete limit (d.printAt level ++ rest) =
      (Machine.afterValue d m.frames).complete limit rest := by
  have hread := h.reads level rest hrest
  obtain ⟨c, tail, hinput, hspacing, hlist, hobject, hclose⟩ := head_of_readScalar hread
  rw [hinput] at hread ⊢
  apply complete_of_token hspacing
  rw [step_of_value hexpects (by simpa using hclose),
    stepValue_of_scalar (by simpa using hlist) (by simpa using hobject), hread]
  rfl

/-- A text without pairs of surrogates is read back. -/
theorem readsBack_text {content : RawText} (h : content.IsJoined) : (text content).ReadsBack := by
  constructor
  case reads =>
    intro level rest _
    have hprint : (text content).printAt level ++ rest =
        '\x22' :: (content.points.flatMap printPoint ++ '\x22' :: rest) := by
      simp [printAt, printText]
    rw [hprint, readScalar_text, readText_printText h]
    rfl
  case plain =>
    intro level
    rw [printAt]
    exact isPlain_printText h

/-- The words for truth values are read back. -/
theorem readsBack_bool (b : Bool) : (bool b).ReadsBack := by
  constructor
  case reads =>
    intro level rest _
    cases b with
    | true =>
      rw [printAt]
      rfl
    | false =>
      rw [printAt]
      rfl
  case plain =>
    intro level
    cases b with
    | true =>
      rw [printAt]
      exact isPlain_of_all (by decide)
    | false =>
      rw [printAt]
      exact isPlain_of_all (by decide)

/-! ## Containers -/

/-- A value may be followed by a new line. -/
theorem endsToken_newline (level : Nat) (rest : List Char) :
    EndsToken (newline level ++ rest) := by
  intro c hc
  exact .inr (Option.some.inj hc).symm

/-- It may be followed by the items after it and the end of its list. -/
theorem endsToken_printItems (level : Nat) (items : List Document) (outer : Nat)
    (rest : List Char) : EndsToken (printItems level items ++ (newline outer ++ rest)) := by
  cases items with
  | nil => exact endsToken_newline outer rest
  | cons d items =>
    intro c hc
    exact .inl (Option.some.inj hc).symm

/-- It may be followed by the entries after it and the end of its object. -/
theorem endsToken_printEntries (level : Nat) (entries : List (String × Document)) (outer : Nat)
    (rest : List Char) : EndsToken (printEntries level entries ++ (newline outer ++ rest)) := by
  cases entries with
  | nil => exact endsToken_newline outer rest
  | cons e entries =>
    intro c hc
    exact .inl (Option.some.inj hc).symm

/-- Wherever a value is expected, inside of containers that leave room for it, the print of the
document is read as the document. -/
def ReadsInPlace (limit depth : Nat) (d : Document) : Prop :=
  ∀ (m : Machine) (level : Nat) (rest : List Char), m.expects = .value ∨ m.expects = .firstItem →
    m.frames.length + depth ≤ limit → EndsToken rest →
      m.complete limit (d.printAt level ++ rest) =
        (Machine.afterValue d m.frames).complete limit rest

variable {frames : List Frame} {depth : Nat}

/-- The items of a list after the first, and its end. -/
theorem complete_items {more : List Document} (hmore : ∀ d ∈ more, ReadsInPlace limit depth d)
    (hdepth : frames.length + (depth + 1) ≤ limit) (items : List Document)
    (level outer : Nat) (rest : List Char) :
    (Machine.expecting (.list items :: frames) .delimiter).complete limit
        (printItems level more ++ (newline outer ++ ']' :: rest)) =
      (Machine.afterValue (.list (items.reverse ++ more)) frames).complete limit rest := by
  -- the items that are read pile up in the frame, so what has been read varies in the induction
  induction more generalizing items with
  | nil =>
    rw [printItems, List.nil_append, complete_newline, List.append_nil]
    exact complete_of_token rfl rfl
  | cons d more ih =>
    obtain ⟨hd, hmore⟩ := List.forall_mem_cons.1 hmore
    have hcomma : (Machine.expecting (.list items :: frames) .delimiter).complete limit
          (printItems level (d :: more) ++ (newline outer ++ ']' :: rest)) =
        (Machine.expecting (.list items :: frames) .value).complete limit (newline level ++
          (d.printAt level ++ (printItems level more ++ (newline outer ++ ']' :: rest)))) := by
      rw [printItems]
      simp only [List.cons_append, List.append_assoc]
      exact complete_of_token rfl rfl
    have hdepth' : (Frame.list items :: frames).length + depth ≤ limit := by
      rw [List.length_cons]
      omega
    rw [hcomma, complete_newline,
      hd _ level _ (.inl rfl) hdepth' (endsToken_printItems level more outer _)]
    have hnext := ih hmore (d :: items)
    rw [List.reverse_cons, List.append_assoc, List.singleton_append] at hnext
    exact hnext

/-- A list is read in place if its items are, one container deeper. -/
theorem readsInPlace_list {items : List Document} (h : ∀ d ∈ items, ReadsInPlace limit depth d) :
    ReadsInPlace limit (depth + 1) (.list items) := by
  intro m level rest hexpects hdepth _
  have hopen : ∀ input, m.step limit ('[' :: input) =
      .ok (.expecting (.list [] :: m.frames) .firstItem, input) := by
    intro input
    have henter : enter limit .list m.frames = .ok (.expecting (.list [] :: m.frames) .firstItem) :=
      enter_eq_ok_iff.2 ⟨by omega, rfl⟩
    rw [step_of_value hexpects (by simp)]
    simp [stepValue, henter, bind, Except.bind, pure, Except.pure]
  cases items with
  | nil =>
    rw [printAt, List.cons_append, complete_of_token rfl (hopen _)]
    exact complete_of_token rfl rfl
  | cons first more =>
    obtain ⟨hfirst, hmore⟩ := List.forall_mem_cons.1 h
    have hprint : (Document.list (first :: more)).printAt level ++ rest =
        '[' :: (newline (level + 1) ++ (first.printAt (level + 1) ++
          (printItems (level + 1) more ++ (newline level ++ ']' :: rest)))) := by
      rw [printAt]
      simp only [List.cons_append, List.append_assoc, List.nil_append]
    have hdepth' : (Frame.list [] :: m.frames).length + depth ≤ limit := by
      rw [List.length_cons]
      omega
    rw [hprint, complete_of_token rfl (hopen _), complete_newline,
      hfirst _ _ _ (.inr rfl) hdepth' (endsToken_printItems _ more level _)]
    exact complete_items hmore hdepth [first] (level + 1) level rest

/-- A key, with the colon after it. -/
theorem complete_key {m : Machine} {entries : List (String × Document)} {old : String}
    {outer : List Frame} (hexpects : m.expects = .firstKey ∨ m.expects = .key)
    (hframes : m.frames = .object entries old :: outer) (key : String) (rest : List Char) :
    m.complete limit (printText key ++ (':' :: ' ' :: rest)) =
      (Machine.expecting (.object entries key :: outer) .value).complete limit rest := by
  have hprint : printText key ++ (':' :: ' ' :: rest) =
      '\x22' :: ((RawText.ofString key).points.flatMap printPoint ++
        '\x22' :: (':' :: ' ' :: rest)) := by
    simp [printText]
  have hread := readText_printText (RawText.isJoined_ofString key)
    ('\x22' :: ((RawText.ofString key).points.flatMap printPoint ++
      '\x22' :: (':' :: ' ' :: rest))) (':' :: ' ' :: rest)
  have hstep : m.step limit ('\x22' :: ((RawText.ofString key).points.flatMap printPoint ++
      '\x22' :: (':' :: ' ' :: rest))) =
        .ok (.expecting (.object entries key :: outer) .colon, ':' :: ' ' :: rest) := by
    have hkey : stepKey m.frames ('\x22' :: ((RawText.ofString key).points.flatMap printPoint ++
        '\x22' :: (':' :: ' ' :: rest))) =
          .ok (.expecting (.object entries key :: outer) .colon, ':' :: ' ' :: rest) := by
      rw [hframes]
      simp only [stepKey, hread, bind, Except.bind, pure, Except.pure, RawText.asString_ofString]
    rw [step_of_key hexpects (by simp), hkey]
  rw [hprint, complete_of_token rfl hstep, complete_of_token rfl rfl, complete_blank]
  rfl

/-- The entries of an object after the first, and its end. -/
theorem complete_entries {more : List (String × Document)}
    (hmore : ∀ e ∈ more, ReadsInPlace limit depth e.2)
    (hdepth : frames.length + (depth + 1) ≤ limit) (entries : List (String × Document))
    (last : String) (level outer : Nat) (rest : List Char) :
    (Machine.expecting (.object entries last :: frames) .delimiter).complete limit
        (printEntries level more ++ (newline outer ++ '\x7d' :: rest)) =
      (Machine.afterValue (.object (entries.reverse ++ more)) frames).complete limit rest := by
  induction more generalizing entries last with
  | nil =>
    rw [printEntries, List.nil_append, complete_newline, List.append_nil]
    exact complete_of_token rfl rfl
  | cons e more ih =>
    obtain ⟨key, d⟩ := e
    obtain ⟨hd, hmore⟩ := List.forall_mem_cons.1 hmore
    have hcomma : (Machine.expecting (.object entries last :: frames) .delimiter).complete limit
          (printEntries level ((key, d) :: more) ++ (newline outer ++ '\x7d' :: rest)) =
        (Machine.expecting (.object entries last :: frames) .key).complete limit (newline level ++
          (printText key ++ (':' :: ' ' :: (d.printAt level ++
            (printEntries level more ++ (newline outer ++ '\x7d' :: rest)))))) := by
      rw [printEntries]
      simp only [List.cons_append, List.append_assoc, List.nil_append]
      exact complete_of_token rfl rfl
    have hdepth' : (Frame.object entries key :: frames).length + depth ≤ limit := by
      rw [List.length_cons]
      omega
    rw [hcomma, complete_newline, complete_key (.inr rfl) rfl,
      hd _ level _ (.inl rfl) hdepth' (endsToken_printEntries level more outer _)]
    have hnext := ih hmore ((key, d) :: entries) key
    rw [List.reverse_cons, List.append_assoc, List.singleton_append] at hnext
    exact hnext

/-- So is an object. -/
theorem readsInPlace_object {entries : List (String × Document)}
    (h : ∀ e ∈ entries, ReadsInPlace limit depth e.2) :
    ReadsInPlace limit (depth + 1) (.object entries) := by
  intro m level rest hexpects hdepth _
  have hopen : ∀ input, m.step limit ('\x7b' :: input) =
      .ok (.expecting (.object [] "" :: m.frames) .firstKey, input) := by
    intro input
    have henter : enter limit .object m.frames =
        .ok (.expecting (.object [] "" :: m.frames) .firstKey) :=
      enter_eq_ok_iff.2 ⟨by omega, rfl⟩
    rw [step_of_value hexpects (by simp)]
    simp [stepValue, henter, bind, Except.bind, pure, Except.pure]
  cases entries with
  | nil =>
    rw [printAt, List.cons_append, complete_of_token rfl (hopen _)]
    exact complete_of_token rfl rfl
  | cons e more =>
    obtain ⟨key, first⟩ := e
    obtain ⟨hfirst, hmore⟩ := List.forall_mem_cons.1 h
    have hprint : (Document.object ((key, first) :: more)).printAt level ++ rest =
        '\x7b' :: (newline (level + 1) ++ (printText key ++ (':' :: ' ' ::
          (first.printAt (level + 1) ++ (printEntries (level + 1) more ++
            (newline level ++ '\x7d' :: rest)))))) := by
      rw [printAt]
      simp only [List.cons_append, List.append_assoc, List.nil_append]
    have hdepth' : (Frame.object [] key :: m.frames).length + depth ≤ limit := by
      rw [List.length_cons]
      omega
    rw [hprint, complete_of_token rfl (hopen _), complete_newline, complete_key (.inl rfl) rfl,
      hfirst _ _ _ (.inl rfl) hdepth' (endsToken_printEntries _ more level _)]
    exact complete_entries hmore hdepth [(key, first)] key (level + 1) level rest

end

/-! ## Documents -/

section

variable {depth : Nat} {d : Document}

/-- A text of characters is legible. -/
theorem legible_string (s : String) : Legible depth (.text s) :=
  .scalar (readsBack_text (RawText.isJoined_ofString s))

/-- A list of texts is legible if they hold no pairs of surrogates. -/
theorem legible_texts {items : List RawText} (h : ∀ content ∈ items, content.IsJoined) :
    Legible (depth + 1) (texts items) := by
  apply Legible.list
  rw [List.forall_mem_map]
  intro content hcontent
  exact .scalar (readsBack_text (h content hcontent))

/-- Where a value is expected, the print of a legible document is read as the document. -/
theorem Legible.readsInPlace (h : Legible depth d) : ReadsInPlace limit depth d := by
  induction h with
  | scalar h =>
    intro m level rest hexpects _ hrest
    exact complete_scalar h hexpects level hrest
  | list h ih => exact readsInPlace_list ih
  | object h ih => exact readsInPlace_object ih

/-! What a legible document is printed with. -/

/-- A character that a document is printed with. -/
def IsPrinted (c : Char) : Prop :=
  c = '\n' ∨ IsPlain c

instance (c : Char) : Decidable (IsPrinted c) :=
  inferInstanceAs (Decidable (_ ∨ _))

/-- A new line is made of characters that documents are printed with. -/
theorem isPrinted_newline (level : Nat) : ∀ c ∈ newline level, IsPrinted c := by
  rw [newline, List.forall_mem_cons]
  refine ⟨.inl rfl, ?_⟩
  intro c hc
  rw [List.eq_of_mem_replicate hc]
  decide

/-- Plain characters are such characters. -/
theorem isPrinted_of_isPlain {text : List Char} (h : ∀ c ∈ text, IsPlain c) :
    ∀ c ∈ text, IsPrinted c :=
  fun c hc => .inr (h c hc)

/-- For a fixed text this can be computed. -/
theorem isPrinted_of_all {text : List Char} (h : text.all (fun c => decide (IsPlain c)) = true) :
    ∀ c ∈ text, IsPrinted c :=
  isPrinted_of_isPlain (isPlain_of_all h)

/-- Keys are printed with such characters. -/
theorem isPrinted_printText_key (key : String) : ∀ c ∈ printText key, IsPrinted c :=
  isPrinted_of_isPlain (isPlain_printText (RawText.isJoined_ofString key))

/-- So are the items of a list if each of them is. -/
theorem isPrinted_printItems {items : List Document} {level : Nat}
    (h : ∀ d ∈ items, ∀ c ∈ d.printAt level, IsPrinted c) :
    ∀ c ∈ printItems level items, IsPrinted c := by
  induction items with
  | nil => nofun
  | cons d items ih =>
    obtain ⟨hd, hitems⟩ := List.forall_mem_cons.1 h
    rw [printItems]
    simp only [List.cons_append, List.forall_mem_cons, List.forall_mem_append]
    exact ⟨by decide, ⟨isPrinted_newline level, hd⟩, ih hitems⟩

/-- So are the entries of an object if each value is. -/
theorem isPrinted_printEntries {entries : List (String × Document)} {level : Nat}
    (h : ∀ e ∈ entries, ∀ c ∈ e.2.printAt level, IsPrinted c) :
    ∀ c ∈ printEntries level entries, IsPrinted c := by
  induction entries with
  | nil => nofun
  | cons e entries ih =>
    obtain ⟨key, d⟩ := e
    obtain ⟨hd, hentries⟩ := List.forall_mem_cons.1 h
    rw [printEntries]
    simp only [List.cons_append, List.forall_mem_cons, List.forall_mem_append]
    have hcolon : IsPrinted ':' ∧ IsPrinted ' ' := by decide
    exact ⟨by decide, ⟨⟨⟨isPrinted_newline level, isPrinted_printText_key key⟩,
      ⟨hcolon.1, hcolon.2, nofun⟩⟩, hd⟩, ih hentries⟩

/-- A legible document is printed in ASCII, on lines that end in a line feed. -/
theorem Legible.isPrinted (h : Legible depth d) (level : Nat) :
    ∀ c ∈ d.printAt level, IsPrinted c := by
  induction h generalizing level with
  | scalar h => exact isPrinted_of_isPlain (h.plain level)
  | @list depth items h ih =>
    cases items with
    | nil =>
      rw [printAt]
      exact isPrinted_of_all (by decide)
    | cons first more =>
      obtain ⟨hfirst, hmore⟩ := List.forall_mem_cons.1 ih
      rw [printAt]
      simp only [List.cons_append, List.forall_mem_cons, List.forall_mem_append]
      exact ⟨by decide, ⟨⟨⟨isPrinted_newline _, hfirst _⟩,
        isPrinted_printItems fun d hd => hmore d hd _⟩, isPrinted_newline _⟩, ⟨by decide, nofun⟩⟩
  | @object depth entries h ih =>
    cases entries with
    | nil =>
      rw [printAt]
      exact isPrinted_of_all (by decide)
    | cons e more =>
      obtain ⟨key, first⟩ := e
      obtain ⟨hfirst, hmore⟩ := List.forall_mem_cons.1 ih
      rw [printAt]
      simp only [List.cons_append, List.forall_mem_cons, List.forall_mem_append]
      have hcolon : IsPrinted ':' ∧ IsPrinted ' ' := by decide
      exact ⟨by decide, ⟨⟨⟨⟨⟨isPrinted_newline _, isPrinted_printText_key key⟩,
        ⟨hcolon.1, hcolon.2, nofun⟩⟩, hfirst _⟩, isPrinted_printEntries fun e he => hmore e he _⟩,
        isPrinted_newline _⟩, ⟨by decide, nofun⟩⟩

/-- A legible document is read back from its print, where as many containers may stand around a
value as the document has. -/
theorem read_print (h : Legible depth d) (hdepth : depth ≤ limit) :
    read limit d.print = .ok d := by
  have hplace : ReadsInPlace limit depth d := h.readsInPlace
  have hcomplete := hplace Machine.start 0 [] (.inl rfl)
    (by simpa [Machine.start, Machine.expecting] using hdepth) nofun
  rw [List.append_nil] at hcomplete
  rw [read_eq_ok_iff]
  constructor
  · intro hmark
    exact absurd (h.isPrinted 0 _ (List.mem_of_head? hmark)) (by decide)
  · exact hcomplete

end

end TokenAudit.Document
