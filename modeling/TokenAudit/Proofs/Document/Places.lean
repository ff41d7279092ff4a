import TokenAudit.Document.Printer

/-!
# Where things stand in a print

The values in a document are printed one after the other, each with its key if it has one. A text
that stands in the print of an item or an entry stands in the print of the container.
-/

set_option autoImplicit false

namespace TokenAudit.Document

/-- The texts stand in another one, in their order. -/
inductive StandIn : List (List Char) → List Char → Prop
  | nil (text : List Char) : StandIn [] text
  | cons {first rest : List Char} {more : List (List Char)} (before : List Char)
      (h : StandIn more rest) : StandIn (first :: more) (before ++ first ++ rest)

namespace StandIn

variable {texts texts' : List (List Char)} {s t : List Char}

/-- The texts still stand there when something is put in front. -/
theorem prepend (before : List Char) (h : StandIn texts t) : StandIn texts (before ++ t) := by
  cases h with
  | nil => exact .nil _
  | cons earlier h =>
    rw [← List.append_assoc, ← List.append_assoc]
    exact .cons (before ++ earlier) h

/-- Texts in one text and texts in the next stand in both together. -/
theorem append (h : StandIn texts s) (h' : StandIn texts' t) :
    StandIn (texts ++ texts') (s ++ t) := by
  induction h with
  | nil text => exact h'.prepend text
  | cons before h ih =>
    rw [List.cons_append, List.append_assoc]
    exact .cons before ih

/-- The texts still stand there when something follows. -/
theorem followed (h : StandIn texts t) (after : List Char) : StandIn texts (t ++ after) := by
  have hlater := h.append (.nil after)
  rwa [List.append_nil] at hlater

end StandIn

section

variable {α : Type} {f : α → List (List Char)} {make : α → Document} {level : Nat}

/-- What stands in the items stands in their print. -/
theorem standIn_printItems {items : List α}
    (h : ∀ a ∈ items, StandIn (f a) ((make a).printAt level)) :
    StandIn (items.flatMap f) (printItems level (items.map make)) := by
  induction items with
  | nil => exact .nil _
  | cons a items ih =>
    obtain ⟨ha, hitems⟩ := List.forall_mem_cons.1 h
    rw [List.flatMap_cons, List.map_cons, printItems]
    exact (ha.prepend (',' :: newline level)).append (ih hitems)

/-- What stands in the items of a list stands in the list. -/
theorem standIn_list {items : List α}
    (h : ∀ a ∈ items, StandIn (f a) ((make a).printAt (level + 1))) :
    StandIn (items.flatMap f) ((list (items.map make)).printAt level) := by
  cases items with
  | nil => exact .nil _
  | cons a items =>
    obtain ⟨ha, hitems⟩ := List.forall_mem_cons.1 h
    rw [List.flatMap_cons, List.map_cons, printAt, List.append_assoc]
    exact ((ha.prepend ('[' :: newline (level + 1))).append (standIn_printItems hitems)).followed _

end

section

variable {texts : List (List Char)} {entries : List (String × Document)} {e : String × Document}
  {level : Nat}

/-- What stands in one value stands in the print of the entries. -/
theorem standIn_printEntries (he : e ∈ entries) (h : StandIn texts (e.2.printAt level)) :
    StandIn texts (printEntries level entries) := by
  induction entries with
  | nil => cases he
  | cons e' entries ih =>
    obtain ⟨key, d⟩ := e'
    rw [printEntries]
    rcases List.mem_cons.1 he with rfl | he
    · exact (h.prepend _).followed _
    · exact (ih he).prepend _

/-- What stands in a value of an object stands in the object. -/
theorem standIn_object (he : e ∈ entries) (h : StandIn texts (e.2.printAt (level + 1))) :
    StandIn texts ((object entries).printAt level) := by
  cases entries with
  | nil => cases he
  | cons e' entries =>
    obtain ⟨key, d⟩ := e'
    rw [printAt]
    rcases List.mem_cons.1 he with rfl | he
    · exact (((h.prepend _).followed _).followed _).followed _
    · exact (((standIn_printEntries he h).prepend _).followed _).followed _

/-- Entries are printed one after the other. -/
theorem printEntries_append (level : Nat) (entries more : List (String × Document)) :
    printEntries level (entries ++ more) =
      printEntries level entries ++ printEntries level more := by
  induction entries with
  | nil => rfl
  | cons e entries ih =>
    obtain ⟨key, d⟩ := e
    rw [List.cons_append, printEntries, printEntries, ih]
    simp only [List.append_assoc]

/-- An entry of an object that is not the last one, from its key to the comma. -/
def entryChars (key : String) (value : List Char) : List Char :=
  printText key ++ [':', ' '] ++ value ++ [',']

/-- An entry stands in its object, and what stands in the entries past the next comes later. -/
theorem standIn_entry (first next : String × Document) (before : List (String × Document))
    (key : String) (d : Document) {after : List (String × Document)}
    (h : StandIn texts (printEntries (level + 1) after)) :
    StandIn (entryChars key (d.printAt (level + 1)) :: texts)
      ((object (first :: (before ++ (key, d) :: next :: after))).printAt level) := by
  obtain ⟨key₁, d₁⟩ := first
  obtain ⟨key₂, d₂⟩ := next
  have hprint : (object ((key₁, d₁) :: (before ++ (key, d) :: (key₂, d₂) :: after))).printAt level =
      ('\x7b' :: newline (level + 1) ++ printText key₁ ++ [':', ' '] ++ d₁.printAt (level + 1) ++
        printEntries (level + 1) before ++ ',' :: newline (level + 1)) ++
      entryChars key (d.printAt (level + 1)) ++
      ((newline (level + 1) ++ printText key₂ ++ [':', ' '] ++ d₂.printAt (level + 1)) ++
        printEntries (level + 1) after ++ (newline level ++ ['\x7d'])) := by
    rw [printAt, printEntries_append, printEntries, printEntries]
    simp [entryChars]
  rw [hprint]
  exact .cons _ ((h.prepend _).followed _)

end

end TokenAudit.Document
