import TokenAudit.Proofs.Document.Field
import TokenAudit.Proofs.Document.Text

/-!
# Values in a document

What a document holds is read kind by kind, as a reader of the exported documents would: a whole
number, a number of double width, a text, a list, or nothing in place of a value. A reading undoes
what makes a value into a document, and is refused by a document of another kind.
-/

set_option autoImplicit false

namespace TokenAudit.Document

/-! ## Readings -/

/-- The whole number that a document is. -/
def asInt? : Document → Option Int
  | .int n => some n
  | _ => none

/-- The number of double width that a document is. -/
def asFloat? : Document → Option Binary64
  | .float x => some x
  | _ => none

/-- The text that a document is, as a string. -/
def asString? : Document → Option String
  | .text content => some content.asString
  | _ => none

section

variable {α : Type}

/-- The list that a document is, each item by a reading. -/
def asList? (read : Document → Option α) : Document → Option (List α)
  | .list items => items.mapM read
  | _ => none

/-- The value that a document is by a reading, or nothing where there is none. -/
def asOption? (read : Document → Option α) : Document → Option (Option α)
  | .null => some none
  | d => (read d).map some

/-- The value of a key by a reading. -/
def get? (read : Document → Option α) (key : String) (d : Document) : Option α :=
  (d.field? key).bind read

/-! ## What is read of what was made -/

variable {β : Type} {read : Document → Option β}

/-- The value of a key is read by the reader that is given. -/
theorem get?_eq_some {key : String} {d value : Document} {b : β} (h : d.field? key = some value)
    (hread : read value = some b) : d.get? read key = some b := by
  rw [get?, h, Option.bind_some, hread]

/-- A text of characters is read as it is. -/
theorem asString?_text (s : String) : asString? (.text s) = some s := by
  rw [asString?, RawText.asString_ofString]

/-- If a reader undoes a maker on each item, it does so on the list. -/
theorem mapM_map_eq_some {γ : Type} {make : α → γ} {read : γ → Option β} {f : α → β}
    {items : List α} (h : ∀ a ∈ items, read (make a) = some (f a)) :
    (items.map make).mapM read = some (items.map f) := by
  induction items with
  | nil => rfl
  | cons a items ih =>
    obtain ⟨ha, hitems⟩ := List.forall_mem_cons.1 h
    rw [List.map_cons, List.mapM_cons, ha, ih hitems]
    rfl

/-- A list is read from the documents of its items. -/
theorem asList?_list {make : α → Document} {f : α → β} {items : List α}
    (h : ∀ a ∈ items, read (make a) = some (f a)) :
    asList? read (.list (items.map make)) = some (items.map f) :=
  mapM_map_eq_some h

/-- So a list of things that can be read back can be read back. -/
theorem asList?_list_self {make : β → Document} {items : List β}
    (h : ∀ b ∈ items, read (make b) = some b) :
    asList? read (.list (items.map make)) = some items := by
  rw [asList?_list (f := id) h, List.map_id]

/-- A list of texts is read back. -/
theorem asList?_texts (items : List String) :
    asList? asString? (.texts (items.map .ofString)) = some items := by
  have htexts : texts (items.map .ofString) = list (items.map fun s => text (.ofString s)) := by
    rw [texts, List.map_map]
    rfl
  rw [htexts]
  exact asList?_list_self fun s _ => asString?_text s

/-- A value that may be missing is read from its document, if no value has that of nothing. -/
theorem asOption?_orNull {make : α → Document} {f : α → β} (hnull : read .null = none)
    (a : Option α) (h : ∀ b, a = some b → read (make b) = some (f b)) :
    asOption? read (orNull make a) = some (a.map f) := by
  cases a with
  | none => rfl
  | some b =>
    have hb := h b rfl
    rw [orNull, Option.map_some]
    unfold asOption?
    split
    next hmake =>
      rw [hmake, hnull] at hb
      cases hb
    next => rw [hb, Option.map_some]

/-- A thing that may be missing can be read back if it is not taken for a missing one. -/
theorem asOption?_orNull_self {make : β → Document} (hnull : read .null = none) (b : Option β)
    (h : ∀ c, b = some c → read (make c) = some c) : asOption? read (orNull make b) = some b := by
  rw [asOption?_orNull (f := id) hnull b h, Option.map_id, id]

end

end TokenAudit.Document
