import Mathlib.Data.List.Forall2
import Mathlib.Data.List.TakeWhile
import TokenAudit.Display.Console

/-!
# What consoles print

A console takes what it is handed until it refuses a thing, and prints a text for each thing that it
takes, in order. Markup that is put together of texts of a kind and of such texts in known styles is
markup of parts in known styles; numbers are written with ordinary characters.
-/

set_option autoImplicit false

namespace TokenAudit.Display

/-! ## Texts of characters of a kind -/

section

variable {kind : Nat → Prop}

/-- Two texts in a row are made of a kind of characters exactly when both are. -/
theorem madeOf_append_iff {s t : RawText} :
    MadeOf kind (s ++ t) ↔ MadeOf kind s ∧ MadeOf kind t :=
  List.forall_mem_append

end

/-- An ordinary character that is no colon. -/
def IsColonless (point : Nat) : Prop :=
  IsOrdinary point ∧ point ≠ ':'.toNat

instance : DecidablePred IsColonless := fun _ => inferInstanceAs (Decidable (_ ∧ _))

/-- An ordinary character that is no colon opens no bracket and is no backslash. -/
theorem IsColonless.markless {point : Nat} (h : IsColonless point) : IsMarkless point :=
  h.1.1

/-- An ordinary text without colons is ordinary. -/
theorem MadeOf.ordinary {text : RawText} (h : MadeOf IsColonless text) : MadeOf IsOrdinary text :=
  fun point hpoint => (h point hpoint).1

/-- It has no opening brackets and no backslashes. -/
theorem MadeOf.markless {text : RawText} (h : MadeOf IsColonless text) : MadeOf IsMarkless text :=
  fun point hpoint => (h point hpoint).markless

section

variable {kind : Nat → Prop}

/-- The markup shows the text: both are made of the same parts in known styles, with characters of
a kind. -/
def Shows (kind : Nat → Prop) (markup text : RawText) : Prop :=
  ∃ segments, Segment.All kind segments ∧ markup = Segment.markupOf segments ∧
    text = Segment.textOf segments

/-- The markup of two rows of segments is the one's markup followed by the other's. -/
theorem markupOf_append (segments others : List Segment) :
    Segment.markupOf (segments ++ others) =
      Segment.markupOf segments ++ Segment.markupOf others := by
  induction segments with
  | nil => rfl
  | cons s segments ih =>
    have hcons : ∀ rest, Segment.markupOf (s :: rest) = s.markup ++ Segment.markupOf rest :=
      fun _ => rfl
    rw [List.cons_append, hcons, hcons, ih, RawText.append_assoc]

/-- So is the text that they show. -/
theorem textOf_append (segments others : List Segment) :
    Segment.textOf (segments ++ others) = Segment.textOf segments ++ Segment.textOf others := by
  induction segments with
  | nil => rfl
  | cons s segments ih =>
    have hcons : ∀ rest, Segment.textOf (s :: rest) = s.text ++ Segment.textOf rest := fun _ => rfl
    rw [List.cons_append, hcons, hcons, ih, RawText.append_assoc]

/-- A text shows itself. -/
theorem shows_text {text : RawText} (h : MadeOf kind text) : Shows kind text text := by
  refine ⟨[⟨none, text⟩], List.forall_mem_singleton.2 ⟨nofun, h⟩, ?_, ?_⟩
  all_goals exact (RawText.append_ofString_empty text).symm

/-- A text in a known style shows the text. -/
theorem shows_styled {style body : String} (hstyle : style ∈ knownStyles)
    (h : MadeOf kind (RawText.ofString body)) : Shows kind (styled style body) body := by
  refine ⟨[⟨some style, body⟩], ?_, ?_, (RawText.append_ofString_empty _).symm⟩
  · refine List.forall_mem_singleton.2 ⟨?_, h⟩
    rintro _ ⟨⟩
    exact hstyle
  · have hmarkup : Segment.markupOf [⟨some style, body⟩] = Segment.markup ⟨some style, body⟩ :=
      RawText.append_ofString_empty _
    rw [hmarkup]
    simp only [styled, RawText.ofString_append, Segment.markup, RawText.append_assoc]

/-- What two markups show one after the other. -/
theorem Shows.append {markup text more shown : RawText} (h : Shows kind markup text)
    (hmore : Shows kind more shown) : Shows kind (markup ++ more) (text ++ shown) := by
  obtain ⟨segments, hall, rfl, rfl⟩ := h
  obtain ⟨others, hothers, rfl, rfl⟩ := hmore
  exact ⟨segments ++ others, List.forall_mem_append.2 ⟨hall, hothers⟩,
    (markupOf_append _ _).symm, (textOf_append _ _).symm⟩

/-- Markup that shows a text is put together of segments. -/
theorem Shows.isMarkupOf {markup text : RawText} (h : Shows kind markup text) :
    IsMarkupOf kind markup := by
  obtain ⟨segments, hall, hmarkup, -⟩ := h
  exact ⟨segments, hall, hmarkup⟩

/-- Markup that is put together of segments shows a text. -/
theorem IsMarkupOf.exists_shows {markup : RawText} (h : IsMarkupOf kind markup) :
    ∃ text, Shows kind markup text := by
  obtain ⟨segments, hall, hmarkup⟩ := h
  exact ⟨_, segments, hall, hmarkup, rfl⟩

/-- Two pieces of such markup in a row are such markup. -/
theorem IsMarkupOf.append {markup more : RawText} (h : IsMarkupOf kind markup)
    (hmore : IsMarkupOf kind more) : IsMarkupOf kind (markup ++ more) := by
  obtain ⟨text, htext⟩ := h.exists_shows
  obtain ⟨shown, hshown⟩ := hmore.exists_shows
  exact (htext.append hshown).isMarkupOf

end

/-! ## Printing things one after the other -/

namespace Console

variable {c : Console} {items : List Item}

/-- The things that a console takes: those in front of the first that it refuses. -/
def taken (c : Console) (items : List Item) : List Item :=
  items.takeWhile fun item => (c.print item).isOk

/-- A console refuses none of the things if it prints each of them. -/
theorem refusal?_eq_none_iff :
    c.refusal? items = none ↔ ∀ item ∈ items, ∃ text, c.print item = .ok text := by
  induction items with
  | nil => simp [refusal?]
  | cons item items ih =>
    rw [List.forall_mem_cons, ← ih, refusal?]
    cases c.print item <;> simp

/-- Each thing that is taken has its printed text, in order. -/
theorem forall₂_taken (c : Console) (items : List Item) :
    List.Forall₂ (fun item text => c.print item = .ok text) (c.taken items) (c.printed items) := by
  induction items with
  | nil => exact .nil
  | cons item items ih =>
    rw [taken, List.takeWhile_cons, printed]
    cases hprint : c.print item with
    | error fault => exact .nil
    | ok text => exact .cons hprint ih

/-- All things are taken if none is refused. -/
theorem taken_eq_self_iff : c.taken items = items ↔ c.refusal? items = none := by
  rw [taken, List.takeWhile_eq_self_iff, refusal?_eq_none_iff]
  apply forall₂_congr
  intro item _
  cases c.print item <;> simp [Except.isOk, Except.toBool]

/-- Each thing has its printed text, in order, if none is refused. -/
theorem forall₂_printed (h : c.refusal? items = none) :
    List.Forall₂ (fun item text => c.print item = .ok text) items (c.printed items) := by
  have htaken := c.forall₂_taken items
  rwa [taken_eq_self_iff.2 h] at htaken

/-- Markup of ordinary texts is printed as what it shows. -/
theorem print_of_shows (c : Console) {markup text : RawText} (h : Shows IsOrdinary markup text)
    (hcolon : text.points.count ':'.toNat ≤ 1) : c.print (.line markup) = .ok text := by
  obtain ⟨segments, hall, rfl, rfl⟩ := h
  exact c.prints_styled segments hall hcolon

end Console

end TokenAudit.Display
