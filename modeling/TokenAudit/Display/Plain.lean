import TokenAudit.Display.Console
import TokenAudit.Display.Markup

/-!
# A plain console

A console that knows no styles: tags are left out of markup, and the cells of a row stand side by
side. It refuses a tag that closes no open style, and a text with a surrogate in it. Main statement:
it is a console, so it prints ordinary texts without their tags and refuses none of them.
-/

set_option autoImplicit false

namespace TokenAudit.Display

/-! ## What tags and texts are taken for -/

/-- A text without opening brackets and backslashes is shown as it is. -/
theorem tokens_append {text : List Char} (h : ∀ c ∈ text, c ≠ '[' ∧ c ≠ '\\') (rest : List Char) :
    tokens none 0 (text ++ rest) = text.map .shown ++ tokens none 0 rest := by
  induction text with
  | nil => rfl
  | cons c text ih =>
    obtain ⟨⟨hbracket, hslash⟩, htext⟩ := List.forall_mem_cons.1 h
    rw [List.cons_append, tokens, if_neg hslash, if_neg (fun htag => hbracket htag.1),
      if_neg hbracket, ih htext]
    rfl

/-- What stands between the brackets of a tag is its name. -/
theorem tokens_some_append {name : List Char} (h : ']' ∉ name) (read rest : List Char) :
    tokens (some read) 0 (name ++ ']' :: rest) =
      .tag (read.reverse ++ name) :: tokens none 0 rest := by
  induction name generalizing read with
  | nil => simp [tokens]
  | cons c name ih =>
    rw [List.mem_cons, not_or] at h
    rw [List.cons_append, tokens]
    simp only [if_neg (Ne.symm h.1)]
    rw [ih h.2]
    simp

/-- A bracket closes behind what opens none. -/
theorem closesFirst_append {inner : List Char} (h : '[' ∉ inner) (rest : List Char) :
    closesFirst (inner ++ ']' :: rest) = true := by
  induction inner with
  | nil => simp [closesFirst]
  | cons c inner ih =>
    rw [List.mem_cons, not_or] at h
    rw [List.cons_append, closesFirst, ih h.2]
    simp [Ne.symm h.1]

/-- The name of a tag: it begins as a name does and holds no opening bracket and no closing one. -/
def isTagName (name : List Char) : Bool :=
  match name with
  | [] => false
  | c :: rest =>
    (('a' ≤ c && c ≤ 'z') || c == '#' || c == '/' || c == '@') && !rest.contains '[' &&
      !name.contains ']'

/-- A name in brackets is a tag. -/
theorem tokens_tag {name : List Char} (h : isTagName name = true) (rest : List Char) :
    tokens none 0 ('[' :: (name ++ ']' :: rest)) = .tag name :: tokens none 0 rest := by
  unfold isTagName at h
  cases name with
  | nil => cases h
  | cons c name =>
    simp only [Bool.and_eq_true, Bool.not_eq_true', List.contains_eq_mem, decide_eq_false_iff_not]
      at h
    obtain ⟨⟨hbegins, hopens⟩, hcloses⟩ := h
    have htag : beginsTag (c :: name ++ ']' :: rest) = true := by
      rw [List.cons_append, beginsTag, closesFirst_append hopens, hbegins]
      rfl
    rw [tokens]
    simp only [htag, and_self, if_true, if_false, Nat.zero_div, List.replicate_zero,
      List.nil_append, Nat.zero_mod, Char.reduceEq]
    rw [tokens_some_append hcloses]
    rfl

/-! ## Parts of a line -/

/-- The parts of a text that a segment is made of. -/
def Segment.tokens (s : Segment) : List Token :=
  match s.style with
  | none => s.text.chars.map .shown
  | some style =>
    .tag style.toList :: (s.text.chars.map .shown ++ [.tag ('/' :: style.toList)])

/-- The characters of a text without opening brackets and backslashes are neither. -/
theorem ne_of_isMarkless {t : RawText} (h : MadeOf IsMarkless t) :
    ∀ c ∈ t.chars, c ≠ '[' ∧ c ≠ '\\' := by
  intro c hc
  obtain ⟨point, hpoint, rfl⟩ := List.mem_map.1 hc
  obtain ⟨hvalid, hbracket, hslash⟩ := h point hpoint
  have hsame := RawText.toNat_charOf hvalid
  constructor
  · rintro hc
    exact hbracket (hsame.symm.trans (congrArg Char.toNat hc))
  · rintro hc
    exact hslash (hsame.symm.trans (congrArg Char.toNat hc))

/-- The names of the known styles can stand in tags, and a closing tag is told by its slash. -/
theorem isTagName_of_mem {style : String} (h : style ∈ knownStyles) :
    isTagName style.toList = true ∧ isTagName ('/' :: style.toList) = true ∧
      style.toList.takeWhile (· ≠ '=') = style.toList ∧ style.toList ≠ [] ∧
      style.toList.head? ≠ some '/' := by
  revert style
  decide

/-- A part of a line is taken for its text, between the tags of its style. -/
theorem tokens_markup {s : Segment} (hstyle : ∀ style ∈ s.style, style ∈ knownStyles)
    (htext : MadeOf IsMarkless s.text) (rest : List Char) :
    Display.tokens none 0 (s.markup.chars ++ rest) = s.tokens ++ Display.tokens none 0 rest := by
  have hplain := ne_of_isMarkless htext
  unfold Segment.markup Segment.tokens
  cases hs : s.style with
  | none => exact tokens_append hplain rest
  | some style =>
    obtain ⟨hopen, hclose, -⟩ := isTagName_of_mem (hstyle style hs)
    have hchars : (((("[" ++ style ++ "]" : String) : RawText) ++ s.text ++
        ("[/" ++ style ++ "]" : String)).chars ++ rest) =
        '[' :: (style.toList ++ ']' :: (s.text.chars ++
          '[' :: (('/' :: style.toList) ++ ']' :: rest))) := by
      simp [RawText.chars_append, RawText.chars_ofString]
    rw [hchars, tokens_tag hopen, tokens_append hplain, tokens_tag hclose]
    simp

/-- A line is taken for its parts. -/
theorem tokens_markupOf {segments : List Segment} (h : Segment.All IsMarkless segments) :
    Display.tokens none 0 (Segment.markupOf segments).chars =
      segments.flatMap Segment.tokens := by
  induction segments with
  | nil => rfl
  | cons s segments ih =>
    obtain ⟨⟨hstyle, htext⟩, hrest⟩ := List.forall_mem_cons.1 h
    have hcons : Segment.markupOf (s :: segments) = s.markup ++ Segment.markupOf segments := rfl
    rw [hcons, RawText.chars_append, tokens_markup hstyle htext, ih hrest, List.flatMap_cons]

/-- What is shown of a line is the text of its parts. -/
theorem shownText_markupOf {segments : List Segment} (h : Segment.All IsMarkless segments) :
    shownText (Segment.markupOf segments).chars = (Segment.textOf segments).chars := by
  unfold shownText
  rw [tokens_markupOf h]
  clear h
  induction segments with
  | nil => rfl
  | cons s segments ih =>
    have hcons : Segment.textOf (s :: segments) = s.text ++ Segment.textOf segments := rfl
    have hshown : s.tokens.filterMap Token.char? = s.text.chars := by
      have htext : (s.text.chars.map Token.shown).filterMap Token.char? = s.text.chars := by
        rw [List.filterMap_map]
        exact List.filterMap_some
      unfold Segment.tokens
      split
      · exact htext
      · rw [List.filterMap_cons_none rfl, List.filterMap_append, htext]
        exact List.append_nil _
    rw [List.flatMap_cons, List.filterMap_append, ih, hcons, RawText.chars_append, hshown]

/-- The styles that are open do not change over characters. -/
theorem foldlM_openAfter_shown (text : List Char) (opened : List (List Char)) :
    (text.map Token.shown).foldlM Token.openAfter opened = some opened := by
  induction text with
  | nil => rfl
  | cons c text ih => exact ih

/-- The styles that are open are the same behind a part of a line as in front of it. -/
theorem foldlM_openAfter_tokens {s : Segment}
    (hstyle : ∀ style ∈ s.style, style ∈ knownStyles) (opened : List (List Char)) :
    s.tokens.foldlM Token.openAfter opened = some opened := by
  unfold Segment.tokens
  cases hs : s.style with
  | none => exact foldlM_openAfter_shown _ _
  | some style =>
    obtain ⟨-, -, hwhole, hsome, hslash⟩ := isTagName_of_mem (hstyle style hs)
    have hopens : Token.openAfter opened (.tag style.toList) = some (style.toList :: opened) := by
      unfold Token.openAfter
      split
      next htag => cases htag
      next htag => simp [(Token.tag.inj htag)] at hslash
      next htag => simp [(Token.tag.inj htag)] at hslash
      next htag => rw [← Token.tag.inj htag, hwhole]
    have hcloses : Token.openAfter (style.toList :: opened) (.tag ('/' :: style.toList)) =
        some opened := by
      unfold Token.openAfter
      split
      next htag => cases htag
      next htag => exact absurd (List.cons.inj (Token.tag.inj htag)).2 hsome
      next htag =>
        obtain rfl := (List.cons.inj (Token.tag.inj htag)).2
        rw [if_pos List.mem_cons_self, List.erase_cons_head]
      next hother htag => exact (hother style.toList (Token.tag.inj htag).symm).elim
    rw [List.foldlM_cons, hopens, Option.bind_eq_bind, Option.bind_some, List.foldlM_append,
      foldlM_openAfter_shown, Option.bind_eq_bind, Option.bind_some, List.foldlM_cons, hcloses]
    rfl

/-- Every tag of a line closes an open style. -/
theorem closesOpen_markupOf {segments : List Segment} (h : Segment.All IsMarkless segments) :
    closesOpen (Segment.markupOf segments).chars = true := by
  have hopened : (segments.flatMap Segment.tokens).foldlM Token.openAfter [] = some [] := by
    have htokens : Segment.All IsMarkless segments := h
    induction segments with
    | nil => rfl
    | cons s segments ih =>
      obtain ⟨⟨hstyle, -⟩, hrest⟩ := List.forall_mem_cons.1 htokens
      rw [List.flatMap_cons, List.foldlM_append, foldlM_openAfter_tokens hstyle]
      exact ih hrest hrest
  rw [closesOpen, tokens_markupOf h, hopened]
  rfl

/-! ## The console -/

/-- What a text with markup shows. -/
def plainText (markup : RawText) : RawText :=
  String.ofList (shownText markup.chars)

/-- Texts one after the other, with a text between them. -/
def joinTexts (between : String) : List RawText → RawText
  | [] => ("" : String)
  | [text] => text
  | text :: rest => text ++ (between : RawText) ++ joinTexts between rest

/-- The cells of a row side by side. -/
def plainRow (cells : List String) : RawText :=
  joinTexts "  " (cells.map fun (cell : String) => plainText cell)

/-- The lines of a thing to be shown. -/
def Item.plainLines : Item → List RawText
  | line markup => [plainText markup]
  | panel p => (p.title.toList ++ [p.body]).map fun (line : String) => plainText line
  | table t =>
    t.title.toList.map RawText.ofString ++
      (if t.showHeader then [plainRow (t.columns.map (·.header))] else []) ++
      t.rows.map plainRow

/-- Why a thing cannot be shown: a closing tag in it closes no open style, or a surrogate in it
cannot be written. -/
def Item.plainFault? (item : Item) : Option DisplayFault :=
  if item.markups.any fun markup => !closesOpen markup.chars then
    some ⟨"closing tag doesn't match any open tag"⟩
  else if item.markups.any fun markup => markup.points.any fun n => !decide n.isValidChar then
    some ⟨"surrogates not allowed"⟩
  else none

/-- What the console without styles prints of a thing. -/
def Item.plainPrint (item : Item) : Except DisplayFault RawText :=
  match item.plainFault? with
  | some fault => .error fault
  | none => .ok (joinTexts "\n" item.plainLines)

/-- A text of characters is the one that its characters make. -/
theorem ofString_chars {t : RawText} (h : MadeOf Nat.isValidChar t) :
    RawText.ofString (String.ofList t.chars) = t := by
  apply congrArg RawText.mk
  rw [String.toList_ofList, RawText.chars, List.map_map]
  have hsame : t.points.map (Char.toNat ∘ RawText.charOf) = t.points.map id :=
    List.map_congr_left fun point hpoint => RawText.toNat_charOf (h point hpoint)
  rw [hsame, List.map_id]

/-- A string has no surrogates in it. -/
theorem madeOf_isValidChar_ofString (s : String) :
    MadeOf Nat.isValidChar (RawText.ofString s) := by
  intro point hpoint
  obtain ⟨c, -, rfl⟩ := List.mem_map.1 hpoint
  exact c.valid

/-- The markup of a line has no surrogates in it if its parts have none. -/
theorem madeOf_isValidChar_markupOf {segments : List Segment}
    (h : Segment.All IsMarkless segments) :
    MadeOf Nat.isValidChar (Segment.markupOf segments) := by
  induction segments with
  | nil => exact nofun
  | cons s segments ih =>
    obtain ⟨⟨-, htext⟩, hrest⟩ := List.forall_mem_cons.1 h
    intro point hpoint
    rcases List.mem_append.1 hpoint with hfirst | hlater
    · unfold Segment.markup at hfirst
      split at hfirst
      · exact (htext point hfirst).1
      · rcases List.mem_append.1 hfirst with hbegin | hclose
        · rcases List.mem_append.1 hbegin with hopen | hinner
          · exact madeOf_isValidChar_ofString _ point hopen
          · exact (htext point hinner).1
        · exact madeOf_isValidChar_ofString _ point hclose
    · exact ih hrest point hlater

/-- A thing whose texts are lines without opening brackets and backslashes can be shown. -/
theorem plainFault?_eq_none {item : Item}
    (h : ∀ markup ∈ item.markups, IsMarkupOf IsMarkless markup) : item.plainFault? = none := by
  have hcloses : ∀ markup ∈ item.markups, closesOpen markup.chars = true := by
    intro markup hmarkup
    obtain ⟨segments, hall, rfl⟩ := h markup hmarkup
    exact closesOpen_markupOf hall
  have hvalid : ∀ markup ∈ item.markups, MadeOf Nat.isValidChar markup := by
    intro markup hmarkup
    obtain ⟨segments, hall, rfl⟩ := h markup hmarkup
    exact madeOf_isValidChar_markupOf hall
  unfold Item.plainFault?
  rw [if_neg, if_neg]
  · simpa only [MadeOf, List.any_eq_true, Bool.not_eq_true', decide_eq_false_iff_not, not_exists,
      not_and, Decidable.not_not] using hvalid
  · simpa using hcloses

/-- The text of a line has no surrogates in it if its parts have none. -/
theorem madeOf_isValidChar_textOf {segments : List Segment}
    (h : Segment.All IsMarkless segments) :
    MadeOf Nat.isValidChar (Segment.textOf segments) := by
  induction segments with
  | nil => exact nofun
  | cons s segments ih =>
    obtain ⟨⟨-, htext⟩, hrest⟩ := List.forall_mem_cons.1 h
    intro point hpoint
    rcases List.mem_append.1 hpoint with hfirst | hlater
    · exact (htext point hfirst).1
    · exact ih hrest point hlater

/-- The console without styles. -/
def Console.plain : Console where
  print := Item.plainPrint
  prints_styled := by
    intro segments hall _
    have hmarkless := Segment.All.markless hall
    have hnone : (Item.line (Segment.markupOf segments)).plainFault? = none :=
      plainFault?_eq_none (List.forall_mem_singleton.2 ⟨segments, hmarkless, rfl⟩)
    have htext : plainText (Segment.markupOf segments) = Segment.textOf segments := by
      rw [plainText, shownText_markupOf hmarkless,
        ofString_chars (madeOf_isValidChar_textOf hmarkless)]
    unfold Item.plainPrint
    rw [hnone]
    exact congrArg Except.ok htext
  prints_lead := by
    intro lead markup text hlead _ hprint
    have hmarkless : MadeOf IsMarkless lead := fun point h => (hlead point h).1
    unfold Item.plainPrint at hprint
    split at hprint
    · cases hprint
    · cases hprint
      have hshown : shownText (lead ++ markup).chars = lead.chars ++ shownText markup.chars := by
        unfold shownText
        rw [RawText.chars_append, tokens_append (ne_of_isMarkless hmarkless),
          List.filterMap_append, List.filterMap_map]
        exact congrArg (· ++ _) List.filterMap_some
      have hvalid := ofString_chars fun point hpoint => (hmarkless point hpoint).1
      change lead.points <+: (plainText (lead ++ markup)).points
      rw [plainText, hshown, String.ofList_append, RawText.ofString_append, hvalid]
      exact List.prefix_append _ _
  accepts := by
    intro item h
    unfold Item.plainPrint
    rw [plainFault?_eq_none h]
    exact ⟨_, rfl⟩

end TokenAudit.Display
