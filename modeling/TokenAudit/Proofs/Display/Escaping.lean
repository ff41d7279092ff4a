import TokenAudit.Display.Markup
import TokenAudit.Proofs.Text.Decoding
import TokenAudit.Text.Raw

/-!
# Texts that need escaping

Escaping puts backslashes in front of what would begin a tag and behind a single backslash at the
end, and leaves all else as it is. So a text is its own escaped form exactly when it holds no tag
and does not end in a single backslash; any other text grows. A raw text is escaped by its code
points, as a string is by its characters.
-/

set_option autoImplicit false

namespace TokenAudit.Display

/-! ## Plain texts -/

/-- A character with which the name of a tag may begin. -/
def BeginsName (c : Char) : Prop :=
  ('a' ≤ c ∧ c ≤ 'z') ∨ c = '#' ∨ c = '/' ∨ c = '@'

/-- The text holds what would be taken for a tag: brackets around a name, without another opening
bracket between them. -/
def HoldsTag (text : List Char) : Prop :=
  ∃ before c inner after, text = before ++ '[' :: c :: (inner ++ ']' :: after) ∧
    BeginsName c ∧ '[' ∉ inner

/-- The text ends in one backslash and no more. -/
def EndsInLoneSlash (text : List Char) : Prop :=
  text.getLast? = some '\\' ∧ text.dropLast.getLast? ≠ some '\\'
  deriving Decidable

/-- Nothing in the text has to be escaped. -/
def IsPlain (text : List Char) : Prop :=
  ¬ HoldsTag text ∧ ¬ EndsInLoneSlash text

/-- A bracket closes first exactly when it stands behind a part without opening brackets. -/
theorem closesFirst_iff {text : List Char} :
    closesFirst text = true ↔ ∃ inner after, text = inner ++ ']' :: after ∧ '[' ∉ inner := by
  induction text with
  | nil => simp [closesFirst]
  | cons c text ih =>
    unfold closesFirst
    constructor
    · intro h
      rw [Bool.or_eq_true, Bool.and_eq_true, beq_iff_eq, bne_iff_ne] at h
      rcases h with rfl | ⟨hc, hrest⟩
      · exact ⟨[], text, rfl, List.not_mem_nil⟩
      · obtain ⟨inner, after, rfl, hinner⟩ := ih.1 hrest
        refine ⟨c :: inner, after, rfl, ?_⟩
        rw [List.mem_cons, not_or]
        exact ⟨Ne.symm hc, hinner⟩
    · rintro ⟨inner, after, htext, hinner⟩
      cases inner with
      | nil =>
        obtain ⟨rfl, rfl⟩ := List.cons.inj htext
        rfl
      | cons d inner =>
        obtain ⟨rfl, rfl⟩ := List.cons.inj htext
        rw [List.mem_cons, not_or] at hinner
        have hrest : closesFirst (inner ++ ']' :: after) = true :=
          ih.2 ⟨inner, after, rfl, hinner.2⟩
        simp [hrest, Ne.symm hinner.1]

/-- A bracket would begin a tag exactly when a name and a closing bracket follow, without another
opening one between them. -/
theorem beginsTag_iff {text : List Char} :
    beginsTag text = true ↔
      ∃ c inner after, text = c :: (inner ++ ']' :: after) ∧ BeginsName c ∧ '[' ∉ inner := by
  cases text with
  | nil => simp [beginsTag]
  | cons c text =>
    unfold beginsTag
    rw [Bool.and_eq_true, closesFirst_iff]
    simp only [Bool.or_eq_true, Bool.and_eq_true, decide_eq_true_eq, beq_iff_eq, or_assoc]
    constructor
    · rintro ⟨hc, inner, after, rfl, hinner⟩
      exact ⟨c, inner, after, rfl, hc, hinner⟩
    · rintro ⟨d, inner, after, htext, hd, hinner⟩
      cases htext
      exact ⟨hd, inner, after, rfl, hinner⟩

/-- The empty text holds no tag. -/
theorem not_holdsTag_nil : ¬ HoldsTag [] := by
  rintro ⟨before, c, inner, after, htext, -⟩
  simp at htext

/-- A tag stands at the beginning of a text or in the rest of it. -/
theorem holdsTag_cons_iff {c : Char} {text : List Char} :
    HoldsTag (c :: text) ↔ (c = '[' ∧ beginsTag text = true) ∨ HoldsTag text := by
  rw [beginsTag_iff]
  constructor
  · rintro ⟨before, d, inner, after, htext, hd, hinner⟩
    cases before with
    | nil =>
      cases htext
      exact .inl ⟨rfl, d, inner, after, rfl, hd, hinner⟩
    | cons e before =>
      cases htext
      exact .inr ⟨before, d, inner, after, rfl, hd, hinner⟩
  · rintro (⟨rfl, d, inner, after, rfl, hd, hinner⟩ | ⟨before, d, inner, after, rfl, hd, hinner⟩)
    · exact ⟨[], d, inner, after, rfl, hd, hinner⟩
    · exact ⟨c :: before, d, inner, after, rfl, hd, hinner⟩

instance decidableHoldsTag : DecidablePred HoldsTag
  | [] => isFalse not_holdsTag_nil
  | c :: text =>
    have := decidableHoldsTag text
    decidable_of_iff ((c = '[' ∧ beginsTag text = true) ∨ HoldsTag text) holdsTag_cons_iff.symm

instance (text : List Char) : Decidable (IsPlain text) :=
  inferInstanceAs (Decidable (_ ∧ _))

/-- A text ends in one backslash exactly when its last character is one and the character before is
none. -/
theorem endsInLoneSlash_iff {text : List Char} :
    EndsInLoneSlash text ↔
      text.reverse.head? = some '\\' ∧ text.reverse.tail.head? ≠ some '\\' := by
  rw [EndsInLoneSlash, List.head?_reverse, List.tail_reverse, List.head?_reverse]

/-- The end of a text is doubled exactly when it is a lone backslash. -/
theorem closeSlash_eq (text : List Char) :
    closeSlash text = if EndsInLoneSlash text then text ++ ['\\'] else text := by
  unfold closeSlash
  simp only [endsInLoneSlash_iff]
  split
  next before heq => rw [heq, if_neg (fun h => h.2 rfl)]
  next before hdouble heq =>
    have hsingle : before.head? ≠ some '\\' := by
      rw [ne_eq, List.head?_eq_some_iff]
      exact fun ⟨rest, hrest⟩ => hdouble rest hrest
    rw [heq, if_pos ⟨rfl, hsingle⟩]
  next hslash =>
    rw [if_neg]
    rintro ⟨hhead, -⟩
    obtain ⟨before, heq⟩ := List.head?_eq_some_iff.1 hhead
    exact hslash before heq

/-! ## Raw texts -/

/-- Escapes code points behind a number of backslashes. -/
def escapePoints (slashes : Nat) : List Nat → List Nat
  | [] => List.replicate slashes '\\'.toNat
  | n :: rest =>
    if RawText.charOf n = '\\' then escapePoints (slashes + 1) rest
    else if RawText.charOf n = '[' ∧ beginsTag (rest.map RawText.charOf) then
      List.replicate (2 * slashes + 1) '\\'.toNat ++ n :: escapePoints 0 rest
    else List.replicate slashes '\\'.toNat ++ n :: escapePoints 0 rest

/-- Doubles a single backslash at the end of code points. -/
def closePoints (points : List Nat) : List Nat :=
  if EndsInLoneSlash (points.map RawText.charOf) then points ++ ['\\'.toNat] else points

/-- A raw text as it is shown inside markup. -/
def escapeRaw (t : RawText) : RawText :=
  ⟨closePoints (escapePoints 0 t.points)⟩

/-- A character is shown for its own code point. -/
theorem map_charOf_map_toNat (text : List Char) :
    (text.map Char.toNat).map RawText.charOf = text := by
  simp [Function.comp_def, RawText.charOf_toNat]

/-- The code points of a string are escaped as its characters are. -/
theorem escapePoints_map_toNat (slashes : Nat) (text : List Char) :
    escapePoints slashes (text.map Char.toNat) = (escapeAfter slashes text).map Char.toNat := by
  induction text generalizing slashes with
  | nil => simp [escapePoints, escapeAfter]
  | cons c text ih =>
    rw [List.map_cons]
    unfold escapePoints escapeAfter
    rw [RawText.charOf_toNat, map_charOf_map_toNat, ih, ih]
    split
    · rfl
    · split <;> simp

/-- The end of a text and the end of its code points are treated alike. -/
theorem closePoints_map_toNat (text : List Char) :
    closePoints (text.map Char.toNat) = (closeSlash text).map Char.toNat := by
  rw [closePoints, closeSlash_eq, map_charOf_map_toNat]
  split <;> simp

/-- A string is escaped as a raw text as it is escaped as a string. -/
theorem escapeRaw_ofString (s : String) : escapeRaw s = (escape s : String) := by
  unfold escapeRaw escape RawText.ofString
  rw [escapePoints_map_toNat, closePoints_map_toNat, String.toList_ofList]

/-! ## What escaping changes -/

/-- No other code point is shown as a backslash. -/
theorem eq_slash_of_charOf {n : Nat} (h : RawText.charOf n = '\\') : n = '\\'.toNat := by
  by_cases hvalid : n.isValidChar
  · rw [← h, RawText.toNat_charOf hvalid]
  · rw [RawText.charOf, if_neg hvalid] at h
    exact absurd h (by decide)

/-- Without a tag nothing is put into a text. -/
theorem escapePoints_eq {points : List Nat} (h : ¬ HoldsTag (points.map RawText.charOf))
    (slashes : Nat) :
    escapePoints slashes points = List.replicate slashes '\\'.toNat ++ points := by
  induction points generalizing slashes with
  | nil => simp [escapePoints]
  | cons n points ih =>
    rw [List.map_cons, holdsTag_cons_iff, not_or] at h
    unfold escapePoints
    split
    next hslash =>
      rw [ih h.2, List.replicate_succ', List.append_assoc, eq_slash_of_charOf hslash]
      rfl
    next => rw [if_neg h.1, ih h.2 0, List.replicate_zero, List.nil_append]

/-- Nothing is taken out of a text. -/
theorem length_le_escapePoints (slashes : Nat) (points : List Nat) :
    slashes + points.length ≤ (escapePoints slashes points).length := by
  induction points generalizing slashes with
  | nil => simp [escapePoints]
  | cons n points ih =>
    unfold escapePoints
    have hslash := ih (slashes + 1)
    have hnone := ih 0
    split
    · rw [List.length_cons]
      omega
    · split <;>
      · simp only [List.length_append, List.length_replicate, List.length_cons]
        omega

/-- A backslash is put in front of a tag. -/
theorem length_lt_escapePoints {points : List Nat} (h : HoldsTag (points.map RawText.charOf))
    (slashes : Nat) :
    slashes + points.length < (escapePoints slashes points).length := by
  induction points generalizing slashes with
  | nil => exact absurd h not_holdsTag_nil
  | cons n points ih =>
    rw [List.map_cons, holdsTag_cons_iff] at h
    have hnone := length_le_escapePoints 0 points
    unfold escapePoints
    split
    next hslash =>
      -- a backslash is no bracket, so the tag comes later
      have hlater : HoldsTag (points.map RawText.charOf) := by
        refine h.resolve_left fun htag => ?_
        exact absurd (hslash.symm.trans htag.1) (by decide)
      have hgrown := ih hlater (slashes + 1)
      rw [List.length_cons]
      omega
    next =>
      split
      next htag =>
        simp only [List.length_append, List.length_replicate, List.length_cons]
        omega
      next htag =>
        have hgrown := ih (h.resolve_left htag) 0
        simp only [List.length_append, List.length_replicate, List.length_cons]
        omega

/-- Nothing gets shorter by treating its end. -/
theorem length_le_closePoints (points : List Nat) :
    points.length ≤ (closePoints points).length := by
  unfold closePoints
  split <;> simp

/-- A raw text without tags is escaped at its end only. -/
theorem points_escapeRaw_of_not_holdsTag {t : RawText} (h : ¬ HoldsTag t.chars) :
    (escapeRaw t).points =
      if EndsInLoneSlash t.chars then t.points ++ ['\\'.toNat] else t.points := by
  have hpoints : escapePoints 0 t.points = t.points := escapePoints_eq h 0
  change closePoints (escapePoints 0 t.points) = _
  rw [hpoints]
  rfl

/-- A plain raw text is its own escaped form. -/
theorem escapeRaw_of_isPlain {t : RawText} (h : IsPlain t.chars) : escapeRaw t = t := by
  have hpoints := points_escapeRaw_of_not_holdsTag h.1
  rw [if_neg h.2] at hpoints
  exact congrArg RawText.mk hpoints

/-- No raw text gets shorter by escaping. -/
theorem length_le_escapeRaw (t : RawText) : t.points.length ≤ (escapeRaw t).points.length := by
  have hpoints := length_le_escapePoints 0 t.points
  rw [Nat.zero_add] at hpoints
  exact Nat.le_trans hpoints (length_le_closePoints _)

/-- One that is not plain gets longer. -/
theorem length_lt_escapeRaw {t : RawText} (h : ¬ IsPlain t.chars) :
    t.points.length < (escapeRaw t).points.length := by
  by_cases htag : HoldsTag t.chars
  · have hpoints := length_lt_escapePoints htag 0
    rw [Nat.zero_add] at hpoints
    exact Nat.lt_of_lt_of_le hpoints (length_le_closePoints _)
  · have hslash : EndsInLoneSlash t.chars := Decidable.not_not.1 fun hnot => h ⟨htag, hnot⟩
    rw [points_escapeRaw_of_not_holdsTag htag, if_pos hslash, List.length_append,
      List.length_singleton]
    exact Nat.lt_succ_self _

/-- Escaping keeps the length of the plain texts and of no other. -/
theorem length_escapeRaw_eq_iff {t : RawText} :
    (escapeRaw t).points.length = t.points.length ↔ IsPlain t.chars := by
  constructor
  · intro hlength
    exact Decidable.not_not.1 fun hmarked => Nat.ne_of_gt (length_lt_escapeRaw hmarked) hlength
  · intro hplain
    rw [escapeRaw_of_isPlain hplain]

/-- The plain texts are those that are their own escaped form. -/
theorem escapeRaw_eq_iff {t : RawText} : escapeRaw t = t ↔ IsPlain t.chars :=
  ⟨fun h => length_escapeRaw_eq_iff.1 (by rw [h]), escapeRaw_of_isPlain⟩

/-! ## Strings -/

/-- A text has as many code points as characters. -/
theorem length_points_ofString (s : String) : (RawText.ofString s).points.length = s.length := by
  rw [RawText.ofString, List.length_map, String.length_toList]

/-- No text gets shorter by escaping. -/
theorem length_le_escape (s : String) : s.length ≤ (escape s).length := by
  have h := length_le_escapeRaw s
  rwa [escapeRaw_ofString, length_points_ofString, length_points_ofString] at h

/-- A text stays as long as it is exactly when it is plain. -/
theorem length_escape_eq_iff {s : String} : (escape s).length = s.length ↔ IsPlain s.toList := by
  rw [← RawText.chars_ofString, ← length_escapeRaw_eq_iff, escapeRaw_ofString,
    length_points_ofString, length_points_ofString]

/-- A plain text is its own escaped form. -/
theorem escape_of_isPlain {s : String} (h : IsPlain s.toList) : escape s = s := by
  rw [← RawText.chars_ofString] at h
  have hraw := escapeRaw_of_isPlain h
  rw [escapeRaw_ofString] at hraw
  have hchars := congrArg RawText.chars hraw
  rwa [RawText.chars_ofString, RawText.chars_ofString, String.toList_inj] at hchars

end TokenAudit.Display
