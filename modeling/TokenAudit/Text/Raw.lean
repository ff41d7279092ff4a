/-!
# Raw texts

A text that comes from outside is a sequence of code points. Escapes can bring unpaired surrogates
into it, which are no characters, so it is not always a `String`; such a text is passed on as it is
wherever it is only shown. Main statement: a string made raw has the same characters.
-/

set_option autoImplicit false

namespace TokenAudit

/-- A text by its code points. -/
structure RawText where
  points : List Nat
  deriving DecidableEq, Inhabited

namespace RawText

/-- A string as a raw text. -/
def ofString (s : String) : RawText :=
  ⟨s.toList.map Char.toNat⟩

instance : Coe String RawText where
  coe := ofString

instance : Append RawText where
  append s t := ⟨s.points ++ t.points⟩

/-- Whether there is nothing in a text. -/
def isEmpty (t : RawText) : Bool :=
  t.points.isEmpty

/-- The character that stands for what is none. -/
def replacement : Char := Char.ofNat 0xfffd

/-- A code point as a character. -/
def charOf (n : Nat) : Char :=
  if n.isValidChar then Char.ofNat n else replacement

/-- The characters of a text, with a replacement for each surrogate. -/
def chars (t : RawText) : List Char :=
  t.points.map charOf

/-- A text as a string, with a replacement for each surrogate. -/
def asString (t : RawText) : String :=
  String.ofList t.chars

/-- The code points of a text that follows another come after those of the other. -/
theorem points_append (s t : RawText) : (s ++ t).points = s.points ++ t.points := rfl

/-- Texts may be joined in any order. -/
theorem append_assoc (s t u : RawText) : s ++ t ++ u = s ++ (t ++ u) :=
  congrArg RawText.mk (List.append_assoc s.points t.points u.points)

/-- A string joined of two is made raw part by part. -/
theorem ofString_append (s t : String) : ofString (s ++ t) = ofString s ++ ofString t := by
  apply congrArg RawText.mk
  rw [String.toList_append, List.map_append]
  rfl

/-- Nothing comes after a text to which the empty string is joined. -/
theorem append_ofString_empty (t : RawText) : t ++ ofString "" = t :=
  congrArg RawText.mk (List.append_nil t.points)

/-- A valid code point is that of its character. -/
theorem toNat_charOf {n : Nat} (h : n.isValidChar) : (charOf n).toNat = n := by
  rw [charOf, if_pos h]
  unfold Char.ofNat
  rw [dif_pos h]
  rfl

/-- The code point of a character is that character again. -/
theorem charOf_toNat (c : Char) : charOf c.toNat = c := by
  have h : c.toNat.isValidChar := c.valid
  simp [charOf, h]

/-- The characters of two texts joined are those of the one and then those of the other. -/
theorem chars_append (s t : RawText) : (s ++ t).chars = s.chars ++ t.chars :=
  List.map_append

/-- A string made raw has the same characters. -/
theorem chars_ofString (s : String) : (ofString s).chars = s.toList := by
  simp [ofString, chars, Function.comp_def, charOf_toNat]

end RawText

end TokenAudit
