import TokenAudit.Text.CaseTable

/-!
# Lower case and capitals

Full case mapping of texts: one character may become several, and a capital sigma becomes the final
form where it ends a word, that is, where a cased character stands before it and none after it,
characters that carry no case of their own being skipped on both sides.
-/

set_option autoImplicit false

namespace TokenAudit.Text

/-- Whether a word's end is looked for beyond this character. -/
def isCaseIgnorable (c : Char) : Bool :=
  inSpans caseIgnorableSpans c.toNat

/-- Whether a character shows a letter case and so belongs to a word. -/
def isCased (c : Char) : Bool :=
  inSpans casedSpans c.toNat

/-- Whether the first character that is not skipped belongs to a word. -/
def meetsCased (cs : List Char) : Bool :=
  ((cs.dropWhile isCaseIgnorable).head?.map isCased).getD false

/-- The lower-case form of a character, given the text before it, last character first, and the
text after it. -/
def lowerAt (before : List Char) (c : Char) (after : List Char) : List Char :=
  if c.toNat < 128 then [c.toLower]
  else if c = 'Σ' then
    if meetsCased before && !meetsCased after then ['ς'] else ['σ']
  else if c = 'İ' then ['i', Char.ofNat 0x307]
  else [Char.ofNat (moved lowerShifts c.toNat)]

/-- The lower-case form of a text that follows `before`, last character first. -/
def lowerAfter (before : List Char) : List Char → List Char
  | [] => []
  | c :: after => lowerAt before c after ++ lowerAfter (c :: before) after

/-- The lower-case form of a text. -/
def lower (cs : List Char) : List Char :=
  lowerAfter [] cs

/-- The title-case form of a character. -/
def title (c : Char) : List Char :=
  match titleExpansions.find? (·.1 == c.toNat) with
  | some (_, expansion) => expansion.map Char.ofNat
  | none => [Char.ofNat (moved titleShifts c.toNat)]

/-- A word with its first character in title case and the others in lower case. -/
def capitalize : List Char → List Char
  | [] => []
  | c :: rest => title c ++ lowerAfter [c] rest

end TokenAudit.Text
