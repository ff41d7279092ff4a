/-!
# Markup

A text with markup is made of characters that are shown and of tags in brackets, of which one opens
a style and another closes it. A text that is shown inside markup is escaped so that nothing in it
is taken for a tag: in front of what would begin a tag the backslashes are doubled and one more is
put, and a single backslash at the end of the text is doubled.
-/

set_option autoImplicit false

namespace TokenAudit.Display

/-- Whether a bracket closes in a text before another one opens. -/
def closesFirst : List Char → Bool
  | [] => false
  | c :: rest => c == ']' || (c != '[' && closesFirst rest)

/-- Whether an opening bracket in front of the text would begin a tag. -/
def beginsTag : List Char → Bool
  | [] => false
  | c :: rest =>
    (('a' ≤ c && c ≤ 'z') || c == '#' || c == '/' || c == '@') && closesFirst rest

/-- A part of a text with markup: a character that is shown, or a tag. -/
inductive Token where
  | shown (c : Char)
  | tag (name : List Char)
  deriving DecidableEq

/-- The parts of a text with markup, where `inside` holds what was read of a tag, its last character
first, and `slashes` counts the backslashes before the text. In front of a tag two backslashes stand
for one, and a single one that is left takes the tag for characters; in front of another bracket one
backslash is left out. -/
def tokens (inside : Option (List Char)) (slashes : Nat) : List Char → List Token
  | [] => List.replicate slashes (.shown '\\')
  | c :: rest =>
    match inside with
    | some name =>
      if c = ']' then .tag name.reverse :: tokens none 0 rest
      else tokens (some (c :: name)) 0 rest
    | none =>
      if c = '\\' then tokens none (slashes + 1) rest
      else if c = '[' ∧ beginsTag rest then
        List.replicate (slashes / 2) (.shown '\\') ++
          if slashes % 2 = 0 then tokens (some []) 0 rest else .shown c :: tokens none 0 rest
      else
        List.replicate (if c = '[' then slashes - 1 else slashes) (.shown '\\') ++
          .shown c :: tokens none 0 rest

/-- The character that a part shows. -/
def Token.char? : Token → Option Char
  | shown c => some c
  | tag _ => none

/-- The styles that are open behind a part of a text, the innermost first, or nothing if the part is
a tag that closes what is not open. A tag without a name closes the innermost style. -/
def Token.openAfter (opened : List (List Char)) : Token → Option (List (List Char))
  | shown _ => some opened
  | tag ['/'] => match opened with
    | [] => none
    | _ :: outer => some outer
  | tag ('/' :: style) => if style ∈ opened then some (opened.erase style) else none
  | tag style => some (style.takeWhile (· ≠ '=') :: opened)

/-- What a text with markup shows. -/
def shownText (markup : List Char) : List Char :=
  (tokens none 0 markup).filterMap Token.char?

/-- Whether every closing tag of a text closes a style that is open. -/
def closesOpen (markup : List Char) : Bool :=
  ((tokens none 0 markup).foldlM Token.openAfter []).isSome

/-- Escapes a text in front of which a number of backslashes stand. -/
def escapeAfter (slashes : Nat) : List Char → List Char
  | [] => List.replicate slashes '\\'
  | c :: rest =>
    if c = '\\' then escapeAfter (slashes + 1) rest
    else if c = '[' ∧ beginsTag rest then
      List.replicate (2 * slashes + 1) '\\' ++ c :: escapeAfter 0 rest
    else List.replicate slashes '\\' ++ c :: escapeAfter 0 rest

/-- Doubles a single backslash at the end of a text. -/
def closeSlash (text : List Char) : List Char :=
  match text.reverse with
  | '\\' :: '\\' :: _ => text
  | '\\' :: _ => text ++ ['\\']
  | _ => text

/-- A text as it is shown inside markup. -/
def escape (s : String) : String :=
  String.ofList (closeSlash (escapeAfter 0 s.toList))

end TokenAudit.Display
