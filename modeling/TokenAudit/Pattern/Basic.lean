import TokenAudit.Text.Blank
import TokenAudit.Text.Fold

/-!
# Patterns over source text

A pattern is a choice of phrases. A phrase is spelled by consecutive characters: each of its steps
takes one character of a set, or any number of them; after the last step none of the phrase's guards
may be spelled by what follows. A pattern occurs in a text when one of its phrases is spelled
somewhere in it.

The search tries every place and every length of each run, so the order of trials is of no account:
`TokenAudit.Pattern.Spelling` says what is found without speaking of a search at all.
-/

set_option autoImplicit false

namespace TokenAudit

/-- A set of characters that one step of a phrase may take. -/
inductive CharSet where
  /-- The characters that fold to the given one. -/
  | folded (c : Char)
  /-- White space. -/
  | blank
  /-- Every character but the line feed. -/
  | inline
  /-- A hexadecimal digit of ASCII. -/
  | hexDigit
  /-- Every character but those listed. -/
  | except (excluded : List Char)
  deriving DecidableEq

/-- Membership in a set of characters. -/
def CharSet.has : CharSet → Char → Bool
  | .folded l, c => Text.fold c == l
  | .blank, c => Text.isBlank c
  | .inline, c => c != '\n'
  | .hexDigit, c => c.isDigit || ('a' ≤ c && c ≤ 'f') || ('A' ≤ c && c ≤ 'F')
  | .except excluded, c => !excluded.contains c

/-- One step of a phrase. -/
inductive Step where
  /-- Exactly one character of the set. -/
  | one (set : CharSet)
  /-- Any number of characters of the set, none included. -/
  | many (set : CharSet)
  deriving DecidableEq

namespace Step

/-- The steps that spell a word in any letter case. -/
def word (s : String) : List Step :=
  s.toList.map fun c => one (.folded (Text.fold c))

/-- Any amount of white space. -/
def blanks : List Step :=
  [many .blank]

/-- White space, at least one character of it. -/
def someBlanks : List Step :=
  [one .blank, many .blank]

/-- Anything that stays on the line. -/
def sameLine : List Step :=
  [many .inline]

end Step

/-- A sequence of steps, and the sequences that must not follow it. -/
structure Phrase where
  body : List Step
  guards : List (List Step)
  deriving DecidableEq

/-- A phrase that may be followed by anything. -/
def Phrase.plain (body : List Step) : Phrase :=
  { body, guards := [] }

/-- A choice of phrases. -/
abbrev Pattern := List Phrase

/-- Tries the continuation here, and again after each further character that the test admits. -/
def runs (admits : Char → Bool) (next : List Char → Bool) : List Char → Bool
  | [] => next []
  | c :: rest => next (c :: rest) || (admits c && runs admits next rest)

/-- Whether the steps can be spelled by an initial part of the text such that the continuation
accepts what is left. -/
def spellsThen : List Step → (List Char → Bool) → List Char → Bool
  | [], next, text => next text
  | .one _ :: _, _, [] => false
  | .one set :: steps, next, c :: rest => set.has c && spellsThen steps next rest
  | .many set :: steps, next, text => runs set.has (spellsThen steps next) text

/-- Whether an initial part of the text spells the steps. -/
def startsWith (steps : List Step) (text : List Char) : Bool :=
  spellsThen steps (fun _ => true) text

/-- Whether the test accepts some end part of the text. -/
def someSuffix (test : List Char → Bool) : List Char → Bool
  | [] => test []
  | c :: rest => test (c :: rest) || someSuffix test rest

/-- Whether none of the phrase's guards is spelled at the beginning of the text. -/
def Phrase.unguarded (p : Phrase) (text : List Char) : Bool :=
  p.guards.all fun guard => !startsWith guard text

/-- Whether the phrase occurs anywhere in the text: it is spelled there and followed by none of its
guards. -/
def Phrase.occursIn (p : Phrase) (text : List Char) : Bool :=
  someSuffix (spellsThen p.body p.unguarded) text

/-- Whether one of the pattern's phrases occurs anywhere in the text. -/
def Pattern.occursIn (ps : Pattern) (text : List Char) : Bool :=
  ps.any fun p => p.occursIn text

/-- The pattern of a text taken literally, in any letter case. -/
def Pattern.literal (s : String) : Pattern :=
  [.plain (Step.word s)]

/-- The pattern of several words, any of which may occur. -/
def Pattern.anyWord (words : List String) : Pattern :=
  words.map fun w => .plain (Step.word w)

end TokenAudit
