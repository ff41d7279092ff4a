import TokenAudit.Binary64.Basic
import TokenAudit.Text.Lines

/-!
# Counting comments

A source's comment markers are its pairs of slashes and its closed block comments, each counted from
left to right without overlap and without regard to the other. The comment ratio is their number
per line.
-/

set_option autoImplicit false

namespace TokenAudit

/-- Adds the number of pairs of slashes in a text to a count. -/
def slashPairs (count : Nat) : List Char → Nat
  | '/' :: '/' :: rest => slashPairs (count + 1) rest
  | _ :: rest => slashPairs count rest
  | [] => count

/-- Adds the number of block comments that close in a text to a count; `inside` says whether the
text begins inside one. -/
def closedBlocks (inside : Bool) (count : Nat) : List Char → Nat
  | c :: d :: rest =>
    match inside with
    | false => if c = '/' ∧ d = '*' then closedBlocks true count rest
      else closedBlocks false count (d :: rest)
    | true => if c = '*' ∧ d = '/' then closedBlocks false (count + 1) rest
      else closedBlocks true count (d :: rest)
  | _ => count

/-- The number of comment markers in a text. -/
def commentCount (text : List Char) : Nat :=
  slashPairs 0 text + closedBlocks false 0 text

/-- The number of comment markers per line. -/
def commentRatio (text : List Char) : Binary64 :=
  .ofRatio false (commentCount text) (Text.lineCount text)

end TokenAudit
