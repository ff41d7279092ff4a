import TokenAudit.Grade
import TokenAudit.Pattern.Basic

/-!
# Rules

A rule says what to look for in a source, and what a hit is worth. What it looks for is a pattern,
or else what any other search finds: one that decides on a text as a whole, and that may break down
on some texts, with a message of its own. A catalog is a list of rules with distinct keys.
-/

set_option autoImplicit false

namespace TokenAudit

/-- A search that broke down, with its message. -/
structure Breakdown where
  message : String
  deriving DecidableEq

/-- What a rule looks for: a pattern, or what some other search finds. -/
inductive Probe where
  | pattern (p : Pattern)
  | custom (search : List Char → Except Breakdown Bool)

/-- Looks for a probe in a text. -/
def Probe.search : Probe → List Char → Except Breakdown Bool
  | .pattern p, text => .ok (p.occursIn text)
  | .custom search, text => search text

/-- A search that breaks down where a trigger stands, and else finds nothing. -/
def Probe.breaking (trigger : List Char) (message : String) : Probe :=
  .custom fun text =>
    if someSuffix trigger.isPrefixOf text then .error ⟨message⟩ else .ok false

/-- One rule. -/
structure Rule where
  key : String
  probe : Probe
  severity : Grade
  description : String
  solution : String

/-- A catalog that names a key twice. -/
structure DuplicateKey where
  key : String
  deriving DecidableEq

/-- The wording of a duplicate key. -/
def DuplicateKey.message (e : DuplicateKey) : String :=
  "Duplicate rule key in catalog: " ++ e.key

/-- The first key that stands in the list for the second time. -/
def firstRepeated? (seen : List String) : List String → Option String
  | [] => none
  | key :: rest => if seen.contains key then some key else firstRepeated? (key :: seen) rest

/-- A list of rules with distinct keys. -/
structure Catalog where
  rules : List Rule
  distinct : firstRepeated? [] (rules.map (·.key)) = none

/-- Makes a catalog of rules, unless two of them share a key. -/
def Catalog.ofRules (rules : List Rule) : Except DuplicateKey Catalog :=
  match h : firstRepeated? [] (rules.map (·.key)) with
  | none => .ok ⟨rules, h⟩
  | some key => .error ⟨key⟩

end TokenAudit
