import TokenAudit.FileTree.Error
import TokenAudit.Grade

/-!
# Notes taken along the way

What the library reports beside its results: facts that explain an answer without being part of it.
A note has a level, and a reader who wants less detail hears only the warnings.
-/

set_option autoImplicit false

namespace TokenAudit

/-- How much a note matters. -/
inductive NoteLevel where
  | debug
  | warning
  deriving DecidableEq

/-- The name of a level. -/
def NoteLevel.name : NoteLevel → String
  | debug => "DEBUG"
  | warning => "WARNING"

/-- The three lookups that signals come from. -/
inductive Lookup where
  | honeypot
  | holders
  | liquidity
  deriving DecidableEq

/-- One note. -/
inductive Note where
  | matchedAcrossLines (ruleKey : String)
  | rated (reasons : Nat) (level : Grade)
  | unavailable (lookup : Lookup)
  | skippedLarge (path : String) (size : Nat)
  | unreadable (path : String) (error : FileError)
  | failedAnalysis (path : String) (message : String)
  deriving DecidableEq

namespace Note

/-- The level of a note. -/
def level : Note → NoteLevel
  | unavailable _ | skippedLarge _ _ => .warning
  | _ => .debug

/-- The wording of a note. -/
def text : Note → String
  | matchedAcrossLines key => "Rule " ++ key ++ " matched across lines; no line recorded"
  | rated reasons level =>
    "Aggregated " ++ toString reasons ++ " reasons into " ++ level.heading
  | unavailable .honeypot => "Honeypot check unavailable; assuming honeypot"
  | unavailable .holders => "Holder lookup unavailable; assuming full concentration"
  | unavailable .liquidity => "Liquidity lookup unavailable; assuming unlocked"
  | skippedLarge path size =>
    "Skipping " ++ path ++ ": exceeds 5MB limit (" ++ toString size ++ " bytes)"
  | unreadable path error => "Cannot read " ++ path ++ ": " ++ error.message
  | failedAnalysis path message => "Error analyzing " ++ path ++ ": " ++ message

/-- A note as one line of a log. -/
def line (n : Note) : String :=
  n.level.name ++ ": " ++ n.text

end Note

end TokenAudit
