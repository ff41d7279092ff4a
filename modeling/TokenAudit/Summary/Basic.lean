import TokenAudit.Finding
import TokenAudit.Summary.Comment
import TokenAudit.Summary.Role

/-!
# The summary of a source

What is said about one source beside its findings: its size, how well it is commented, which safety
idioms it names, what its owner can do, and the findings' descriptions with their score and tally.
-/

set_option autoImplicit false

namespace TokenAudit

/-- The summary of one source. -/
structure Summary where
  codeQuality : String
  systemOverview : String
  linesOfCode : Int
  commentRatio : Binary64
  privilegedRoles : List String
  keyRisks : List String
  riskScore : Int
  vulnerabilities : Tally
  deriving DecidableEq

/-- Below this ratio a source has minimal comments. -/
def minimalCommentRatio : Binary64 := .ofDecimal false 5 (-2)

/-- Below this ratio, and not below the minimal one, a source is moderately commented. -/
def moderateCommentRatio : Binary64 := .ofDecimal false 15 (-2)

/-- A source with more lines than this is complex. -/
def complexLineCount : Nat := 1000

/-- Whether a word occurs in a text, letter case included. -/
def mentions (text : List Char) (word : String) : Bool :=
  someSuffix word.toList.isPrefixOf text

/-- The sentence on a source's comments. -/
def commentGrade (ratio : Binary64) : String :=
  if ratio.lt minimalCommentRatio then
    "The contract has minimal comments, which makes it harder to understand and audit."
  else if ratio.lt moderateCommentRatio then
    "The contract has a moderate level of comments, " ++
      "but more detailed documentation would be beneficial."
  else "The contract is well-commented, which is good for clarity and maintainability."

/-- The sentences on a source's comments and safety idioms. -/
def codeQuality (text : List Char) (ratio : Binary64) : String :=
  commentGrade ratio ++
    (if mentions text "SafeMath" then
      " The contract uses SafeMath to prevent integer overflows," ++
        " which is a good security practice."
    else "") ++
    (if ["ReentrancyGuard", "nonReentrant"].any (mentions text) then
      " The contract implements reentrancy guards to prevent reentrancy attacks."
    else "")

/-- The sentence on a source's size. -/
def systemOverview (lineCount : Nat) : String :=
  let size := if complexLineCount < lineCount then "complex" else "standard"
  "This is a " ++ size ++ " smart contract with " ++ toString lineCount ++ " lines of code."

/-- The summary of a source and its findings. -/
def summarize (text : List Char) (findings : List Finding) : Summary :=
  let ratio := TokenAudit.commentRatio text
  { codeQuality := TokenAudit.codeQuality text ratio
    systemOverview := TokenAudit.systemOverview (Text.lineCount text)
    linesOfCode := Text.lineCount text
    commentRatio := ratio
    privilegedRoles := TokenAudit.privilegedRoles text
    keyRisks := findings.map (·.description)
    riskScore := score findings
    vulnerabilities := severityTally findings }

end TokenAudit
