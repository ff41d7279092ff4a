import TokenAudit.Text.Quoted

/-!
# Failed file operations

Why an operation on the tree of files fails, and how the failure is worded. A refusal names its
cause with the cause's number, then the path, or both paths of an operation on two. A path that
holds a null character is no path at all, and is turned away before the tree is asked.
-/

set_option autoImplicit false

namespace TokenAudit

/-- The cause of a refusal. -/
inductive FileCause where
  | noSuchEntry
  | inUse
  | alreadyExists
  | notFolder
  | isFolder
  | invalidMove
  | nameTooLong
  | notEmpty
  | tooManyLinks
  deriving DecidableEq

/-- The number of a cause. -/
def FileCause.number : FileCause → Nat
  | noSuchEntry => 2
  | inUse => 16
  | alreadyExists => 17
  | notFolder => 20
  | isFolder => 21
  | invalidMove => 22
  | nameTooLong => 36
  | notEmpty => 39
  | tooManyLinks => 40

/-- The wording of a cause. -/
def FileCause.wording : FileCause → String
  | noSuchEntry => "No such file or directory"
  | inUse => "Device or resource busy"
  | alreadyExists => "File exists"
  | notFolder => "Not a directory"
  | isFolder => "Is a directory"
  | invalidMove => "Invalid argument"
  | nameTooLong => "File name too long"
  | notEmpty => "Directory not empty"
  | tooManyLinks => "Too many levels of symbolic links"

/-- A failed operation: refused for a cause, with its path and the second path of an operation on
two, or asked for with a null character in a path. -/
inductive FileError where
  | refused (cause : FileCause) (path : String) (second : Option String)
  | nullInPath
  deriving DecidableEq

/-- A refused operation on one path. -/
def FileError.on (path : String) (cause : FileCause) : FileError :=
  .refused cause path none

/-- A refused operation on two paths. -/
def FileError.between (path second : String) (cause : FileCause) : FileError :=
  .refused cause path (some second)

/-- The wording of a failed operation. -/
def FileError.message : FileError → String
  | refused cause path second =>
    "[Errno " ++ toString cause.number ++ "] " ++ cause.wording ++ ": " ++ Text.quoted path ++
      (match second with
        | some second => " -> " ++ Text.quoted second
        | none => "")
  | nullInPath => "embedded null byte"

end TokenAudit
