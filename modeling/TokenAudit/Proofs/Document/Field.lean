import TokenAudit.Document.Basic

/-!
# What an object holds

An object that is read is asked for the values of its keys, as a reader of the exported documents
would.
-/

set_option autoImplicit false

namespace TokenAudit.Document

/-- The value of a key in an object; a key that is repeated counts with its last value. -/
def field? (key : String) : Document → Option Document
  | .object entries => entries.reverse.lookup key
  | _ => none

end TokenAudit.Document
