import TokenAudit.Datum
import TokenAudit.Text.Utf8

/-!
# Values as sources

A source may be given as text or as the bytes of a text, whose defects are replaced, and an absent
source is an empty one. Any other value can be scanned, without result, but not summarized.
-/

set_option autoImplicit false

namespace TokenAudit

/-- A value that cannot be summarized, by its kind. -/
structure NotText where
  kind : String
  deriving DecidableEq

/-- The wording of a value that cannot be summarized. -/
def NotText.message (e : NotText) : String :=
  "'" ++ e.kind ++ "' object has no attribute 'split'"

/-- The text that is summarized for a value. -/
def Datum.sourceText : Datum → Except NotText (List Char)
  | .text content => .ok content.chars
  | .bytes bs => .ok (Text.Utf8.decodeLossy bs)
  | .null => .ok []
  | d => .error ⟨d.kind⟩

/-- The text that is scanned for a value: none for a value that is no source. -/
def Datum.scannedText (d : Datum) : List Char :=
  match d.sourceText with
  | .ok content => content
  | .error _ => []

end TokenAudit
