import TokenAudit.FileTree.Basic
import TokenAudit.Note
import TokenAudit.Text.Utf8

/-!
# Reading sources

A source is read whole or not at all: a file beyond the size limit is skipped with a warning, and
what cannot be read is noted. Bytes that are no text are replaced. Only a path that is no path is an
error.
-/

set_option autoImplicit false

namespace TokenAudit

/-- The greatest size of a source, in bytes. -/
def sourceSizeLimit : Nat := 5 * 1024 * 1024

/-- The result of reading a source: the notes on it, and its text unless it was not read. -/
structure SourceRead where
  notes : List Note
  text : Option (List Char)

/-- Reads the source at a path, of which it takes no more bytes than the limit. -/
def FileTree.readSource (t : FileTree) (path : String) : Except FileError SourceRead :=
  match t.contentAt path with
  | .error .nullInPath => .error .nullInPath
  | .error e => .ok { notes := [.unreadable path e], text := none }
  | .ok content =>
    if sourceSizeLimit < content.length then
      .ok { notes := [.skippedLarge path content.length], text := none }
    else .ok { notes := [], text := some (Text.Utf8.decodeLossy (content.take sourceSizeLimit)) }

end TokenAudit
