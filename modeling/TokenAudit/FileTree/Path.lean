import TokenAudit.Text.Lines

/-!
# Paths

A path is a text in which slashes separate names. It is taken apart for walking, put together from
a folder and a name, and asked for the folder it stands in and for the extension of its last name.
Names and paths are of limited size, which is counted in bytes of UTF-8.
-/

set_option autoImplicit false

namespace TokenAudit.Path

/-- The names of a path between its slashes, empty ones included. -/
def names (path : String) : List String :=
  (Text.cut '/' path.toList).map String.ofList

/-- Whether a path begins at the root. -/
def isAbsolute (path : String) : Bool :=
  path.toList.head? = some '/'

/-- Whether a path ends in a slash. -/
def endsInSlash (path : String) : Bool :=
  path.toList.getLast? = some '/'

/-- The greatest size of a name. -/
def nameLimit : Nat := 255

/-- The greatest size of a path. -/
def sizeLimit : Nat := 4095

/-- Whether a name is too long to be given to anything. -/
def isLongName (name : String) : Bool :=
  nameLimit < name.utf8ByteSize

/-- Whether a path is too long to lead anywhere. -/
def isLong (path : String) : Bool :=
  sizeLimit < path.utf8ByteSize

/-- Whether a text holds a null character, which no path does. -/
def holdsNull (path : String) : Bool :=
  path.toList.contains '\x00'

/-- The path of a name in a folder. -/
def join (folder name : String) : String :=
  if folder.isEmpty || endsInSlash folder then folder ++ name else folder ++ "/" ++ name

/-- A text without the slashes at its end. -/
def dropSlashes (path : List Char) : List Char :=
  (path.reverse.dropWhile (· == '/')).reverse

/-- A path as its folder and its last name; slashes at the end of the folder are dropped, unless it
consists of slashes alone. -/
def split (path : String) : String × String :=
  let reversed := path.toList.reverse
  let name := (reversed.takeWhile (· != '/')).reverse
  let folder := (reversed.dropWhile (· != '/')).reverse
  let trimmed := dropSlashes folder
  (String.ofList (if trimmed.isEmpty then folder else trimmed), String.ofList name)

/-- The extension of a name, with its dot: what begins at the last dot, unless nothing but dots
stands before it. -/
def extension (name : List Char) : List Char :=
  let reversed := name.reverse
  let tail := reversed.takeWhile (· != '.')
  match reversed.drop tail.length with
  | [] => []
  | dot :: stem => if stem.all (· == '.') then [] else dot :: tail.reverse

end TokenAudit.Path
