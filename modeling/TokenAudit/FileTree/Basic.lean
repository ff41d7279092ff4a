import TokenAudit.FileTree.Error
import TokenAudit.FileTree.Path

/-!
# The tree of files

A tree holds files with their bytes, folders with named entries, and symbolic links with the path
they lead to; a working folder is where relative paths begin. Looking a path up follows its names
one by one, and every link on the way, forty links at most. An operation that makes, removes or
renames an entry follows all names but the last, and does not follow a link that the last one names.
-/

set_option autoImplicit false

namespace TokenAudit

/-- An entry of the tree. -/
inductive Node where
  | file (content : List UInt8)
  | folder (entries : List (String × Node))
  | link (target : String)
  deriving Inhabited

namespace Node

/-- Whether an entry is a folder. -/
def isFolder : Node → Bool
  | folder _ => true
  | _ => false

/-- The entry of a name in a folder. -/
def entry? (name : String) : Node → Option Node
  | folder entries => entries.lookup name
  | _ => none

/-- The entry that is reached through folders along a list of names. -/
def at? : List String → Node → Option Node
  | [], node => some node
  | name :: rest, node => (node.entry? name).bind (at? rest)

/-- Changes, adds or removes the entry of a name in a list of entries. -/
def modifyEntry (name : String) (f : Option Node → Option Node) :
    List (String × Node) → List (String × Node)
  | [] => (f none).toList.map fun node => (name, node)
  | (other, node) :: rest =>
    if other = name then ((f (some node)).toList.map fun node => (name, node)) ++ rest
    else (other, node) :: modifyEntry name f rest

/-- Changes, adds or removes the entry at the end of a list of names. -/
def modify (f : Option Node → Option Node) : List String → Node → Node
  | [name], folder entries => folder (modifyEntry name f entries)
  | name :: rest, folder entries =>
    folder (modifyEntry name (fun node => node.map (modify f rest)) entries)
  | _, node => node

end Node

/-- The tree of files, and the folder where relative paths begin, by its names from the root. -/
structure FileTree where
  root : Node
  workingFolder : List String

/-- What a path is followed for. -/
inductive Purpose where
  | reading
  | writing
  deriving DecidableEq

/-- What a path leads to: an entry, by its names from the root, or a name that is free in an
existing folder. -/
inductive Place where
  | present (names : List String) (node : Node)
  | absent (folder : List String) (name : String)

/-- What the last name of a path names: a folder that is there in any case, as the root and dots do,
or an entry of a folder. `slashed` says whether slashes follow the name. -/
inductive LastName where
  | fixed
  | named (folder : List String) (name : String) (slashed : Bool)

namespace FileTree

/-- A tree that holds nothing but an empty working folder. -/
def empty : FileTree :=
  { root := .folder [("work", .folder [])], workingFolder := ["work"] }

/-- How many links a path may lead through. -/
def linkLimit : Nat := 40

/-- The folder where a path begins that is met in the given folder. -/
def startOf (path : String) (folder : List String) : List String :=
  if Path.isAbsolute path then [] else folder

/-- The entry of a name in a folder. -/
def lookIn (t : FileTree) (folder : List String) (name : String) :
    Except FileCause (Option Node) :=
  if Path.isLongName name then .error .nameTooLong else .ok (t.root.at? (folder ++ [name]))

/-- Follows names from a folder. `links` is the number of links that may still be followed. No file
can be written at a name that slashes follow. -/
def walk (t : FileTree) (purpose : Purpose) (links : Nat) (folder : List String) :
    List String → Except FileCause Place
  | [] =>
    match t.root.at? folder with
    | some node => .ok (.present folder node)
    | none => .error .noSuchEntry
  | name :: rest =>
    if name = "" ∨ name = "." then walk t purpose links folder rest
    else if name = ".." then walk t purpose links folder.dropLast rest
    else if purpose = .writing ∧ rest ≠ [] ∧ rest.all (· == "") then .error .isFolder
    else
      match t.lookIn folder name with
      | .error cause => .error cause
      | .ok none => if rest.isEmpty then .ok (.absent folder name) else .error .noSuchEntry
      | .ok (some (.folder _)) => walk t purpose links (folder ++ [name]) rest
      | .ok (some (.file content)) =>
        if rest.isEmpty then .ok (.present (folder ++ [name]) (.file content))
        else .error .notFolder
      | .ok (some (.link target)) =>
        match links with
        | 0 => .error .tooManyLinks
        | links + 1 => walk t purpose links (startOf target folder) (Path.names target ++ rest)
  termination_by names => (links, names.length)

/-- Why a path leads nowhere whatever the tree holds, if so. -/
def pathFault? (path : String) : Option FileCause :=
  if path = "" then some .noSuchEntry
  else if Path.isLong path then some .nameTooLong
  else none

/-- Looks a path up. -/
def locate (t : FileTree) (purpose : Purpose) (path : String) : Except FileCause Place :=
  match pathFault? path with
  | some cause => .error cause
  | none => t.walk purpose linkLimit (startOf path t.workingFolder) (Path.names path)

/-- Looks up what the last name of a path names, without following it. -/
def lastName (t : FileTree) (path : String) : Except FileCause LastName :=
  match pathFault? path with
  | some cause => .error cause
  | none =>
    let names := (Path.names path).filter (· ≠ "")
    match names.getLast? with
    | none => .ok .fixed
    | some name =>
      match t.walk .reading linkLimit (startOf path t.workingFolder) (names.dropLast ++ [""]) with
      | .error cause => .error cause
      | .ok (.absent _ _) => .error .noSuchEntry
      | .ok (.present folder _) =>
        if name = "." ∨ name = ".." then .ok .fixed
        else .ok (.named folder name (Path.endsInSlash path))

/-- The entry that a path leads to, links followed. -/
def entry (t : FileTree) (path : String) : Except FileError (List String × Node) :=
  if Path.holdsNull path then .error .nullInPath
  else
    match t.locate .reading path with
    | .ok (.present names node) => .ok (names, node)
    | .ok (.absent _ _) => .error (.on path .noSuchEntry)
    | .error cause => .error (.on path cause)

/-- Whether a path leads to a file. -/
def isFile (t : FileTree) (path : String) : Bool :=
  match t.entry path with
  | .ok (_, .file _) => true
  | _ => false

/-- Whether a path leads to a folder. -/
def isFolder (t : FileTree) (path : String) : Bool :=
  match t.entry path with
  | .ok (_, .folder _) => true
  | _ => false

/-- The bytes of the file that a path leads to. -/
def contentAt (t : FileTree) (path : String) : Except FileError (List UInt8) :=
  match t.entry path with
  | .ok (_, .file content) => .ok content
  | .ok _ => .error (.on path .isFolder)
  | .error e => .error e

end FileTree

end TokenAudit
