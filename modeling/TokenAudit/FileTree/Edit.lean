import TokenAudit.FileTree.Basic

/-!
# Changing the tree of files

Writing and appending to files, and making, removing and renaming entries. An operation either gives
the changed tree or fails, and then changes nothing. Only the making of several folders at once may
end half-way, and the folders made until then remain.
-/

set_option autoImplicit false

namespace TokenAudit.FileTree

/-- Puts an entry in place of what is at a list of names. -/
def put (t : FileTree) (names : List String) (node : Node) : FileTree :=
  { t with root := t.root.modify (fun _ => some node) names }

/-- Takes the entry at a list of names away. -/
def erase (t : FileTree) (names : List String) : FileTree :=
  { t with root := t.root.modify (fun _ => none) names }

/-- An operation on one path, which its refusal names. -/
def atPath (path : String) (result : Except FileCause FileTree) : Except FileError FileTree :=
  if Path.holdsNull path then .error .nullInPath else result.mapError (.on path)

/-- An operation on two paths, which its refusal names. -/
def atPaths (path second : String) (result : Except FileCause FileTree) :
    Except FileError FileTree :=
  if Path.holdsNull path || Path.holdsNull second then .error .nullInPath
  else result.mapError (.between path second)

/-- Gives the file at a path new content, computed from the old; a missing file is made. -/
def updateFile (t : FileTree) (path : String) (f : List UInt8 → List UInt8) :
    Except FileError FileTree :=
  atPath path do
    match ← t.locate .writing path with
    | .present names (.file content) => return t.put names (.file (f content))
    | .present _ _ => throw .isFolder
    | .absent folder name => return t.put (folder ++ [name]) (.file (f []))

/-- Writes a file. -/
def store (t : FileTree) (path : String) (content : List UInt8) : Except FileError FileTree :=
  t.updateFile path fun _ => content

/-- Appends to a file. -/
def append (t : FileTree) (path : String) (content : List UInt8) : Except FileError FileTree :=
  t.updateFile path (· ++ content)

/-- Makes one folder in an existing one. -/
def makeFolder (t : FileTree) (path : String) : Except FileError FileTree :=
  atPath path do
    match ← t.lastName path with
    | .fixed => throw .alreadyExists
    | .named folder name _ =>
      match ← t.lookIn folder name with
      | some _ => throw .alreadyExists
      | none => return t.put (folder ++ [name]) (.folder [])

/-- The result of making folders: the tree with those that were made, and the error that ended the
making before its end, if one did. -/
structure FoldersMade where
  tree : FileTree
  error : Option FileError

/-- Makes a folder unless it exists. -/
def ensureFolder (t : FileTree) (path : String) : FoldersMade :=
  match t.makeFolder path with
  | .ok made => ⟨made, none⟩
  | .error .nullInPath => ⟨t, some .nullInPath⟩
  | .error e => ⟨t, if t.isFolder path then none else some e⟩

/-- Makes the folder of a path after the making of the folder it stands in. A path that ends in a
dot is that folder itself; that the outer folder was there already is no hindrance. -/
def FoldersMade.andThen (outer : FoldersMade) (path name : String) : FoldersMade :=
  match outer.error with
  | none | some (.refused .alreadyExists _ _) =>
    if name = "." then ⟨outer.tree, none⟩ else outer.tree.ensureFolder path
  | some e => ⟨outer.tree, some e⟩

/-- Makes a folder and those it stands in, as far as they are missing; `depth` bounds their
number. -/
def ensureFoldersWithin (t : FileTree) (path : String) : Nat → FoldersMade
  | 0 => t.ensureFolder path
  | depth + 1 =>
    let (outer, name) := Path.split path
    let (outer, name) := if name = "" then Path.split outer else (outer, name)
    if outer ≠ "" ∧ name ≠ "" ∧ (t.entry outer).toOption.isNone then
      (t.ensureFoldersWithin outer depth).andThen path name
    else t.ensureFolder path

/-- Makes a folder and those it stands in, as far as they are missing. -/
def ensureFolders (t : FileTree) (path : String) : FoldersMade :=
  t.ensureFoldersWithin path path.length

/-- Makes the folders that a path stands in. -/
def ensureParents (t : FileTree) (path : String) : FoldersMade :=
  let parent := (Path.split path).1
  if parent = "" then ⟨t, none⟩ else t.ensureFolders parent

/-- Removes a file or a link. -/
def remove (t : FileTree) (path : String) : Except FileError FileTree :=
  atPath path do
    match ← t.lastName path with
    | .fixed => throw .isFolder
    | .named folder name slashed =>
      match ← t.lookIn folder name with
      | none => throw .noSuchEntry
      | some (.folder _) => throw .isFolder
      | some _ => if slashed then throw .notFolder else return t.erase (folder ++ [name])

/-- Makes a symbolic link. -/
def makeLink (t : FileTree) (target path : String) : Except FileError FileTree :=
  atPaths target path <|
    match pathFault? target with
    | some cause => .error cause
    | none => do
      match ← t.lastName path with
      | .fixed => throw .alreadyExists
      | .named folder name slashed =>
        match ← t.lookIn folder name with
        | some _ => throw .alreadyExists
        | none =>
          if slashed then throw .noSuchEntry else return t.put (folder ++ [name]) (.link target)

/-- Moves an entry to new names. -/
def move (t : FileTree) (source target : List String) (node : Node) : FileTree :=
  (t.erase source).put target node

/-- Why an entry must not be put in place of another, if so. -/
def replaceFault? : Node → Node → Option FileCause
  | .folder _, .folder [] => none
  | .folder _, .folder _ => some .notEmpty
  | .folder _, _ => some .notFolder
  | _, .folder _ => some .isFolder
  | _, _ => none

/-- Renames an entry; a file or link, or an empty folder, gives way to what takes its name. Slashes
may follow the names of folders only. -/
def rename (t : FileTree) (path newPath : String) : Except FileError FileTree :=
  atPaths path newPath do
    let last ← t.lastName path
    let next ← t.lastName newPath
    match last, next with
    | .named folder name slashed, .named newFolder newName newSlashed =>
      match ← t.lookIn folder name with
      | none => throw .noSuchEntry
      | some node =>
        let source := folder ++ [name]
        let target := newFolder ++ [newName]
        let other ← t.lookIn newFolder newName
        if (slashed || newSlashed) && !node.isFolder then throw .notFolder
        else if source.isPrefixOf newFolder then throw .invalidMove
        else if target.isPrefixOf folder then throw .notEmpty
        else if source = target then return t
        else
          match other.bind (replaceFault? node) with
          | some cause => throw cause
          | none => return t.move source target node
    | _, _ => throw .inUse

end TokenAudit.FileTree
