import TokenAudit.FileTree.Basic
import TokenAudit.Text.Case

/-!
# Finding sources

A path that leads to a file stands for that file, whatever its name. A folder stands for the files
under it with one of the asked extensions: first its own, by name, and then those of its folders, by
name. Folders of certain names are left out, and so is every folder that is reached by a link, the
first one apart. A link that does not lead to a folder counts as a file. Links are followed, and
folders entered, by the path under which they are shown; what lies beyond the reach of paths is not
found.
-/

set_option autoImplicit false

namespace TokenAudit

/-- The extensions of sources, unless others are asked for. -/
def defaultExtensions : List String :=
  [".sol", ".vy"]

/-- The folders that are left out, unless others are named. -/
def defaultExcluded : List String :=
  [ "node_modules", ".git", ".svn", ".hg", "lib", "cache", "artifacts", "out", "__pycache__",
    ".venv", "venv" ]

/-- What is looked for: extensions, and the names of folders to leave out. -/
structure DiscoveryScope where
  extensions : List String
  excluded : List String
  deriving DecidableEq

/-- Whether a file's name has one of the extensions, its own taken in lower case. -/
def DiscoveryScope.admits (scope : DiscoveryScope) (name : String) : Bool :=
  scope.extensions.contains (String.ofList (Text.lower (Path.extension name.toList)))

/-- The names of entries, sorted by code point. -/
def sortedNames (names : List String) : List String :=
  names.mergeSort fun a b => a ≤ b

namespace FileTree

/-- Whether an entry that is shown as `shown` is listed as a file: everything but a folder and a
link to one. -/
def listsAsFile (t : FileTree) (shown : String) : Node → Bool
  | .file _ => true
  | .folder _ => false
  | .link _ => !t.isFolder shown

/-- The sources that stand in a folder itself. -/
def ownSources (t : FileTree) (scope : DiscoveryScope) (shown : String)
    (entries : List (String × Node)) : List String :=
  let files := entries.filter fun (name, node) =>
    t.listsAsFile (Path.join shown name) node && scope.admits name
  (sortedNames (files.map (·.1))).map (Path.join shown)

mutual

/-- The sources under an entry that is shown as `shown`. -/
def sourcesUnder (t : FileTree) (scope : DiscoveryScope) (shown : String) : Node → List String
  | .folder entries =>
    let inner := sourcesOfFolders t scope shown entries
    t.ownSources scope shown entries ++ (inner.mergeSort fun a b => a.1 ≤ b.1).flatMap (·.2)
  | _ => []

/-- The sources under each of the folders among the entries. -/
def sourcesOfFolders (t : FileTree) (scope : DiscoveryScope) (shown : String) :
    List (String × Node) → List (String × List String)
  | [] => []
  | (name, .folder entries) :: rest =>
    if scope.excluded.contains name || Path.isLong (Path.join shown name) then
      sourcesOfFolders t scope shown rest
    else
      (name, sourcesUnder t scope (Path.join shown name) (.folder entries)) ::
        sourcesOfFolders t scope shown rest
  | (_, .file _) :: rest => sourcesOfFolders t scope shown rest
  | (_, .link _) :: rest => sourcesOfFolders t scope shown rest

end

/-- The sources that a path stands for: none for a path that leads nowhere. -/
def discover (t : FileTree) (scope : DiscoveryScope) (path : String) :
    Except FileError (List String) :=
  match t.entry path with
  | .ok (_, .file _) => .ok [path]
  | .ok (_, node) => .ok (t.sourcesUnder scope path node)
  | .error .nullInPath => .error .nullInPath
  | .error _ => .ok []

end FileTree

end TokenAudit
