import Std.Time.DateTime
import TokenAudit.Command
import TokenAudit.Display.Plain

/-!
# The program

The outer layer of the command line. It gathers what the arguments name into a tree of files,
carries the command line out on that tree, shows what came of it, and writes the exported file. It
decides nothing: whatever an answer depends on is a function of the tree, the clock and the words.
-/

set_option autoImplicit false

namespace TokenAudit

/-- How much of a folder is gathered: nothing, or all that a search of a scope can come upon. -/
inductive Gathering where
  | shallow
  | deep (scope : DiscoveryScope)

/-- The names of an absolute path. -/
def absoluteNames (path : String) : List String :=
  (Path.names path).filter (· ≠ "")

/-- Puts an entry at an absolute path, and the folders it stands in before. -/
def FileTree.place (t : FileTree) (path : String) (node : Node) : FileTree :=
  (t.ensureParents path).tree.put (absoluteNames path) node

/-- The target of a link that leads nowhere. -/
def nowhere : String := "\x00"

/-- The result of an action, or nothing if it fails. -/
def attempt {α : Type} (action : IO α) : IO (Option α) := do
  match ← action.toBaseIO with
  | .ok a => return some a
  | .error _ => return none

/-- Gathers what is at a real path. -/
partial def gatherReal (g : Gathering) (path : String) (t : FileTree) : IO FileTree := do
  let file ← IO.FS.realPath path
  match (← file.metadata).type, g with
  | .dir, .shallow => return (t.ensureFolders path).tree
  | .dir, .deep scope =>
    let mut t := (t.ensureFolders path).tree
    for entry in ← file.readDir do
      let inner := Path.join path entry.fileName
      match (← entry.path.symlinkMetadata).type with
      | .dir =>
        unless scope.excluded.contains entry.fileName do
          t ← gatherReal g inner t
      | .symlink =>
        match ← attempt (IO.FS.realPath entry.path) with
        | none => t := t.place inner (.link nowhere)
        | some real =>
          t ← gatherReal .shallow real.toString t
          t := t.place inner (.link real.toString)
      | _ =>
        if scope.admits entry.fileName then
          t := t.place inner (.file (← IO.FS.readBinFile entry.path).toList)
    return t
  | _, _ => return t.place path (.file (← IO.FS.readBinFile file).toList)

/-- Gathers what a path leads to, and makes the path lead there. -/
def gather (g : Gathering) (t : FileTree) (path : String) : IO FileTree := do
  match ← attempt (IO.FS.realPath path) with
  | none => return t
  | some real =>
    let t := (← attempt (gatherReal g real.toString t)).getD t
    match t.entry path with
    | .ok _ => return t
    | .error _ =>
      let t := (t.ensureParents path).tree
      return ((t.makeLink real.toString path).toOption).getD t

/-- Gathers what arguments name. -/
def gatherAsked (t : FileTree) (args : CommandLine.Arguments) : IO FileTree := do
  let t ← match args.command with
    | .contract paths extensions _ => paths.foldlM (gather (.deep (askedScope extensions))) t
    | .signals file => gather .shallow t file
  match exportPath? args.exportTo with
  | none => return t
  | some path =>
    let folder := (Path.split path).1
    let t ← gather .shallow t (if folder = "" then "." else folder)
    gather .shallow t path

/-- The tree that holds the working folder and what a command line names. -/
def gatherFor (words : List String) : IO FileTree := do
  let here := (← IO.currentDir).toString
  let t : FileTree := { root := .folder [], workingFolder := absoluteNames here }
  let t := (t.ensureFolders here).tree
  match CommandLine.readArguments words with
  | .ok args => gatherAsked t args
  | .error _ => return t

/-- The reading of the clock. -/
def clockReading : IO Binary64 := do
  let nanoseconds := (← Std.Time.Timestamp.now).toNanosecondsSinceUnixEpoch.val
  return .ofRatio (nanoseconds < 0) nanoseconds.natAbs (Nat.pow 10 9)

/-- Writes the files at the paths to which a command line exports, as far as they changed. -/
def writeExport (words : List String) (before after : FileTree) : IO Unit := do
  if let .ok args := CommandLine.readArguments words then
    if let some path := exportPath? args.exportTo then
      let written := (after.contentAt path).toOption
      if written ≠ (before.contentAt path).toOption then
        IO.FS.writeBinFile path ⟨(written.getD []).toArray⟩

/-- The greatest number of containers around a value that the command line reads. -/
def containerLimit : Nat := 990

/-- Puts texts on a stream, each on lines of its own. -/
def showOn (stream : IO.FS.Stream) (texts : List RawText) : IO Unit :=
  for text in texts do
    stream.putStrLn text.asString

end TokenAudit

open TokenAudit in
/-- Carries out the command line. -/
def main (words : List String) : IO UInt32 := do
  let output ← IO.getStdout
  let errors ← IO.getStderr
  let start ← IO.monoMsNow
  let tree ← gatherFor words
  let elapsed := Binary64.ofRatio false ((← IO.monoMsNow) - start) 1000
  let situation : Situation :=
    { tree, now := ← clockReading, elapsed, depthLimit := containerLimit }
  let session := Consoles.carryOut ⟨.plain, .plain⟩ situation words
  errors.putStr session.errors
  output.putStr session.output
  showOn output session.printed
  showOn errors session.errorsPrinted
  writeExport words tree session.tree
  match session.ending with
  | .ok code => return code.toUInt32
  | .error crash =>
    errors.putStrLn crash.message
    return 1
