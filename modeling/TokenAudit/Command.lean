import TokenAudit.CommandLine.Arguments
import TokenAudit.Display.Console
import TokenAudit.Display.Markup
import TokenAudit.Display.Rating
import TokenAudit.Document.Reader
import TokenAudit.Export
import TokenAudit.FileTree.Edit
import TokenAudit.Text.Utf8

/-!
# The commands

A command is a function of its arguments, the tree of files and the clock. Its outcome says how it
ends, what it writes and hands to the consoles, and what the tree is afterwards. A signal file that
cannot be read, or holds no bundle, ends the command with a message; some faults of it are not
foreseen, and these end the program itself. So does a thing that a console refuses, and then nothing
that would have been done behind it is done.
-/

set_option autoImplicit false

namespace TokenAudit

/-- Where a command finds itself: the tree of files, the reading of the clock, the time that an
audit takes, and the greatest number of containers that may stand around a value in a document that
is read. -/
structure Situation where
  tree : FileTree
  now : Binary64
  elapsed : Binary64
  depthLimit : Nat

/-- A fault that ends the program. -/
inductive Crash where
  | file (e : FileError)
  | clock (f : Clock.Fault)
  | tooLarge
  | tooManyDigits (count : Nat)
  | tooDeep (container : Document.Container)
  | unhashableSeverity
  | display (f : Display.DisplayFault)
  deriving DecidableEq

/-- The wording of a crash. -/
def Crash.message : Crash → String
  | file e => e.message
  | clock f => f.message
  | tooLarge => SignalFault.message .tooLarge
  | tooManyDigits count => (Document.ReadError.tooManyDigits count).message
  | tooDeep container => (Document.ReadError.tooDeep container).message
  | unhashableSeverity => "unhashable type: 'list'"
  | display f => f.message

/-- How a command ends and what it does if the consoles take what they are handed: what it writes
past them, what it hands to the console of standard output and to that of standard error, and the
tree of files. -/
structure Outcome where
  ending : Except Crash Nat
  output : String
  errors : String
  console : List Display.Item
  errorConsole : List Display.Item
  tree : FileTree

/-- The notes that are heard: all of them if details are asked for, and the warnings otherwise. -/
def heard (verbose : Bool) (notes : List Note) : List Note :=
  notes.filter fun n => verbose || n.level == .warning

/-- Notes as lines of text. -/
def noteLines (verbose : Bool) (notes : List Note) : String :=
  String.join ((heard verbose notes).map fun n => n.line ++ "\n")

/-- The file for the export, if one is asked for; an empty name asks for none. -/
def exportPath? : CommandLine.OptionValue → Option String
  | .given s => if s = "" then none else some s
  | _ => none

/-- The message on a finished export. -/
def exportedItem (path : String) : Display.Item :=
  .line ("\n" ++ Display.styled "green" ("Results exported to " ++ path))

/-- Exports a document of the present time to a file. -/
def Situation.export (s : Situation) (path : String) (document : String → Document) :
    Except Crash FileTree := do
  let time ← (Clock.timestamp s.now).mapError .clock
  (s.tree.store path (Text.Utf8.encode (document time).print)).mapError .file

/-- Ends a command that hands its result to the console: exports the result if asked to, and exits
with the code. -/
def finish (s : Situation) (exportTo : CommandLine.OptionValue) (document : String → Document)
    (errors : String) (console : List Display.Item) (code : Nat) : Outcome :=
  let shown : Outcome :=
    { ending := .ok code, output := "", errors, console, errorConsole := [], tree := s.tree }
  match exportPath? exportTo with
  | none => shown
  | some path =>
    match s.export path document with
    | .ok tree => { shown with errorConsole := [exportedItem path], tree }
    | .error crash => { shown with ending := .error crash }

/-- The exit code of a result that may be of high risk. -/
def exitCode (high : Bool) : Nat :=
  if high then 1 else 0

/-- The severity that an option asks for. -/
def askedSeverity : CommandLine.OptionValue → Except Crash Grade
  | .absent => .ok .low
  | .given s => .ok ((Grade.ofLabel? s).getD .low)
  | .dropped => .error .unhashableSeverity

/-- An extension with its dot. -/
def dotted (extension : String) : String :=
  if extension.toList.head? = some '.' then extension else "." ++ extension

/-- What is looked for when extensions are asked for; none asked for are the default ones. -/
def askedScope (extensions : Option (List String)) : DiscoveryScope :=
  { extensions := match extensions with
      | none | some [] => defaultExtensions
      | some extensions => extensions.map dotted
    excluded := defaultExcluded }

/-- The end of a command that has shown nothing. -/
def Situation.halt (s : Situation) (ending : Except Crash Nat) : Outcome :=
  { ending, output := "", errors := "", console := [], errorConsole := [], tree := s.tree }

/-- Audits the sources under the paths for a command. -/
def auditAsked (s : Situation) (paths : List String) (extensions : Option (List String))
    (severity : CommandLine.OptionValue) : Except Crash TreeAudit := do
  let plan : AuditPlan :=
    { catalog := builtinCatalog, severity := ← askedSeverity severity, now := s.now }
  (plan.auditTree s.tree (askedScope extensions) paths).mapError .file

/-- Audits the sources under the paths, and shows the run. -/
def auditCommand (s : Situation) (args : CommandLine.Arguments) (paths : List String)
    (extensions : Option (List String)) (severity : CommandLine.OptionValue) : Outcome :=
  match auditAsked s paths extensions severity with
  | .error crash => s.halt (.error crash)
  | .ok audited =>
    let run := { audited.run with duration := s.elapsed }
    finish s args.exportTo run.document (noteLines args.verbose audited.notes)
      (Display.runItems args.verbose run ++ Display.totalsItems run)
      (exitCode (0 < run.severityCounts.count Grade.high.heading))

/-- Line ends of all kinds as line feeds: a carriage return becomes one, and a line feed right after
it is dropped. -/
def unifyLineEnds (text : List Char) : List Char :=
  (text.foldl
    (fun (afterReturn, unified) c =>
      if afterReturn && c == '\n' then (false, unified)
      else if c == '\r' then (true, '\n' :: unified)
      else (false, c :: unified))
    (false, [])).2.reverse

/-- Why a signal file gives no rating. -/
inductive SignalFileFault where
  | file (e : FileError)
  | encoding (e : Text.Utf8.DecodeError)
  | document (e : Document.ReadError)
  | signals (f : SignalFault)

/-- The rating of the bundle in a signal file. -/
def rateFile (s : Situation) (path : String) : Except SignalFileFault Rating := do
  let content ← (s.tree.contentAt path).mapError .file
  let text ← (Text.Utf8.decode content).mapError .encoding
  let document ← (Document.read s.depthLimit (unifyLineEnds text)).mapError .document
  document.toDatum.rating.mapError .signals

/-- Whether a fault is foreseen: its message if so, and the crash if not. -/
def SignalFileFault.foreseen : SignalFileFault → Except Crash String
  | file .nullInPath => .error (.file .nullInPath)
  | file e => .ok e.message
  | encoding e => .ok e.message
  | document (.tooManyDigits count) => .error (.tooManyDigits count)
  | document (.tooDeep container) => .error (.tooDeep container)
  | document e => .ok e.message
  | signals .tooLarge => .error .tooLarge
  | signals f => .ok f.message

/-- Rates the bundle in a signal file. -/
def rateCommand (s : Situation) (args : CommandLine.Arguments) (path : String) : Outcome :=
  match rateFile s path with
  | .ok rating =>
    finish s args.exportTo rating.document (noteLines args.verbose [rating.note])
      (Display.ratingItems rating) (exitCode (rating.level = .high))
  | .error fault =>
    match fault.foreseen with
    | .ok message =>
      { s.halt (.ok 2) with
        errorConsole :=
          [.line (Display.styled "bold red" "Invalid signal bundle:" ++ " " ++
            Display.escape message)] }
    | .error crash => s.halt (.error crash)

/-- Carries out the command of the arguments. -/
def Arguments.perform (s : Situation) (args : CommandLine.Arguments) : Outcome :=
  match args.command with
  | .contract paths extensions severity => auditCommand s args paths extensions severity
  | .signals file => rateCommand s args file

/-- Carries out a command line. -/
def perform (s : Situation) (words : List String) : Outcome :=
  match CommandLine.readArguments words with
  | .error halt =>
    let refusal := halt.refusal
    { s.halt (.ok refusal.exitCode) with output := refusal.output, errors := refusal.errors }
  | .ok args =>
    let outcome := Arguments.perform s args
    { outcome with errorConsole := Display.banner ++ outcome.errorConsole }

/-- The consoles of standard output and of standard error. -/
structure Consoles where
  output : Display.Console
  errors : Display.Console

/-- How the program ended and what it did: what it wrote past the consoles, the texts that the
consoles printed, and the tree of files. -/
structure Session where
  ending : Except Crash Nat
  output : String
  errors : String
  printed : List RawText
  errorsPrinted : List RawText
  tree : FileTree

/-- Carries out a command line on consoles. The result is shown before it is exported, and the
message on the export comes last. -/
def Consoles.carryOut (c : Consoles) (s : Situation) (words : List String) : Session :=
  let o := perform s words
  let session : Session :=
    { ending := o.ending, output := o.output, errors := o.errors
      printed := c.output.printed o.console
      errorsPrinted := c.errors.printed o.errorConsole
      tree := o.tree }
  match c.output.refusal? o.console with
  | some fault =>
    { session with
      ending := .error (.display fault)
      errorsPrinted := c.errors.printed Display.banner
      tree := s.tree }
  | none =>
    match c.errors.refusal? o.errorConsole with
    | some fault => { session with ending := .error (.display fault) }
    | none => session

end TokenAudit
