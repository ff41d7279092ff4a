import TokenAudit.CommandLine.Grammar
import TokenAudit.Display.Run
import TokenAudit.Grade

/-!
# The command line of the program

The program has two commands, one that audits files and one that rates a bundle of signals. This
module holds their grammars with the texts of their help, and turns a command line into the
arguments of a command.
-/

set_option autoImplicit false

namespace TokenAudit.CommandLine

/-- The name of the program. -/
def programName : String := "rugwatch"

/-- The option that shows the help. -/
def helpOption : Opt :=
  { names := ["-h", "--help"], arity := .none, choices := none, effect := .showHelp }

/-- An option that sets something. -/
def settingOption (names : List String) (arity : Arity) (setting : String)
    (choices : Option (List String) := none) : Opt :=
  { names, arity, choices, effect := .setting setting }

/-- The option that names a file for the export. -/
def exportOption : Opt := settingOption ["--json-output"] .one "export"

/-- The option that asks for details. -/
def verboseOption : Opt := settingOption ["-v", "--verbose"] .none "verbose"

/-- The grammar of the program itself. -/
def mainGrammar : Grammar :=
  { program := programName
    usage := "usage: rugwatch [-h] [--version] \x7bcontract,signals\x7d ...\n"
    details :=
      "\nFlag risky smart-contract constructs and rate token risk signals.\n" ++
      "\npositional arguments:\n" ++
      "  \x7bcontract,signals\x7d\n" ++
      "    contract          Audit contract source files\n" ++
      "    signals           Rate a token from a JSON signal bundle\n" ++
      "\noptions:\n" ++
      "  -h, --help          show this help message and exit\n" ++
      "  --version           show program's version number and exit\n"
    options :=
      [ helpOption,
        { names := ["--version"], arity := .none, choices := none, effect := .showVersion } ]
    operand := some .command }

/-- The grammar of the command that audits files. -/
def contractGrammar : Grammar :=
  { program := programName ++ " contract"
    usage :=
      "usage: rugwatch contract [-h] [--path PATH [PATH ...]] [--ext EXT [EXT ...]]\n" ++
      "                         [--severity-level \x7blow,medium,high\x7d]\n" ++
      "                         [--json-output FILE] [-v]\n"
    details :=
      "\noptions:\n" ++
      "  -h, --help            show this help message and exit\n" ++
      "  --path PATH [PATH ...]\n" ++
      "                        Files or directories to scan (default: current\n" ++
      "                        directory)\n" ++
      "  --ext EXT [EXT ...]   File extensions to scan (default: .sol .vy)\n" ++
      "  --severity-level \x7blow,medium,high\x7d\n" ++
      "                        Minimum severity to report (default: low)\n" ++
      "  --json-output FILE    Export results to JSON file\n" ++
      "  -v, --verbose         Show line numbers, remediation and audit summaries\n"
    options :=
      [ helpOption,
        settingOption ["--path"] .some "path",
        settingOption ["--ext"] .some "ext",
        settingOption ["--severity-level"] .one "severity" (some ["low", "medium", "high"]),
        exportOption,
        verboseOption ]
    operand := none }

/-- The grammar of the command that rates a bundle of signals. -/
def signalsGrammar : Grammar :=
  { program := programName ++ " signals"
    usage := "usage: rugwatch signals [-h] [--json-output FILE] [-v] file\n"
    details :=
      "\npositional arguments:\n" ++
      "  file                JSON file holding one signal bundle\n" ++
      "\noptions:\n" ++
      "  -h, --help          show this help message and exit\n" ++
      "  --json-output FILE  Export results to JSON file\n" ++
      "  -v, --verbose       Show line numbers, remediation and audit summaries\n"
    options := [helpOption, exportOption, verboseOption]
    operand := some .argument }

/-- The argument of an option that takes one. A mark given as the argument leaves the option without
one. -/
inductive OptionValue where
  | absent
  | dropped
  | given (s : String)
  deriving DecidableEq

/-- What a command works on. -/
inductive Command where
  | contract (paths : List String) (extensions : Option (List String)) (severity : OptionValue)
  | signals (file : String)
  deriving DecidableEq

/-- The arguments of the program. -/
structure Arguments where
  command : Command
  exportTo : OptionValue
  verbose : Bool
  deriving DecidableEq

/-- The last setting of a name. -/
def Taken.setting? (t : Taken) (name : String) : Option (List String) :=
  t.settings.reverse.lookup name

/-- The last setting of a name that has one argument. -/
def Taken.value (t : Taken) (name : String) : OptionValue :=
  match t.setting? name with
  | none => .absent
  | some [] => .dropped
  | some (s :: _) => .given s

/-- The names of the commands. -/
def commandNames : List String := ["contract", "signals"]

/-- The arguments that both commands have. -/
def Arguments.of (command : Command) (t : Taken) : Arguments :=
  { command, exportTo := t.value "export", verbose := (t.setting? "verbose").isSome }

/-- Reads the words of a command; gives its arguments and what is left over. -/
def readCommand (name : String) (words : List String) : Except Halt (Arguments × List String) :=
  if name = "contract" then do
    let taken ← contractGrammar.take words
    let command := .contract ((taken.setting? "path").getD ["."]) (taken.setting? "ext")
      (taken.value "severity")
    return (.of command taken, taken.leftOver)
  else if name = "signals" then do
    let taken ← signalsGrammar.take words
    match taken.operand with
    | some (file :: _) => return (.of (.signals file) taken, taken.leftOver)
    | _ => throw (.error signalsGrammar "the following arguments are required: file")
  else
    .error (mainGrammar.misuse "command" ("invalid choice: " ++ Text.quoted name ++
      " (choose from " ++ ", ".intercalate (commandNames.map Text.quoted) ++ ")"))

/-- Reads the command line of the program. -/
def readArguments (words : List String) : Except Halt Arguments := do
  let taken ← mainGrammar.take words
  match taken.operand with
  | some (name :: rest) =>
    let (arguments, leftOver) ← readCommand name rest
    match taken.leftOver ++ leftOver with
    | [] => return arguments
    | unrecognized =>
      throw (.error mainGrammar ("unrecognized arguments: " ++ " ".intercalate unrecognized))
  | _ => throw (.error mainGrammar "the following arguments are required: command")

/-- What is written when a command line is not carried out: the exit code, the text for standard
output and the text for standard error. -/
structure Refusal where
  exitCode : Nat
  output : String
  errors : String
  deriving DecidableEq

/-- What is written for a halt. -/
def Halt.refusal : Halt → Refusal
  | help g => { exitCode := 0, output := g.usage ++ g.details, errors := "" }
  | version =>
    { exitCode := 0, output := programName ++ " " ++ Display.version ++ "\n", errors := "" }
  | error g message =>
    { exitCode := 2, output := ""
      errors := g.usage ++ g.program ++ ": error: " ++ message ++ "\n" }

end TokenAudit.CommandLine
