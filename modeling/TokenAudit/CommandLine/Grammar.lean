import TokenAudit.Text.Digit
import TokenAudit.Text.Quoted

/-!
# Reading a command line

A grammar has options and at most one operand. Every word of a command line is first told apart: an
option, an argument, or the mark `--` that turns all later words into arguments. Then options and
the operand are taken in the order in which they come. An option may be shortened to a beginning
that no other option shares, may carry its argument behind an equals sign, and one-letter options
without argument may be joined. What nothing takes is left over.
-/

set_option autoImplicit false

namespace TokenAudit.CommandLine

/-- How many arguments an option takes. -/
inductive Arity where
  | none
  | one
  | some
  deriving DecidableEq

/-- What an option does. -/
inductive Effect where
  | showHelp
  | showVersion
  | setting (name : String)
  deriving DecidableEq

/-- An option: its names, its arguments, the arguments it admits if they are limited, and what it
does. -/
structure Opt where
  names : List String
  arity : Arity
  choices : Option (List String)
  effect : Effect
  deriving DecidableEq

/-- What a grammar takes beside options: one argument, or a command with all words after it. -/
inductive Operand where
  | argument
  | command
  deriving DecidableEq

/-- The grammar of a command line: the name under which it reports errors, the summary of its usage,
the rest of its help, its options and its operand. -/
structure Grammar where
  program : String
  usage : String
  details : String
  options : List Opt
  operand : Option Operand

/-- Why a command line is not carried out: something is shown instead, or it is in error. -/
inductive Halt where
  | help (g : Grammar)
  | version
  | error (g : Grammar) (message : String)

/-- An option as it was recognized: the option, whether it was given by a letter, and the argument
that came with it. -/
structure Recognized where
  option : Opt
  byLetter : Bool
  attached : Option (List Char)

/-- A word of a command line, told apart. -/
inductive Word where
  | argument (s : String)
  | mark
  | option (r : Recognized)
  | unknown (s : String)

/-- The names of all options. -/
def Grammar.names (g : Grammar) : List (String × Opt) :=
  g.options.flatMap fun o => o.names.map fun name => (name, o)

/-- The option of a name. -/
def Grammar.option? (g : Grammar) (name : String) : Option Opt :=
  g.names.lookup name

/-- The name of an option in messages. -/
def Opt.title (o : Opt) : String :=
  "/".intercalate o.names

/-- An error in the use of an option. -/
def Grammar.misuse (g : Grammar) (title message : String) : Halt :=
  .error g ("argument " ++ title ++ ": " ++ message)

/-- Cuts a text at its first equals sign. -/
def cutEquals (s : List Char) : List Char × Option (List Char) :=
  match s.span (· != '=') with
  | (name, _ :: argument) => (name, .some argument)
  | (name, []) => (name, .none)

/-- Whether a name has a single dash. -/
def isLetterName (name : List Char) : Bool :=
  (name.drop 1).head?.any (· != '-')

/-- The options that a shortened word may stand for, each with its name. -/
def Grammar.candidates (g : Grammar) (word : List Char) : List (String × Recognized) :=
  if word.take 2 = ['-', '-'] then
    let (start, attached) := cutEquals word
    (g.names.filter fun (name, _) => start.isPrefixOf name.toList).map fun (name, o) =>
      (name, ⟨o, false, attached⟩)
  else
    g.names.filterMap fun (name, o) =>
      if name.toList = word.take 2 then .some (name, ⟨o, true, .some (word.drop 2)⟩)
      else if word.isPrefixOf name.toList then .some (name, ⟨o, isLetterName name.toList, .none⟩)
      else .none

/-- Whether a word is a negative number, and so an argument. -/
def isNegativeNumber (word : List Char) : Bool :=
  match word with
  | '-' :: rest =>
    let rest := if rest.getLast? = .some '\n' then rest.dropLast else rest
    let whole := rest.takeWhile Text.isDigit
    match rest.drop whole.length with
    | [] => !whole.isEmpty
    | '.' :: fraction => !fraction.isEmpty && fraction.all Text.isDigit
    | _ => false
  | _ => false

/-- Tells a word apart that begins with a dash and is no option's full name. -/
def Grammar.tellDashed (g : Grammar) (s : String) : Except Halt Word :=
  match g.candidates s.toList with
  | [(_, r)] => .ok (.option r)
  | [] =>
    if isNegativeNumber s.toList || s.toList.contains ' ' then .ok (.argument s)
    else .ok (.unknown s)
  | several =>
    .error (.error g ("ambiguous option: " ++ s ++ " could match " ++
      ", ".intercalate (several.map (·.1))))

/-- Tells a word apart. -/
def Grammar.tell (g : Grammar) (s : String) : Except Halt Word :=
  if s.toList.head? ≠ .some '-' then .ok (.argument s)
  else
    match g.option? s with
    | .some o => .ok (.option ⟨o, isLetterName s.toList, .none⟩)
    | .none =>
      if s = "-" then .ok (.argument s)
      else
        match cutEquals s.toList with
        | (name, .some argument) =>
          match g.option? (String.ofList name) with
          | .some o => .ok (.option ⟨o, isLetterName name, .some argument⟩)
          | .none => g.tellDashed s
        | (_, .none) => g.tellDashed s

/-- Tells the words of a command line apart. -/
def Grammar.tellAll (g : Grammar) : List String → Except Halt (List Word)
  | [] => .ok []
  | s :: rest =>
    if s = "--" then .ok (.mark :: rest.map .argument)
    else do
      let word ← g.tell s
      return word :: (← g.tellAll rest)

/-- The use of an option, with its arguments. -/
structure Use where
  option : Opt
  arguments : List String

/-- The arguments at the beginning of the words. -/
def leadingArguments : List Word → List String
  | .argument s :: rest => s :: leadingArguments rest
  | _ => []

/-- The use of an option whose arguments are words of their own. -/
def Grammar.useBare (g : Grammar) (o : Opt) (words : List Word) : Except Halt Use :=
  match o.arity, leadingArguments words with
  | .none, _ => .ok ⟨o, []⟩
  | .one, s :: _ => .ok ⟨o, [s]⟩
  | .one, [] => .error (g.misuse o.title "expected one argument")
  | .some, [] => .error (g.misuse o.title "expected at least one argument")
  | .some, arguments => .ok ⟨o, arguments⟩

/-- The uses of options that begin in one word, and how many of the words after it they take. -/
structure Uses where
  uses : List Use
  extent : Nat

/-- A use, and the words of its own arguments. -/
def Uses.bare (use : Use) : Uses :=
  { uses := [use], extent := use.arguments.length }

/-- Uses with one more in front. -/
def Uses.after (use : Use) (u : Uses) : Uses :=
  { u with uses := use :: u.uses }

/-- The use of an option with an argument that came in its own word; a mark counts as none. -/
def Uses.attached (o : Opt) (argument : String) : Uses :=
  { uses := [⟨o, if argument = "--" then [] else [argument]⟩], extent := 0 }

/-- The uses of options in a word that carries an argument. A one-letter option without argument
takes the first character of it for another option, and so on; the last may have its arguments in
the words that follow. -/
def Grammar.useAttached (g : Grammar) (o : Opt) (byLetter : Bool) (words : List Word)
    (argument : List Char) : Except Halt Uses :=
  match o.arity with
  | .none =>
    let ignored :=
      g.misuse o.title ("ignored explicit argument " ++ Text.quoted (String.ofList argument))
    match argument with
    | [] => .error ignored
    | c :: rest =>
      match byLetter, g.option? (String.ofList ['-', c]) with
      | true, .some next =>
        if rest.isEmpty then do return .after ⟨o, []⟩ (.bare (← g.useBare next words))
        else do return .after ⟨o, []⟩ (← g.useAttached next true words rest)
      | _, _ => .error ignored
  | _ => .ok (.attached o (String.ofList argument))

/-- The uses of options in an option word. -/
def Grammar.uses (g : Grammar) (r : Recognized) (words : List Word) : Except Halt Uses :=
  match r.attached with
  | .none => do return .bare (← g.useBare r.option words)
  | .some argument => g.useAttached r.option r.byLetter words argument

/-- What has been taken from a command line: settings in order, the operand, and what is left
over. -/
structure Taken where
  settings : List (String × List String)
  operand : Option (List String)
  leftOver : List String

/-- Carries a use out. -/
def Grammar.carryOut (g : Grammar) (taken : Taken) (use : Use) : Except Halt Taken :=
  let refused := (use.option.choices.bind fun choices =>
    (use.arguments.find? fun s => !choices.contains s).map fun s => (s, choices))
  match refused, use.option.effect with
  | .some (s, choices), _ =>
    .error (g.misuse use.option.title ("invalid choice: " ++ Text.quoted s ++ " (choose from " ++
      ", ".intercalate (choices.map Text.quoted) ++ ")"))
  | .none, .showHelp => .error (.help g)
  | .none, .showVersion => .error .version
  | .none, .setting name =>
    .ok { taken with settings := taken.settings ++ [(name, use.arguments)] }

/-- How many words an operand takes from the beginning. -/
def Operand.extent (operand : Operand) (words : List Word) : Nat :=
  let marks := (words.takeWhile fun w => match w with | .mark => true | _ => false).length
  match operand, words.drop marks with
  | .argument, .argument _ :: .mark :: _ => marks + 2
  | .argument, .argument _ :: _ => marks + 1
  | .command, .argument _ :: _ => words.length
  | _, _ => 0

/-- The words of an operand: for one argument that argument, for a command all words. -/
def Operand.words (operand : Operand) (written : List String) : List String :=
  match operand with
  | .argument => written.erase "--"
  | .command => written

/-- Takes the operand from the beginning of the words, if it is still missing and can be taken; says
how many words it took. `written` are the same words as they were written. -/
def Grammar.takeOperand (g : Grammar) (taken : Taken) (words : List Word)
    (written : List String) : Taken × Nat :=
  match g.operand, taken.operand with
  | .some operand, .none =>
    let extent := operand.extent words
    if extent = 0 then (taken, 0)
    else ({ taken with operand := .some (operand.words (written.take extent)) }, extent)
  | _, _ => (taken, 0)

/-- Whether a word is an option, known or not. -/
def Word.isOption : Word → Bool
  | option _ => true
  | unknown _ => true
  | _ => false

/-- Takes options and the operand from the words as they come; each round takes a word at least.
`written` are the same words as they were written. -/
def Grammar.takeAll (g : Grammar) (taken : Taken) (words : List Word) (written : List String) :
    Nat → Except Halt Taken
  | 0 => .ok taken
  | rounds + 1 =>
    match words.dropWhile fun w => !w.isOption with
    | [] =>
      let (taken, extent) := g.takeOperand taken words written
      .ok { taken with leftOver := taken.leftOver ++ written.drop extent }
    | first :: following =>
      let before := (words.takeWhile fun w => !w.isOption).length
      let (taken, extent) :=
        if before = 0 then (taken, 0) else g.takeOperand taken words written
      if 0 < extent then g.takeAll taken (words.drop extent) (written.drop extent) rounds
      else
        let taken := { taken with leftOver := taken.leftOver ++ written.take before }
        let rest := written.drop (before + 1)
        match first with
        | .option r => do
          let found ← g.uses r following
          let taken ← found.uses.foldlM g.carryOut taken
          g.takeAll taken (following.drop found.extent) (rest.drop found.extent) rounds
        | _ =>
          let taken := { taken with leftOver := taken.leftOver ++ (written.drop before).take 1 }
          g.takeAll taken following rest rounds

/-- Reads a command line. -/
def Grammar.take (g : Grammar) (written : List String) : Except Halt Taken := do
  let words ← g.tellAll written
  g.takeAll { settings := [], operand := .none, leftOver := [] } words written (words.length + 1)

end TokenAudit.CommandLine
