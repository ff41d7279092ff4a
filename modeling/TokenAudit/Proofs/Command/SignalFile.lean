import TokenAudit.Proofs.Command.Ending
import TokenAudit.Proofs.Document.RoundTrip
import TokenAudit.Proofs.FileTree.Single
import TokenAudit.Proofs.Text.Encoding

/-!
# Signal files

What a signal file holds is read in stages: its text, the document of the text and the rating of the
document. A file that gives no rating leaves nothing on the console and in the tree. A document that
was written to a file in one of the results is read from it as it was.
-/

set_option autoImplicit false

namespace TokenAudit

/-- The text in a signal file, with line feeds for line ends. -/
def FileTree.signalText (t : FileTree) (path : String) : Except SignalFileFault (List Char) := do
  let content ← (t.contentAt path).mapError .file
  let text ← (Text.Utf8.decode content).mapError .encoding
  return unifyLineEnds text

/-- The document in a signal file, where no more than a number of containers may stand around a
value. -/
def FileTree.signalDocument (t : FileTree) (limit : Nat) (path : String) :
    Except SignalFileFault Document := do
  (Document.read limit (← t.signalText path)).mapError .document

/-- A command is refused with a message: nothing is shown on the console of standard output, nothing
is written, and the exit code is two. -/
structure Outcome.Refuses (o : Outcome) (s : Situation) : Prop where
  ending : o.ending = .ok 2
  output : o.output = ""
  console : o.console = []
  message : ∃ message, o.errorConsole = Display.banner ++
    [.line (Display.styled "bold red" "Invalid signal bundle:" ++ " " ++ Display.escape message)]
  tree : o.tree = s.tree

/-- A character added to a text with unified line ends, whose last character comes first. -/
def unifyNext (state : Bool × List Char) (c : Char) : Bool × List Char :=
  if state.1 && c == '\n' then (false, state.2)
  else if c == '\r' then (true, '\n' :: state.2)
  else (false, c :: state.2)

/-! ## What a file holds -/

section

variable {t t' : FileTree} {limit depth : Nat} {path : String} {text : List Char} {d : Document}

/-- A signal file is rated by the document in it. -/
theorem rateFile_eq (s : Situation) (path : String) :
    rateFile s path =
      s.tree.signalDocument s.depthLimit path >>= fun d =>
        d.toDatum.rating.mapError .signals := by
  unfold rateFile FileTree.signalDocument FileTree.signalText
  cases s.tree.contentAt path with
  | error e => rfl
  | ok content =>
    cases hdecode : Text.Utf8.decode content with
    | error e => simp [Except.mapError, bind, Except.bind, hdecode]
    | ok text =>
      cases hread : Document.read s.depthLimit (unifyLineEnds text) <;>
        simp [Except.mapError, bind, Except.bind, pure, Except.pure, hdecode, hread]

/-- Line ends are unified from the left, one character after the other. -/
theorem unifyLineEnds_eq (text : List Char) :
    unifyLineEnds text = (text.foldl unifyNext (false, [])).2.reverse := rfl

/-- A text without carriage returns has unified line ends. -/
theorem unifyLineEnds_of_not_mem (h : '\r' ∉ text) : unifyLineEnds text = text := by
  have hfold : ∀ unified : List Char,
      text.foldl unifyNext (false, unified) = (false, text.reverse ++ unified) := by
    induction text with
    | nil => exact fun unified => rfl
    | cons c text ih =>
      intro unified
      rw [List.mem_cons, not_or] at h
      have hc : (c == '\r') = false := beq_eq_false_iff_ne.2 (Ne.symm h.1)
      have hnext : unifyNext (false, unified) c = (false, c :: unified) := by
        simp [unifyNext, hc]
      rw [List.foldl_cons, hnext, ih h.2, List.reverse_cons, List.append_assoc,
        List.singleton_append]
  rw [unifyLineEnds_eq, hfold, List.append_nil, List.reverse_reverse]

/-- A text without carriage returns is read back from its bytes as it is. -/
theorem signalText_of_contentAt (h : t.contentAt path = .ok (Text.Utf8.encode text))
    (hreturn : '\r' ∉ text) : t.signalText path = .ok text := by
  unfold FileTree.signalText
  rw [h]
  simp only [Except.mapError, bind, Except.bind, Text.Utf8.decode_encode, pure, Except.pure,
    unifyLineEnds_of_not_mem hreturn]

/-- A document that is legible below the limit is read back from its printed form. -/
theorem signalDocument_of_contentAt (hd : Document.Legible depth d) (hdepth : depth ≤ limit)
    (h : t.contentAt path = .ok (Text.Utf8.encode d.print)) :
    t.signalDocument limit path = .ok d := by
  have hreturn : '\r' ∉ d.print := by
    intro hmem
    exact absurd (hd.isPrinted 0 _ hmem) (by decide)
  unfold FileTree.signalDocument
  rw [signalText_of_contentAt h hreturn]
  exact mapError_eq_ok_iff.2 (Document.read_print hd hdepth)

/-- A legible document that was written to a file is read from it. -/
theorem signalDocument_of_store (hwork : t.HasFolder t.workingFolder)
    (hd : Document.Legible depth d) (hdepth : depth ≤ limit)
    (hstore : t.store path (Text.Utf8.encode d.print) = .ok t') :
    t'.signalDocument limit path = .ok d :=
  signalDocument_of_contentAt hd hdepth (FileTree.contentAt_of_store hwork hstore)

end

/-! ## The command on a file -/

section

variable {s : Situation} {words : List String} {args : CommandLine.Arguments} {path : String}
  {fault : SignalFileFault}

/-- The signals command is performed by the rating of the file, behind the banner. -/
theorem perform_of_signals (hargs : CommandLine.readArguments words = .ok args)
    (hcommand : args.command = .signals path) :
    perform s words =
      { rateCommand s args path with
        errorConsole := Display.banner ++ (rateCommand s args path).errorConsole } := by
  have h : Arguments.perform s args = rateCommand s args path := by
    unfold Arguments.perform
    rw [hcommand]
  rw [perform_of_readArguments hargs, h]

/-- A file that gives no rating has the command refused if the fault is foreseen, and ends the
program if not; nothing is shown on the console either way. -/
theorem perform_of_fault (hargs : CommandLine.readArguments words = .ok args)
    (hcommand : args.command = .signals path) (hfault : rateFile s path = .error fault) :
    (perform s words).console = [] ∧ (perform s words).output = "" ∧
      (perform s words).tree = s.tree ∧
      ((perform s words).Refuses s ↔ ∃ message, fault.foreseen = .ok message) ∧
      ((∃ crash, (perform s words).ending = .error crash) ↔
        ¬ ∃ message, fault.foreseen = .ok message) := by
  rw [perform_of_signals hargs hcommand]
  unfold rateCommand
  simp only [hfault]
  cases hforeseen : fault.foreseen with
  | error crash =>
    refine ⟨rfl, rfl, rfl, ?_, ?_⟩
    · constructor
      · intro h
        cases h.ending
      · simp
    · simp [Situation.halt]
  | ok message =>
    refine ⟨rfl, rfl, rfl, ?_, ?_⟩
    · simp only [Except.ok.injEq, exists_eq', iff_true]
      exact ⟨rfl, rfl, rfl, ⟨message, rfl⟩, rfl⟩
    · simp [Situation.halt]

end

/-! ## A situation with one file -/

/-- A situation with one signal file, which holds a text. -/
def signalSituation (text : List Char) : Situation :=
  { tree := .single "s.json" (Text.Utf8.encode text), now := .zero, elapsed := .zero
    depthLimit := 990 }

/-- The signal file holds the bytes of the text. -/
theorem contentAt_signalSituation (text : List Char) :
    (signalSituation text).tree.contentAt "s.json" = .ok (Text.Utf8.encode text) :=
  FileTree.contentAt_single (by decide)

/-- They are read back as the text if it has no carriage returns. -/
theorem signalText_signalSituation {text : List Char} (h : '\r' ∉ text) :
    (signalSituation text).tree.signalText "s.json" = .ok text :=
  signalText_of_contentAt (contentAt_signalSituation text) h

set_option maxRecDepth 4000 in
/-- The words ask for a rating of the signal file without an export. -/
theorem signals_arguments :
    CommandLine.readArguments ["signals", "s.json"] = .ok ⟨.signals "s.json", .absent, false⟩ := by
  rfl

end TokenAudit
