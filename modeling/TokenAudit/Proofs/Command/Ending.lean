import TokenAudit.Command
import TokenAudit.Proofs.FileTree.Writing

/-!
# How a command ends

A command that has shown its result ends with the code of the result, unless it is asked to export
the result and cannot. An export is possible when the clock shows a date and the file can be
written; what is exported plays no part in that. On consoles the program ends with a code if the
command does and neither console refuses what it is handed.
-/

set_option autoImplicit false

namespace TokenAudit

/-- The export that is asked for, if one is, is possible. -/
def Situation.CanExport (s : Situation) (exportTo : CommandLine.OptionValue) : Prop :=
  ∀ path, exportPath? exportTo = some path →
    (∃ time, Clock.timestamp s.now = .ok time) ∧ ∃ tree, s.tree.store path [] = .ok tree

variable {s : Situation} {words : List String} {args : CommandLine.Arguments}
  {exportTo : CommandLine.OptionValue} {document : String → Document} {path : String}
  {tree : FileTree}

/-- Words that can be read are performed behind the banner. -/
theorem perform_of_readArguments (h : CommandLine.readArguments words = .ok args) :
    perform s words =
      { Arguments.perform s args with
        errorConsole := Display.banner ++ (Arguments.perform s args).errorConsole } := by
  unfold perform
  rw [h]

/-- An export writes the text of a document of the present time. -/
theorem export_eq_ok_iff :
    s.export path document = .ok tree ↔
      ∃ time, Clock.timestamp s.now = .ok time ∧
        s.tree.store path (Text.Utf8.encode (document time).print) = .ok tree := by
  unfold Situation.export
  rw [bind_eq_ok_iff]
  simp only [mapError_eq_ok_iff]

/-- An export succeeds exactly when the clock gives a date and the file can be written. -/
theorem exists_export_iff :
    (∃ tree, s.export path document = .ok tree) ↔
      (∃ time, Clock.timestamp s.now = .ok time) ∧ ∃ tree, s.tree.store path [] = .ok tree := by
  constructor
  · rintro ⟨tree, h⟩
    obtain ⟨time, htime, hstore⟩ := export_eq_ok_iff.1 h
    exact ⟨⟨time, htime⟩, FileTree.exists_store hstore []⟩
  · rintro ⟨⟨time, htime⟩, tree, hstore⟩
    obtain ⟨written, hwritten⟩ :=
      FileTree.exists_store hstore (Text.Utf8.encode (document time).print)
    exact ⟨written, export_eq_ok_iff.2 ⟨time, htime, hwritten⟩⟩

/-- What a command that has shown its result leaves: the result as it was shown, and the exported
document in its file if one is asked for. -/
inductive Exported (s : Situation) (document : String → Document) :
    CommandLine.OptionValue → FileTree → Prop
  | unasked {exportTo : CommandLine.OptionValue} (h : exportPath? exportTo = none) :
      Exported s document exportTo s.tree
  | written {exportTo : CommandLine.OptionValue} {path : String} {tree : FileTree}
      (hpath : exportPath? exportTo = some path) (h : s.export path document = .ok tree) :
      Exported s document exportTo tree

section

variable {errors : String} {console : List Display.Item} {code : Nat}

/-- The command ends with its code exactly when the export that is asked for can be made. -/
theorem finish_ending_iff {c : Nat} :
    (finish s exportTo document errors console code).ending = .ok c ↔
      code = c ∧ s.CanExport exportTo := by
  unfold finish Situation.CanExport
  cases hpath : exportPath? exportTo with
  | none => simp
  | some path =>
    have hexport : (∃ tree, s.export path document = .ok tree) ↔ _ := exists_export_iff
    cases hresult : s.export path document with
    | ok tree =>
      have hcan := hexport.1 ⟨tree, hresult⟩
      simp [hresult, hcan]
    | error crash =>
      have hcannot := mt hexport.2 (by simp [hresult])
      simp [hresult, hcannot]

/-- What is shown does not depend on the export. -/
theorem finish_console : (finish s exportTo document errors console code).console = console := by
  unfold finish
  cases exportPath? exportTo with
  | none => rfl
  | some path => cases hresult : s.export path document <;> simp [hresult]

/-- The plain output stays empty. -/
theorem finish_output : (finish s exportTo document errors console code).output = "" := by
  unfold finish
  cases exportPath? exportTo with
  | none => rfl
  | some path => cases hresult : s.export path document <;> simp [hresult]

/-- The console of standard error is handed the message on the export, if one is asked for. -/
theorem finish_errorConsole (h : s.CanExport exportTo) :
    (finish s exportTo document errors console code).errorConsole =
      (exportPath? exportTo).toList.map exportedItem := by
  unfold finish
  cases hpath : exportPath? exportTo with
  | none => rfl
  | some path =>
    obtain ⟨tree, htree⟩ : ∃ tree, s.export path document = .ok tree :=
      exists_export_iff.2 (h path hpath)
    simp [htree]

/-- Where the export can be made, the document is in the file afterwards. -/
theorem finish_exported (h : s.CanExport exportTo) :
    Exported s document exportTo (finish s exportTo document errors console code).tree := by
  unfold finish
  cases hpath : exportPath? exportTo with
  | none => exact .unasked hpath
  | some path =>
    obtain ⟨tree, htree⟩ : ∃ tree, s.export path document = .ok tree :=
      exists_export_iff.2 (h path hpath)
    simp only [htree]
    exact .written hpath htree

end

/-! ## On consoles -/

namespace Consoles

variable {c : Consoles} {code : Nat}

/-- The program ends with a code on consoles if the command ends with it and neither console refuses
a thing. -/
theorem carryOut_ending_eq_ok_iff :
    (c.carryOut s words).ending = .ok code ↔
      (perform s words).ending = .ok code ∧
        c.output.refusal? (perform s words).console = none ∧
        c.errors.refusal? (perform s words).errorConsole = none := by
  unfold carryOut
  cases houtput : c.output.refusal? (perform s words).console with
  | some fault => simp [houtput]
  | none =>
    cases herrors : c.errors.refusal? (perform s words).errorConsole <;> simp [houtput, herrors]

/-- If the program ends with a code, it did all that the command does, and the console of standard
output printed all that it was handed. -/
theorem carryOut_of_ending (h : (c.carryOut s words).ending = .ok code) :
    (c.carryOut s words).output = (perform s words).output ∧
      (c.carryOut s words).printed = c.output.printed (perform s words).console ∧
      (c.carryOut s words).tree = (perform s words).tree := by
  obtain ⟨-, houtput, herrors⟩ := carryOut_ending_eq_ok_iff.1 h
  simp [carryOut, houtput, herrors]

end Consoles

end TokenAudit
