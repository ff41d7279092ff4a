import TokenAudit.Proofs.Command.SignalFile
import TokenAudit.Proofs.Document.Limits
import TokenAudit.Proofs.FileTree.Lookup

/-!
# Signal files that are no documents

A signal file that cannot be read, is not well-formed UTF-8 or holds no document is refused with a
message and the exit code two, and nothing is shown on the console. This is so unless the file holds
a whole number of too many digits or too many containers in each other, where a value is expected:
such a file ends the program.
-/

set_option autoImplicit false

namespace TokenAudit

/-! ## What is foreseen -/

section

variable {t : FileTree} {limit : Nat} {path : String} {fault : SignalFileFault} {text : List Char}

/-- A path that leads to bytes has no null character. -/
theorem holdsNull_of_contentAt_ok {content : List UInt8} (h : t.contentAt path = .ok content) :
    Path.holdsNull path = false := by
  rw [Bool.eq_false_iff]
  intro hnull
  rw [FileTree.contentAt_of_holdsNull hnull] at h
  cases h

/-- A failure to open the file is foreseen unless the path has a null character. -/
theorem foreseen_file_iff {e : FileError} (h : t.contentAt path = .error e) :
    (∃ message, (SignalFileFault.file e).foreseen = .ok message) ↔
      Path.holdsNull path = false := by
  cases e with
  | nullInPath => simp [SignalFileFault.foreseen, FileTree.holdsNull_of_contentAt h]
  | refused cause first second =>
    have hnull : Path.holdsNull path ≠ true := by
      intro hnull
      rw [FileTree.contentAt_of_holdsNull hnull] at h
      cases h
    simp [SignalFileFault.foreseen, hnull]

/-- A document that cannot be read is foreseen unless a limit of the reader is passed. -/
theorem foreseen_document_iff {e : Document.ReadError} :
    (∃ message, (SignalFileFault.document e).foreseen = .ok message) ↔ ¬ e.IsLimit := by
  cases e <;> simp [SignalFileFault.foreseen, Document.ReadError.IsLimit]

/-- That a file gives no document is foreseen, unless its path is none or its text is beyond the
limits of the reader. -/
theorem foreseen_of_signalDocument (h : t.signalDocument limit path = .error fault) :
    (∃ message, fault.foreseen = .ok message) ↔
      Path.holdsNull path = false ∧
        ∀ text, t.signalText path = .ok text → ¬ Document.Overruns limit text := by
  unfold FileTree.signalDocument at h
  rcases bind_eq_error_iff.1 h with hfile | ⟨text, htext, hread⟩
  · have hnone : ∀ text, t.signalText path = .ok text → ¬ Document.Overruns limit text := by
      intro text htext
      cases hfile.symm.trans htext
    rw [and_iff_left hnone]
    unfold FileTree.signalText at hfile
    rcases bind_eq_error_iff.1 hfile with hcontent | ⟨content, hcontent, hfile⟩
    · obtain ⟨e, he, rfl⟩ := mapError_eq_error_iff.1 hcontent
      exact foreseen_file_iff he
    · have hnull := holdsNull_of_contentAt_ok (mapError_eq_ok_iff.1 hcontent)
      rcases bind_eq_error_iff.1 hfile with hdecode | ⟨decoded, -, hfile⟩
      · obtain ⟨e, -, rfl⟩ := mapError_eq_error_iff.1 hdecode
        simp [SignalFileFault.foreseen, hnull]
      · cases hfile
  · obtain ⟨content, hcontent, -⟩ := bind_eq_ok_iff.1 htext
    have hnull := holdsNull_of_contentAt_ok (mapError_eq_ok_iff.1 hcontent)
    obtain ⟨e, he, rfl⟩ := mapError_eq_error_iff.1 hread
    have hlimit : Document.Overruns limit text ↔ e.IsLimit := by
      rw [Document.overruns_iff, he]
      simp
    rw [foreseen_document_iff, ← hlimit, and_iff_right hnull, htext]
    simp

end

/-! ## The command -/

section

variable {s : Situation} {words : List String} {args : CommandLine.Arguments} {path : String}
  {fault : SignalFileFault}

/-- A signal file that gives no document is refused with a message and the exit code two, unless its
path holds a null character or its text is beyond the limits of the reader; then the program ends
without one. A file without a run of too many digits and without too many opening brackets is always
refused. -/
theorem unreadable_signals_refused_iff (hargs : CommandLine.readArguments words = .ok args)
    (hcommand : args.command = .signals path)
    (hunreadable : ∀ d, s.tree.signalDocument s.depthLimit path ≠ .ok d) :
    ((perform s words).Refuses s ↔ Path.holdsNull path = false ∧
      ∀ text, s.tree.signalText path = .ok text → ¬ Document.Overruns s.depthLimit text) ∧
    (Path.holdsNull path = false →
      (∀ text, s.tree.signalText path = .ok text →
        (∀ count, Document.digitLimit < count → ¬ Document.HasDigitRun count text) ∧
          text.countP Document.isOpening ≤ s.depthLimit) →
        (perform s words).Refuses s) ∧
    (¬ (perform s words).Refuses s →
      (∃ crash, (perform s words).ending = .error crash) ∧ (perform s words).console = [] ∧
        (perform s words).output = "" ∧ (perform s words).tree = s.tree) := by
  obtain ⟨fault, hfault⟩ : ∃ fault, s.tree.signalDocument s.depthLimit path = .error fault := by
    cases hread : s.tree.signalDocument s.depthLimit path with
    | ok d => exact absurd hread (hunreadable d)
    | error fault => exact ⟨fault, rfl⟩
  have hrate : rateFile s path = .error fault := by
    rw [rateFile_eq]
    exact bind_eq_error_iff.2 (.inl hfault)
  obtain ⟨hconsole, houtput, htree, hrefuses, hcrash⟩ := perform_of_fault hargs hcommand hrate
  have hiff := hrefuses.trans (foreseen_of_signalDocument hfault)
  refine ⟨hiff, ?_, ?_⟩
  · intro hnull hsmall
    refine hiff.2 ⟨hnull, ?_⟩
    intro text htext hoverruns
    obtain ⟨hdigits, hbrackets⟩ := hsmall text htext
    rcases Document.limits_of_overruns hoverruns with ⟨count, hcount, hrun⟩ | hdepth
    · exact hdigits count hcount hrun
    · omega
  · intro hnot
    exact ⟨hcrash.2 (mt hrefuses.2 hnot), hconsole, houtput, htree⟩

end

/-! ## Two files -/

/-- A file with text that is no document is refused. -/
theorem unreadable_signals_refused_word :
    (perform (signalSituation "none".toList) ["signals", "s.json"]).Refuses
      (signalSituation "none".toList) := by
  have htext : (signalSituation "none".toList).tree.signalText "s.json" = .ok "none".toList :=
    signalText_signalSituation (by decide)
  have hread : Document.read 990 "none".toList = .error (.flaw .expectedValue 1 1 0) := by rfl
  have hunreadable : ∀ d,
      (signalSituation "none".toList).tree.signalDocument 990 "s.json" ≠ .ok d := by
    intro d h
    obtain ⟨text, hsame, hd⟩ := bind_eq_ok_iff.1 h
    cases htext.symm.trans hsame
    cases hread.symm.trans (mapError_eq_ok_iff.1 hd)
  have hrefused := unreadable_signals_refused_iff signals_arguments rfl hunreadable
  refine hrefused.2.1 (by decide) ?_
  intro text h
  cases htext.symm.trans h
  refine ⟨?_, by decide⟩
  rintro count hcount ⟨before, digits, after, hsplit, rfl, -⟩
  have hlength := congrArg List.length hsplit
  have hlimit : Document.digitLimit = 4300 := rfl
  have hshort : "none".toList.length = 4 := rfl
  simp only [List.length_append] at hlength
  omega

/-- A numeral with more digits than the limit overruns it. -/
theorem overruns_replicate {limit n : Nat} (h : Document.digitLimit < n) :
    Document.Overruns limit (List.replicate n '1') := by
  apply Document.overruns_of_digits
  · intro c hc
    rw [List.eq_of_mem_replicate hc]
    decide
  · cases n with
    | zero => cases h
    | succ n => simp [List.replicate_succ]
  · rwa [List.length_replicate]

/-- A file with a whole number of 4301 digits gives no document and is not refused: it ends the
program without an exit code. -/
theorem long_integer_escapes :
    CommandLine.readArguments ["signals", "s.json"] = .ok ⟨.signals "s.json", .absent, false⟩ ∧
    (∀ d, (signalSituation (List.replicate 4301 '1')).tree.signalDocument 990 "s.json" ≠ .ok d) ∧
    ¬ (perform (signalSituation (List.replicate 4301 '1')) ["signals", "s.json"]).Refuses
      (signalSituation (List.replicate 4301 '1')) ∧
    ∃ crash, (perform (signalSituation (List.replicate 4301 '1')) ["signals", "s.json"]).ending =
      .error crash := by
  have hoverruns : Document.Overruns 990 (List.replicate 4301 '1') :=
    overruns_replicate (by decide)
  have hreturn : '\r' ∉ List.replicate 4301 '1' :=
    fun hmem => absurd (List.eq_of_mem_replicate hmem) (by decide)
  have htext := signalText_signalSituation hreturn
  generalize List.replicate 4301 '1' = text at hoverruns htext ⊢
  obtain ⟨e, he, -⟩ := Document.overruns_iff.1 hoverruns
  have hfault : (signalSituation text).tree.signalDocument 990 "s.json" = .error (.document e) := by
    unfold FileTree.signalDocument
    exact bind_eq_error_iff.2 (.inr ⟨text, htext, mapError_eq_error_iff.2 ⟨e, he, rfl⟩⟩)
  have hrate : rateFile (signalSituation text) "s.json" = .error (.document e) := by
    rw [rateFile_eq]
    exact bind_eq_error_iff.2 (.inl hfault)
  obtain ⟨-, -, -, hrefuses, hcrash⟩ := perform_of_fault signals_arguments rfl hrate
  have hunforeseen : ¬ ∃ message, (SignalFileFault.document e).foreseen = .ok message := by
    rw [foreseen_of_signalDocument hfault]
    rintro ⟨-, hnone⟩
    exact hnone _ htext hoverruns
  refine ⟨signals_arguments, ?_, mt hrefuses.1 hunforeseen, hcrash.2 hunforeseen⟩
  intro d h
  cases hfault.symm.trans h

end TokenAudit
