import TokenAudit.Proofs.Command.SignalOutputs
import TokenAudit.Proofs.Display.Escaping
import TokenAudit.Proofs.Run.Outputs

/-!
# Texts from outside on the console

A reason of a rating may be a warning that was passed on, and the line above a report shows a path
and a message. They stand in their lines as they are. Escaping makes every text longer that is not
plain, so a line is the one with its texts escaped exactly when they are plain; a warning that looks
like a tag, or a path or a message with one, is shown as markup.
-/

set_option autoImplicit false

namespace TokenAudit.Display

/-! ## Reasons -/

/-- Each reason has its line below that of the level. -/
theorem getElem?_ratingItems {rating : Rating} {i : Nat} {reason : RawText}
    (h : rating.reasons[i]? = some reason) :
    (ratingItems rating)[i + 1]? = some (.line ("  - " ++ reason)) := by
  have hsome : rating.reasons ≠ [] := by
    intro hnone
    rw [hnone] at h
    cases h
  rw [ratingItems_eq, if_neg hsome, List.getElem?_cons_succ, List.getElem?_map, h]
  rfl

/-! ## Headers of reports -/

/-- The reports are shown one after the other, below the line with the number of findings. -/
theorem getElem?_runItems (verbose : Bool) {run : Run} {before after : List Report} {r : Report}
    (h : run.reports = before ++ r :: after) :
    (runItems verbose run)[(before.flatMap (reportItems verbose)).length + 1]? =
      some (headerItem r r.filePath (r.error.getD "")) := by
  obtain ⟨below, hbelow⟩ := exists_reportItems verbose r
  rw [runItems_of_ne_nil verbose (by simp [h]), ← List.flatMap_def, h, List.flatMap_append,
    List.flatMap_cons, hbelow, List.getElem?_cons_succ,
    List.getElem?_append_right (Nat.le_refl _), Nat.sub_self]
  rfl

/-- The header of a report has its path and its message escaped if they are plain, and only then:
each of them would make the line longer. -/
theorem headerItem_escape_iff {r : Report} {message : String} :
    headerItem r r.filePath message = headerItem r (escape r.filePath) (escape message) ↔
      IsPlain r.filePath.toList ∧ (r.showsError = true → IsPlain message.toList) := by
  constructor
  · intro h
    have hpath := length_le_escape r.filePath
    have hmessage := length_le_escape message
    unfold headerItem at h
    split at h
    next hshown =>
      have hlength := congrArg (fun t => t.points.length) (Item.line.inj h)
      simp only [RawText.points_append, List.length_append, length_points_ofString, styled,
        String.length_append] at hlength
      exact ⟨length_escape_eq_iff.1 (by omega), fun _ => length_escape_eq_iff.1 (by omega)⟩
    next hhidden =>
      have hlength := congrArg (fun t => t.points.length) (Item.line.inj h)
      simp only [RawText.points_append, List.length_append, length_points_ofString, styled,
        String.length_append] at hlength
      exact ⟨length_escape_eq_iff.1 (by omega), fun hshown => absurd hshown hhidden⟩
  · rintro ⟨hpath, hmessage⟩
    unfold headerItem
    rw [escape_of_isPlain hpath]
    split
    next hshown => rw [escape_of_isPlain (hmessage hshown)]
    next => rfl

/-- A report that shows no message has none that is not plain. -/
theorem isPlain_message_iff {r : Report} :
    (r.showsError = true → IsPlain (r.error.getD "").toList) ↔
      ∀ message ∈ r.error, IsPlain message.toList := by
  rw [Report.showsError_iff]
  constructor
  · intro h message hmessage
    rw [Option.mem_def] at hmessage
    by_cases hempty : message = ""
    · rw [hempty]
      decide
    · have hplain := h ⟨message, hmessage, hempty⟩
      rwa [hmessage] at hplain
  · rintro h ⟨message, hmessage, -⟩
    rw [hmessage]
    exact h message hmessage

/-! ## What is shown escaped -/

/-- A reason of a rating is shown escaped exactly when it is plain, and the path and the message of
a report exactly when both are. -/
theorem shown_texts_escaped_iff (rating : Rating) (verbose : Bool) (run : Run) :
    (∀ (i : Nat) (reason : RawText), rating.reasons[i]? = some reason →
      ((ratingItems rating)[i + 1]? = some (.line ("  - " ++ escapeRaw reason)) ↔
        IsPlain reason.chars)) ∧
    ∀ (before after : List Report) (r : Report), run.reports = before ++ r :: after →
      ((runItems verbose run)[(before.flatMap (reportItems verbose)).length + 1]? =
          some (headerItem r (escape r.filePath) (escape (r.error.getD ""))) ↔
        IsPlain r.filePath.toList ∧ ∀ message ∈ r.error, IsPlain message.toList) := by
  constructor
  · intro i reason h
    rw [getElem?_ratingItems h, Option.some_inj, ← escapeRaw_eq_iff]
    constructor
    · intro hline
      exact (reasonText_inj (Item.line.inj hline)).symm
    · intro hplain
      rw [hplain]
  · intro before after r h
    rw [getElem?_runItems verbose h, Option.some_inj, headerItem_escape_iff, isPlain_message_iff]

/-- A rating with a warning on a fee, and one that looks like a tag. -/
def taggedRating : Rating where
  level := .low
  reasons := [("Fee may rise [5%]" : String), ("[/b]" : String)]

/-- A run over a source whose analysis breaks down has one report, with the message. -/
theorem exists_brokenRun (message : String) :
    ∃ audited, (breakingPlan message).auditTree crossedTree
        ⟨defaultExtensions, defaultExcluded⟩ ["a.sol"] = .ok audited ∧
      audited.run.reports = [] ++ [.failed "a.sol" message] := by
  obtain ⟨audited, hresult, hrun⟩ :=
    exists_auditTree_breakingPlan message ⟨defaultExtensions, defaultExcluded⟩
  refine ⟨audited, hresult, ?_⟩
  rw [hrun]
  exact List.mergeSort_singleton _

/-- The warning on a fee is shown escaped, the other one is not, and the path and the message of a
breakdown with "boom" are. -/
theorem shown_texts_escaped_iff_tagged :
    (ratingItems taggedRating)[1]? = some (.line ("  - " ++ escapeRaw "Fee may rise [5%]")) ∧
      (ratingItems taggedRating)[2]? ≠ some (.line ("  - " ++ escapeRaw "[/b]")) ∧
      ∃ audited, (breakingPlan "boom").auditTree crossedTree ⟨defaultExtensions, defaultExcluded⟩
          ["a.sol"] = .ok audited ∧
        (runItems false audited.run)[1]? =
          some (headerItem (.failed "a.sol" "boom") (escape "a.sol") (escape "boom")) := by
  obtain ⟨audited, hresult, hreports⟩ := exists_brokenRun "boom"
  obtain ⟨hrating, hrun⟩ := shown_texts_escaped_iff taggedRating false audited.run
  refine ⟨?_, ?_, audited, hresult, ?_⟩
  · exact (hrating 0 "Fee may rise [5%]" rfl).2 (by decide)
  · rw [ne_eq, hrating 1 "[/b]" rfl]
    decide
  · apply (hrun [] [] _ hreports).2
    refine ⟨by decide, ?_⟩
    rintro message ⟨⟩
    decide

/-- A bundle of a token without risk, with a warning that looks like a tag. -/
def taggedBundle : Datum :=
  .dict [("honeypot", .bool false), ("sellTax", .text "1%"), ("buyTax", .text "1%"),
    ("topHolderShare", .text "5%"), ("liquidityLocked", .bool true),
    ("liquidityLockShare", .text "90%"), ("verified", .bool true),
    ("warnings", .list [.text ("[/b]" : String)])]

/-- The warning of the bundle is shown without being escaped, and so is the message of an analysis
that broke down with one like it. -/
theorem tagged_texts_unescaped :
    (∃ rating, taggedBundle.rating = .ok rating ∧ rating.reasons = [("[/b]" : RawText)] ∧
      (ratingItems rating)[1]? = some (.line ("  - [/b]" : String)) ∧
      (ratingItems rating)[1]? ≠ some (.line ("  - " ++ escapeRaw "[/b]"))) ∧
    ∃ audited, (breakingPlan "[/b]").auditTree crossedTree ⟨defaultExtensions, defaultExcluded⟩
        ["a.sol"] = .ok audited ∧
      (runItems false audited.run)[1]? =
        some (.line ("[red]a.sol[/red]  [dim][/b][/dim]\n" : String)) ∧
      (runItems false audited.run)[1]? ≠
        some (headerItem (.failed "a.sol" "[/b]") (escape "a.sol") (escape "[/b]")) := by
  constructor
  · refine ⟨{ level := .low, reasons := [("[/b]" : String)] }, ?_, rfl, ?_, ?_⟩ <;>
      decide +kernel
  · obtain ⟨audited, hresult, hreports⟩ := exists_brokenRun "[/b]"
    have hheader : (runItems false audited.run)[1]? =
        some (headerItem (.failed "a.sol" "[/b]") "a.sol" "[/b]") :=
      getElem?_runItems false hreports
    refine ⟨audited, hresult, ?_⟩
    rw [hheader]
    decide

end TokenAudit.Display
