import Mathlib.Data.List.Flatten
import TokenAudit.Proofs.Outcome
import TokenAudit.Proofs.Score
import TokenAudit.Run

/-!
# The counters of a run

A run counts as it goes: it opens with the number of sources, takes in one report after the other,
and counts their findings after they are sorted. Each step of it adds to the counters, so that at
the end every number can be read off the reports, and what was told along the way is the list of
sources with their places in it.
-/

set_option autoImplicit false

namespace TokenAudit

/-- The run over reports that are given in the order of discovery, with its numbers read off the
sorted reports. -/
def Run.ofReports (reports : List Report) : Run :=
  let findings := (byRisk reports).flatMap (·.findings)
  { totalFiles := reports.length
    totalFindings := findings.length
    errors := reports.countP Report.showsError
    duration := .zero
    severityCounts := tallyUnder Grade.heading findings
    reports := byRisk reports }

/-! ## Counting reports and findings -/

/-- Taking in reports one after the other appends them, and counts those that show an error. -/
theorem Run.foldl_addReport (run : Run) (reports : List Report) :
    reports.foldl Run.addReport run =
      { run with
        reports := run.reports ++ reports
        errors := run.errors + reports.countP Report.showsError } := by
  induction reports generalizing run with
  | nil => simp
  | cons r reports ih =>
    rw [List.foldl_cons, ih, List.countP_cons]
    unfold Run.addReport
    cases r.showsError with
    | false => simp
    | true =>
      simp only [if_true, List.append_assoc, List.singleton_append]
      congr 1
      omega

/-- Counting findings one after the other adds their number, and each under its severity. -/
theorem Run.foldl_countFinding (run : Run) (findings : List Finding) :
    findings.foldl Run.countFinding run =
      { run with
        totalFindings := run.totalFindings + findings.length
        severityCounts := findings.foldl (fun t f => t.increment f.severity.heading)
          run.severityCounts } := by
  induction findings generalizing run with
  | nil => simp
  | cons f findings ih =>
    rw [List.foldl_cons, ih]
    unfold Run.countFinding
    simp only [List.foldl_cons, List.length_cons]
    congr 1
    omega

/-- The headings of grades are all different. -/
theorem Grade.heading_injective : ∀ a b : Grade, a.heading = b.heading → a = b := by
  intro a b
  cases a <;> cases b <;> decide

/-- Reports that are taken into the run over as many sources, and counted at its end, give the run
whose numbers are read off them. -/
theorem Run.close_foldl_addReport (reports : List Report) :
    (reports.foldl Run.addReport (.opening reports.length)).close = .ofReports reports := by
  have htally : ((byRisk reports).flatMap (·.findings)).foldl
      (fun t f => t.increment f.severity.heading) Run.noFindings =
        tallyUnder Grade.heading ((byRisk reports).flatMap (·.findings)) :=
    foldl_increment_tallyUnder Grade.heading_injective [] _
  rw [Run.foldl_addReport]
  unfold Run.close Run.opening Run.ofReports
  rw [← List.foldl_flatMap, Run.foldl_countFinding]
  simp only [List.nil_append, htally, Int.zero_add]

/-! ## The loop over the sources -/

section

variable {audit : String → Except FileError FileAudit}

/-- Auditing sources one after the other tells of each, keeps the notes on all, and takes in the
report on each; it fails as the first of the audits does that fails. -/
theorem TreeAudit.foldlM_next (total : Nat) (files : List (String × Nat)) (audited : TreeAudit) :
    files.foldlM (TreeAudit.next audit total) audited =
      (files.mapM fun file => audit file.1).map fun results =>
        { progress := audited.progress ++ files.map fun file => ⟨file.1, file.2, total⟩
          notes := audited.notes ++ results.flatMap (·.notes)
          run := (results.map (·.report)).foldl Run.addReport audited.run } := by
  induction files generalizing audited with
  | nil => simp [Except.map, pure, Except.pure]
  | cons file files ih =>
    rw [List.foldlM_cons, List.mapM_cons]
    unfold TreeAudit.next
    cases audit file.1 with
    | error e => rfl
    | ok result =>
      change files.foldlM (TreeAudit.next audit total) _ = _
      rw [ih]
      cases files.mapM fun file => audit file.1 with
      | error e => rfl
      | ok results => simp [bind, Except.bind, pure, Except.pure, Except.map]

/-- Auditing sources tells of every one with its place, and gives the run over the reports on all of
them. -/
theorem auditSources_eq (files : List String) :
    auditSources audit files = (files.mapM audit).map fun results =>
      { progress := files.zipIdx.map fun (path, index) => ⟨path, index, files.length⟩
        notes := results.flatMap (·.notes)
        run := .ofReports (results.map (·.report)) } := by
  have hfiles : (files.zipIdx.mapM fun file => audit file.1) = files.mapM audit := by
    conv_rhs => rw [← List.zipIdx_map_fst 0 files, List.mapM_map]
    rfl
  unfold auditSources
  rw [TreeAudit.foldlM_next, hfiles]
  cases hresults : files.mapM audit with
  | error e => rfl
  | ok results =>
    have hlength : files.length = (results.map (·.report)).length := by
      rw [List.length_map]
      exact (mapM_eq_ok_iff.1 hresults).length_eq
    have hrun := Run.close_foldl_addReport (results.map (·.report))
    rw [← hlength] at hrun
    simp only [Except.map, bind, Except.bind, pure, Except.pure, TreeAudit.opening,
      List.nil_append, hrun]

end

namespace AuditPlan

variable {plan : AuditPlan} {tree : FileTree} {scope : DiscoveryScope} {paths : List String}
  {audited : TreeAudit}

/-- A run over a tree is made of what its paths stand for and of the audits of these files. -/
theorem auditTree_eq_ok_iff : plan.auditTree tree scope paths = .ok audited ↔
    ∃ found audits, paths.mapM (tree.discover scope) = .ok found ∧
      found.flatten.mapM (plan.auditFile tree) = .ok audits ∧
      audited =
        { progress := found.flatten.zipIdx.map fun (path, index) =>
            ⟨path, index, found.flatten.length⟩
          notes := audits.flatMap (·.notes)
          run := .ofReports (audits.map (·.report)) } := by
  unfold auditTree FileTree.sources
  cases paths.mapM (tree.discover scope) with
  | error e => simp [bind, Except.bind]
  | ok found =>
    change auditSources (plan.auditFile tree) found.flatten = _ ↔ _
    rw [auditSources_eq, map_eq_ok_iff]
    constructor
    · rintro ⟨audits, haudits, rfl⟩
      exact ⟨found, audits, rfl, haudits, rfl⟩
    · rintro ⟨_, audits, ⟨⟩, haudits, rfl⟩
      exact ⟨audits, haudits, rfl⟩

/-- A run over a tree fails as a search for files or the audit of a file does. -/
theorem auditTree_eq_error_iff {e : FileError} : plan.auditTree tree scope paths = .error e ↔
    paths.mapM (tree.discover scope) = .error e ∨
      ∃ found, paths.mapM (tree.discover scope) = .ok found ∧
        found.flatten.mapM (plan.auditFile tree) = .error e := by
  unfold auditTree FileTree.sources
  cases paths.mapM (tree.discover scope) with
  | error fault => simp [bind, Except.bind]
  | ok found => simp [bind, Except.bind, pure, Except.pure, auditSources_eq, map_eq_error_iff]

end AuditPlan

end TokenAudit
