import Mathlib
import TokenAudit.Proofs.FileTree.Lookup
import TokenAudit.Proofs.Run.Counting

/-!
# What a run accounts for

A run has one report for each source that was found, and every number in it can be read off the
reports: reports are sorted by risk and never dropped, a report that failed has no findings, and a
report that did not fail has a summary of the findings it lists. The tally of the run and those of
the summaries are taken from the same findings under different names.
-/

set_option autoImplicit false

namespace TokenAudit

/-! ## Reports -/

/-- A report is that of a failure, or one on the findings that it lists. -/
def Report.IsSound (r : Report) : Prop :=
  (∃ path message, r = .failed path message) ∨
    ∃ path text findings, r = .ofFindings path text findings

/-- A sound report without an error has a summary of its findings. -/
theorem Report.IsSound.exists_summary {r : Report} (h : r.IsSound) (herror : r.error = none) :
    ∃ s, r.summary = some s ∧ r.riskScore = s.riskScore ∧ s.riskScore = score r.findings ∧
      s.keyRisks = r.findings.map (·.description) := by
  rcases h with ⟨path, message, rfl⟩ | ⟨path, text, findings, rfl⟩
  · cases herror
  · exact ⟨_, rfl, rfl, rfl, rfl⟩

/-- A report on a text is made of findings. -/
theorem AuditPlan.audit_report_eq {plan : AuditPlan} {path : String} {text : List Char} {r : Report}
    (h : (plan.audit path text).report = .ok r) :
    ∃ findings, r = .ofFindings path text findings := by
  obtain ⟨fs, -, hr⟩ := map_eq_ok_iff.1 h
  exact ⟨_, hr.symm⟩

/-- The report on a file is sound, and about that file. -/
theorem AuditPlan.auditRead_report (plan : AuditPlan) (path : String) (source : SourceRead) :
    (plan.auditRead path source).report.IsSound ∧
      (plan.auditRead path source).report.filePath = path := by
  unfold auditRead
  cases source.text with
  | none => exact ⟨.inl ⟨_, _, rfl⟩, rfl⟩
  | some text =>
    cases haudit : (plan.audit path text).report with
    | error e =>
      simp only [haudit]
      exact ⟨.inl ⟨_, _, rfl⟩, rfl⟩
    | ok r =>
      obtain ⟨findings, rfl⟩ := AuditPlan.audit_report_eq haudit
      simp only [haudit]
      exact ⟨.inr ⟨_, _, _, rfl⟩, rfl⟩

/-! ## Tallies -/

/-- Sound reports list as many findings of a severity as their summaries count. -/
theorem countOf_flatMap_findings (g : Grade) {reports : List Report}
    (hreports : ∀ r ∈ reports, r.IsSound) :
    (countOf g (reports.flatMap (·.findings)) : Int) =
      ((reports.filterMap (·.summary)).map fun s => s.vulnerabilities.count g.label).sum := by
  induction reports with
  | nil => rfl
  | cons r reports ih =>
    have hrest := ih fun other hother => hreports other (List.mem_cons_of_mem _ hother)
    have hsplit : countOf g ((r :: reports).flatMap (·.findings)) =
        countOf g r.findings + countOf g (reports.flatMap (·.findings)) := by
      unfold countOf
      rw [List.flatMap_cons, List.countP_append]
    rw [hsplit, Nat.cast_add, hrest]
    rcases hreports r List.mem_cons_self with ⟨path, message, rfl⟩ | ⟨path, text, findings, rfl⟩
    · simp [Report.failed, countOf]
    · simp [Report.ofFindings, summarize, count_severityTally]

/-! ## Sorting by risk -/

/-- The order by risk is transitive. -/
theorem riskOrder_trans (a b c : Report) :
    decide (b.riskScore ≤ a.riskScore) = true → decide (c.riskScore ≤ b.riskScore) = true →
      decide (c.riskScore ≤ a.riskScore) = true := by
  simp only [decide_eq_true_eq]
  omega

/-- It is total. -/
theorem riskOrder_total (a b : Report) :
    (decide (b.riskScore ≤ a.riskScore) || decide (a.riskScore ≤ b.riskScore)) = true := by
  simp only [Bool.or_eq_true, decide_eq_true_eq]
  omega

/-- By risk, the same reports are listed. -/
theorem byRisk_perm (reports : List Report) : (byRisk reports).Perm reports :=
  List.mergeSort_perm reports _

/-- The risk does not rise from one to the next. -/
theorem byRisk_pairwise (reports : List Report) :
    (byRisk reports).Pairwise fun a b => b.riskScore ≤ a.riskScore := by
  have hsorted := List.pairwise_mergeSort riskOrder_trans riskOrder_total reports
  exact hsorted.imp fun h => of_decide_eq_true h

/-- Reports of one risk keep their order. -/
theorem filter_byRisk (reports : List Report) (risk : Int) :
    (byRisk reports).filter (·.riskScore = risk) = reports.filter (·.riskScore = risk) := by
  -- reports of one risk are in order already, so a stable sort keeps them as they stand
  have hlevel : (reports.filter (·.riskScore = risk)).Pairwise
      fun a b => decide (b.riskScore ≤ a.riskScore) = true := by
    apply List.pairwise_of_forall_mem_list
    intro a ha b hb
    simp only [List.mem_filter, decide_eq_true_eq] at ha hb ⊢
    omega
  have hkept : (reports.filter (·.riskScore = risk)).Sublist (byRisk reports) :=
    List.sublist_mergeSort riskOrder_trans riskOrder_total hlevel List.filter_sublist
  have hsub := hkept.filter (·.riskScore = risk)
  rw [List.filter_filter] at hsub
  simp only [Bool.and_self] at hsub
  symm
  apply hsub.eq_of_length
  exact ((byRisk_perm reports).filter _).length_eq.symm

/-! ## The numbers of a run -/

/-- What the numbers of a run say of reports that are given in the order of discovery. -/
structure Run.AccountsFor (run : Run) (inOrder : List Report) : Prop where
  reports : run.reports.Perm inOrder
  descending : run.reports.Pairwise fun a b => b.riskScore ≤ a.riskScore
  stable : ∀ risk, run.reports.filter (·.riskScore = risk) = inOrder.filter (·.riskScore = risk)
  totalFiles : run.totalFiles = run.reports.length
  totalFindings : run.totalFindings = (run.reports.map fun r => (r.findings.length : Int)).sum
  total : run.totalFindings = run.severityCounts.count "HIGH" + run.severityCounts.count "MEDIUM" +
    run.severityCounts.count "LOW"
  severityCounts : run.severityCounts = Grade.descending.map fun g => (g.heading,
    ((run.reports.filterMap (·.summary)).map fun s => s.vulnerabilities.count g.label).sum)
  unfailed : ∀ r ∈ run.reports, r.error = none → ∃ s, r.summary = some s ∧
    r.riskScore = s.riskScore ∧ s.riskScore = score r.findings ∧
      s.keyRisks = r.findings.map (·.description)

/-- A run over sound reports accounts for them. -/
theorem Run.accountsFor_ofReports {reports : List Report} (hreports : ∀ r ∈ reports, r.IsSound) :
    (Run.ofReports reports).AccountsFor reports := by
  have hsound : ∀ r ∈ byRisk reports, r.IsSound := by
    intro r hr
    exact hreports r ((byRisk_perm reports).mem_iff.1 hr)
  constructor
  case reports => exact byRisk_perm reports
  case descending => exact byRisk_pairwise reports
  case stable => exact filter_byRisk reports
  case totalFiles =>
    have hlength := (byRisk_perm reports).length_eq
    exact congrArg Nat.cast hlength.symm
  case totalFindings =>
    change (((byRisk reports).flatMap (·.findings)).length : Int) = _
    rw [List.length_flatMap, Nat.cast_list_sum, List.map_map]
    rfl
  case total =>
    change (((byRisk reports).flatMap (·.findings)).length : Int) =
      countOf .high ((byRisk reports).flatMap (·.findings)) +
        countOf .medium ((byRisk reports).flatMap (·.findings)) +
        countOf .low ((byRisk reports).flatMap (·.findings))
    exact_mod_cast length_eq_countOf ((byRisk reports).flatMap (·.findings))
  case severityCounts =>
    apply List.map_congr_left
    intro g _
    rw [countOf_flatMap_findings g hsound]
    rfl
  case unfailed =>
    intro r hr herror
    exact (hsound r hr).exists_summary herror

/-! ## The whole run -/

/-- The report on a file is sound, and is on that file. -/
theorem AuditPlan.auditFile_report {plan : AuditPlan} {tree : FileTree} {path : String}
    {audit : FileAudit} (h : plan.auditFile tree path = .ok audit) :
    audit.report.IsSound ∧ audit.report.filePath = path := by
  obtain ⟨source, -, rfl⟩ := map_eq_ok_iff.1 h
  exact plan.auditRead_report path source

/-- A run covers files when it audits each of them, tells of each before it does, and accounts for
the reports on them. -/
structure TreeAudit.Covers (audited : TreeAudit) (plan : AuditPlan) (tree : FileTree)
    (files : List String) (inOrder : List Report) : Prop where
  audits : List.Forall₂ (fun path r => r.filePath = path ∧
    ∃ notes, plan.auditFile tree path = .ok ⟨notes, r⟩) files inOrder
  paths : (audited.run.reports.map (·.filePath)).Perm files
  accounts : audited.run.AccountsFor inOrder
  progress : ∀ i : Nat, audited.progress[i]? = files[i]?.map fun path => ⟨path, i, files.length⟩

namespace AuditPlan

variable {plan : AuditPlan} {tree : FileTree} {files : List String} {audits : List FileAudit}

/-- The reports follow the files, each by the audit of its own. -/
theorem forall₂_reports
    (h : List.Forall₂ (fun path audit => plan.auditFile tree path = .ok audit) files audits) :
    List.Forall₂ (fun path r => r.filePath = path ∧
      ∃ notes, plan.auditFile tree path = .ok ⟨notes, r⟩) files (audits.map (·.report)) := by
  rw [List.forall₂_map_right_iff]
  apply h.imp
  intro path audit haudit
  exact ⟨(auditFile_report haudit).2, audit.notes, haudit⟩

/-- All of them are sound. -/
theorem reports_sound
    (h : List.Forall₂ (fun path audit => plan.auditFile tree path = .ok audit) files audits) :
    ∀ r ∈ audits.map (·.report), r.IsSound := by
  intro r hr
  obtain ⟨audit, haudit, rfl⟩ := List.mem_map.1 hr
  obtain ⟨path, -, hpath⟩ := exists_of_mem_mapM (mapM_eq_ok_iff.2 h) haudit
  exact (auditFile_report hpath).1

/-- Their paths are those of the files, in order. -/
theorem filePath_reports
    (h : List.Forall₂ (fun path audit => plan.auditFile tree path = .ok audit) files audits) :
    (audits.map (·.report)).map (·.filePath) = files := by
  induction h with
  | nil => rfl
  | cons hfirst _ ih => rw [List.map_cons, List.map_cons, ih, (auditFile_report hfirst).2]

/-- A run that is made of the audits of files covers the files. -/
theorem covers_of_audits {audited : TreeAudit}
    (hrun : audited.run = .ofReports (audits.map (·.report)))
    (hprogress : audited.progress =
      files.zipIdx.map fun (path, index) => ⟨path, index, files.length⟩)
    (h : List.Forall₂ (fun path audit => plan.auditFile tree path = .ok audit) files audits) :
    audited.Covers plan tree files (audits.map (·.report)) := by
  have haccounts : audited.run.AccountsFor (audits.map (·.report)) := by
    rw [hrun]
    exact Run.accountsFor_ofReports (reports_sound h)
  refine ⟨forall₂_reports h, ?_, haccounts, ?_⟩
  · have hpaths := haccounts.reports.map (·.filePath)
    rwa [filePath_reports h] at hpaths
  · intro i
    rw [hprogress, List.getElem?_map, List.getElem?_zipIdx]
    cases files[i]? with
    | none => rfl
    | some path => simp

/-- Only a null character in the path leaves a file without a report. -/
theorem holdsNull_of_auditFile {path : String} {e : FileError}
    (h : plan.auditFile tree path = .error e) : Path.holdsNull path = true ∧ e = .nullInPath := by
  unfold auditFile at h
  cases hsource : tree.readSource path with
  | error fault =>
    rw [hsource] at h
    cases h
    exact FileTree.holdsNull_of_readSource hsource
  | ok source =>
    rw [hsource] at h
    cases h

/-- A run over a tree covers the files that its paths stand for, or it fails, and then one of the
paths that were given or found holds a null character. -/
theorem auditTree_covers (plan : AuditPlan) (tree : FileTree) (scope : DiscoveryScope)
    (paths : List String) :
    (∃ found audited inOrder,
      List.Forall₂ (fun path files => tree.discover scope path = .ok files) paths found ∧
      plan.auditTree tree scope paths = .ok audited ∧
      audited.Covers plan tree found.flatten inOrder) ∨
    (plan.auditTree tree scope paths = .error .nullInPath ∧
      ∃ path, Path.holdsNull path = true ∧
        (path ∈ paths ∨ ∃ found, paths.mapM (tree.discover scope) = .ok found ∧
          path ∈ found.flatten)) := by
  cases hresult : plan.auditTree tree scope paths with
  | error e =>
    right
    rcases auditTree_eq_error_iff.1 hresult with hfault | ⟨found, hfound, hfault⟩
    · obtain ⟨path, hpath, hfault⟩ := exists_of_mapM_eq_error hfault
      obtain ⟨hnull, rfl⟩ := FileTree.holdsNull_of_discover hfault
      exact ⟨rfl, path, hnull, .inl hpath⟩
    · obtain ⟨path, hpath, hfault⟩ := exists_of_mapM_eq_error hfault
      obtain ⟨hnull, rfl⟩ := holdsNull_of_auditFile hfault
      exact ⟨rfl, path, hnull, .inr ⟨found, hfound, hpath⟩⟩
  | ok audited =>
    left
    obtain ⟨found, audits, hfound, haudits, rfl⟩ := auditTree_eq_ok_iff.1 hresult
    exact ⟨found, _, audits.map (·.report), mapM_eq_ok_iff.1 hfound, rfl,
      covers_of_audits rfl rfl (mapM_eq_ok_iff.1 haudits)⟩

end AuditPlan

end TokenAudit
