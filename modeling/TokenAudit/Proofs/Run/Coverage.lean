import TokenAudit.Proofs.Run.Accounting

/-!
# Which files a run reports on

A run succeeds when each of its paths stands for files and each of these can be asked for its
content, whatever the rules and the severity are. It reports on these files and on no others, so the
order of the paths and their repetition do not change which reports there are.
-/

set_option autoImplicit false

namespace TokenAudit

/-- A file is among those that the paths stand for. -/
def FileTree.Discovers (t : FileTree) (scope : DiscoveryScope) (paths : List String)
    (file : String) : Prop :=
  ∃ path ∈ paths, ∃ files, t.discover scope path = .ok files ∧ file ∈ files

namespace AuditPlan

variable {plan : AuditPlan} {tree : FileTree} {scope : DiscoveryScope} {paths : List String}
  {audited : TreeAudit}

/-- A file is reported on exactly when reading it ends. -/
theorem exists_auditFile_iff {path : String} :
    (∃ audit, plan.auditFile tree path = .ok audit) ↔
      ∃ source, tree.readSource path = .ok source := by
  unfold auditFile
  constructor
  · rintro ⟨audit, haudit⟩
    obtain ⟨source, hsource, -⟩ := map_eq_ok_iff.1 haudit
    exact ⟨source, hsource⟩
  · rintro ⟨source, hsource⟩
    exact ⟨_, map_eq_ok_iff.2 ⟨source, hsource, rfl⟩⟩

/-- The files of a run are those that its paths discover. -/
theorem mem_flatten_iff {found : List (List String)} {file : String}
    (h : paths.mapM (tree.discover scope) = .ok found) :
    file ∈ found.flatten ↔ tree.Discovers scope paths file := by
  rw [List.mem_flatten]
  constructor
  · rintro ⟨files, hfiles, hfile⟩
    obtain ⟨path, hpath, hdiscover⟩ := (mem_iff_of_mapM h).1 hfiles
    exact ⟨path, hpath, files, hdiscover, hfile⟩
  · rintro ⟨path, hpath, files, hdiscover, hfile⟩
    exact ⟨files, (mem_iff_of_mapM h).2 ⟨path, hpath, hdiscover⟩, hfile⟩

/-- Whether a run succeeds depends on the paths and on what they stand for. -/
theorem exists_auditTree_iff :
    (∃ audited, plan.auditTree tree scope paths = .ok audited) ↔
      (∀ path ∈ paths, ∃ files, tree.discover scope path = .ok files) ∧
        ∀ file, tree.Discovers scope paths file → ∃ source, tree.readSource file = .ok source := by
  constructor
  · rintro ⟨audited, h⟩
    obtain ⟨found, audits, hfound, haudits, -⟩ := auditTree_eq_ok_iff.1 h
    refine ⟨exists_mapM_eq_ok_iff.1 ⟨found, hfound⟩, ?_⟩
    intro file hfile
    apply exists_auditFile_iff.1
    exact exists_mapM_eq_ok_iff.1 ⟨audits, haudits⟩ file ((mem_flatten_iff hfound).2 hfile)
  · rintro ⟨hdiscover, hread⟩
    obtain ⟨found, hfound⟩ := exists_mapM_eq_ok_iff.2 hdiscover
    have hfiles : ∀ file ∈ found.flatten, ∃ audit, plan.auditFile tree file = .ok audit := by
      intro file hfile
      exact exists_auditFile_iff.2 (hread file ((mem_flatten_iff hfound).1 hfile))
    obtain ⟨audits, haudits⟩ := exists_mapM_eq_ok_iff.2 hfiles
    exact ⟨_, auditTree_eq_ok_iff.2 ⟨found, audits, hfound, haudits, rfl⟩⟩

/-- The reports of a run are those on the files that its paths stand for. -/
theorem exists_reports (h : plan.auditTree tree scope paths = .ok audited) :
    ∃ reports, audited.run = .ofReports reports ∧ ∀ r, r ∈ reports ↔
      ∃ file, tree.Discovers scope paths file ∧
        ∃ audit, plan.auditFile tree file = .ok audit ∧ audit.report = r := by
  obtain ⟨found, audits, hfound, haudits, rfl⟩ := auditTree_eq_ok_iff.1 h
  refine ⟨audits.map (·.report), rfl, ?_⟩
  intro r
  rw [List.mem_map]
  constructor
  · rintro ⟨audit, haudit, rfl⟩
    obtain ⟨file, hfile, hresult⟩ := (mem_iff_of_mapM haudits).1 haudit
    exact ⟨file, (mem_flatten_iff hfound).1 hfile, audit, hresult, rfl⟩
  · rintro ⟨file, hfile, audit, hresult, rfl⟩
    have hmem := (mem_flatten_iff hfound).2 hfile
    exact ⟨audit, (mem_iff_of_mapM haudits).2 ⟨file, hmem, hresult⟩, rfl⟩

/-- The paths of the reports are the files that the paths of the run stand for. -/
theorem mem_filePaths_iff (h : plan.auditTree tree scope paths = .ok audited) {file : String} :
    file ∈ audited.run.reports.map (·.filePath) ↔ tree.Discovers scope paths file := by
  obtain ⟨reports, hrun, hreports⟩ := exists_reports h
  rw [hrun, List.mem_map]
  constructor
  · rintro ⟨r, hr, rfl⟩
    obtain ⟨path, hpath, audit, haudit, rfl⟩ := (hreports r).1 ((byRisk_perm reports).mem_iff.1 hr)
    rw [(auditFile_report haudit).2]
    exact hpath
  · intro hfile
    obtain ⟨-, hread⟩ := exists_auditTree_iff.1 ⟨audited, h⟩
    obtain ⟨audit, haudit⟩ := exists_auditFile_iff.2 (hread file hfile)
    have hmem := (hreports audit.report).2 ⟨file, hfile, audit, haudit, rfl⟩
    exact ⟨audit.report, (byRisk_perm reports).mem_iff.2 hmem, (auditFile_report haudit).2⟩

end AuditPlan

end TokenAudit
