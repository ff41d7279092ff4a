import TokenAudit.Proofs.FileTree.Single
import TokenAudit.Proofs.Run.Coverage
import TokenAudit.Proofs.Run.Failure

/-!
# Files are read whole or not at all

The audit of a file of at most 5242880 bytes is the audit of its bytes, given whole: the report is
that of the bytes or carries the message with which their audit breaks down. Of a longer file
nothing is scanned, and as of a path that leads to no file it is reported that it could not be read.
Only a path that holds a null character, at which there can be nothing, has no report.
-/

set_option autoImplicit false

namespace TokenAudit

/-- What is reported on a file of the given bytes: that it could not be read when it is too long,
and else what the audit of the bytes gives, which may break down. -/
inductive AuditPlan.ReportsOn (plan : AuditPlan) (path : String) (content : List UInt8) :
    Report → Prop
  | tooLong (size : 5242880 < content.length) :
      plan.ReportsOn path content (.failed path "Could not read file")
  | audited {audited : Audited} {r : Report} (size : content.length ≤ 5242880)
      (audit : plan.auditValue path (.bytes content) = .ok audited)
      (report : audited.report = .ok r) : plan.ReportsOn path content r
  | brokenDown {audited : Audited} {e : ScanFault} (size : content.length ≤ 5242880)
      (audit : plan.auditValue path (.bytes content) = .ok audited)
      (report : audited.report = .error e) :
      plan.ReportsOn path content (.failed path e.message)

namespace FileTree

variable {t : FileTree} {path : String} {content : List UInt8}

/-- A path is that of a file exactly when it leads to bytes. -/
theorem isFile_iff : t.isFile path = true ↔ ∃ content, t.contentAt path = .ok content := by
  unfold isFile contentAt
  cases t.entry path with
  | error e => simp
  | ok found =>
    obtain ⟨names, node⟩ := found
    cases node <;> simp

/-- No text is read where there is no file. -/
theorem readSource_of_not_isFile (hfile : t.isFile path = false)
    (hnull : Path.holdsNull path = false) :
    ∃ notes, t.readSource path = .ok { notes, text := none } := by
  unfold readSource
  cases hcontent : t.contentAt path with
  | ok content =>
    rw [isFile_iff.2 ⟨content, hcontent⟩] at hfile
    cases hfile
  | error e =>
    cases e with
    | nullInPath =>
      rw [holdsNull_of_contentAt hcontent] at hnull
      cases hnull
    | refused cause refusedPath second => exact ⟨_, rfl⟩

end FileTree

namespace AuditPlan

variable {plan : AuditPlan} {tree : FileTree} {path : String} {content : List UInt8}

/-- The audit of a file of the given bytes ends in the report on them. -/
theorem auditFile_of_contentAt (plan : AuditPlan) (h : tree.contentAt path = .ok content) :
    ∃ audit, plan.auditFile tree path = .ok audit ∧ plan.ReportsOn path content audit.report := by
  have hlimit : sourceSizeLimit = 5242880 := rfl
  rw [auditFile, FileTree.readSource_of_contentAt h, hlimit]
  refine ⟨_, rfl, ?_⟩
  by_cases hsize : 5242880 < content.length
  · rw [if_pos hsize]
    exact .tooLong hsize
  · have hfits : content.length ≤ 5242880 := Nat.le_of_not_lt hsize
    have haudit : plan.auditValue path (.bytes content) =
        .ok (plan.audit path (Text.Utf8.decodeLossy content)) := rfl
    rw [if_neg hsize]
    unfold auditRead
    simp only
    cases hreport : (plan.audit path (Text.Utf8.decodeLossy content)).report with
    | ok r => exact .audited hfits haudit hreport
    | error e => exact .brokenDown hfits haudit hreport

/-- The audit of a path that leads to no file ends in the report that it could not be read. -/
theorem auditFile_of_not_isFile (plan : AuditPlan) (hfile : tree.isFile path = false)
    (hnull : Path.holdsNull path = false) :
    ∃ audit, plan.auditFile tree path = .ok audit ∧
      audit.report = .failed path "Could not read file" := by
  obtain ⟨notes, hread⟩ := FileTree.readSource_of_not_isFile hfile hnull
  rw [auditFile, hread]
  exact ⟨_, rfl, rfl⟩

/-- A file is left without a report exactly when its path has a null character. -/
theorem auditFile_eq_error_iff {e : FileError} :
    plan.auditFile tree path = .error e ↔ Path.holdsNull path = true ∧ e = .nullInPath := by
  constructor
  · exact holdsNull_of_auditFile
  · rintro ⟨hnull, rfl⟩
    have hread : tree.readSource path = .error .nullInPath := by
      unfold FileTree.readSource
      rw [FileTree.contentAt_of_holdsNull hnull]
    rw [auditFile, hread]
    rfl

end AuditPlan

/-- The audit of a file reports on all of its bytes, or that it could not be read when they are too
many. That is also reported on every path that leads to no file, such as that of a folder, of a link
to nothing, or of nothing. Only a path with a null character is not reported on. Each report of a
run is one of these two. -/
theorem files_read_whole (plan : AuditPlan) (tree : FileTree) :
    (∀ path content, tree.contentAt path = .ok content →
      ∃ audit, plan.auditFile tree path = .ok audit ∧
        plan.ReportsOn path content audit.report) ∧
    (∀ path, tree.isFile path = false → Path.holdsNull path = false →
      ∃ audit, plan.auditFile tree path = .ok audit ∧
        audit.report = .failed path "Could not read file") ∧
    (∀ path e, plan.auditFile tree path = .error e ↔
      Path.holdsNull path = true ∧ e = .nullInPath) ∧
    ∀ scope paths audited, plan.auditTree tree scope paths = .ok audited →
      ∀ r ∈ audited.run.reports,
        (∀ content, tree.contentAt r.filePath = .ok content →
          plan.ReportsOn r.filePath content r) ∧
        (tree.isFile r.filePath = false → r = .failed r.filePath "Could not read file") := by
  refine ⟨fun path content => plan.auditFile_of_contentAt,
    fun path => plan.auditFile_of_not_isFile, fun path e => AuditPlan.auditFile_eq_error_iff, ?_⟩
  intro scope paths audited h r hr
  obtain ⟨reports, hrun, hreports⟩ := AuditPlan.exists_auditFile_of_mem h
  rw [hrun] at hr
  obtain ⟨-, audit, haudit, rfl⟩ := hreports r ((byRisk_perm reports).mem_iff.1 hr)
  constructor
  · intro content hcontent
    obtain ⟨other, hother, hreport⟩ := plan.auditFile_of_contentAt hcontent
    cases haudit.symm.trans hother
    exact hreport
  · intro hfile
    have hnull : Path.holdsNull audit.report.filePath = false := by
      rw [Bool.eq_false_iff]
      intro hnull
      rw [AuditPlan.auditFile_eq_error_iff.2 ⟨hnull, rfl⟩] at haudit
      cases haudit
    obtain ⟨other, hother, hreport⟩ := plan.auditFile_of_not_isFile hfile hnull
    cases haudit.symm.trans hother
    exact hreport

/-- A working folder with a source, a folder, and a link that leads to nothing. -/
def gappedTree : FileTree where
  root := .folder [("work", .folder [("a.sol", .file [120]), ("src", .folder []),
    ("gone.sol", .link "nowhere.sol")])]
  workingFolder := ["work"]

/-- A short name is looked up in the working folder. -/
theorem gappedTree_lookIn (name : String) {node : Option Node}
    (hshort : Path.isLongName name = false)
    (hnode : gappedTree.root.at? (["work"] ++ [name]) = node) :
    gappedTree.lookIn gappedTree.workingFolder name = .ok node :=
  FileTree.lookIn_eq_ok_iff.2 ⟨hshort, hnode⟩

/-- One path leads to the source. -/
theorem gappedTree_file :
    gappedTree.entry "a.sol" = .ok (["work", "a.sol"], .file [120]) := by
  have hlook := gappedTree_lookIn "a.sol" (by decide) rfl
  apply FileTree.entry_of_present (by decide)
  exact FileTree.walk_of_file (by decide) (by decide) hlook rfl

/-- One leads to a folder. -/
theorem gappedTree_folder :
    gappedTree.entry "src" = .ok (["work", "src"], .folder []) := by
  have hlook := gappedTree_lookIn "src" (by decide) rfl
  apply FileTree.entry_of_present (by decide)
  rw [FileTree.walk_of_folder (by decide) (by decide) hlook, FileTree.walk]
  rfl

/-- One leads to a link to nowhere. -/
theorem gappedTree_link :
    gappedTree.entry "gone.sol" = .error (.on "gone.sol" .noSuchEntry) := by
  have hlimit : FileTree.linkLimit = 39 + 1 := rfl
  have hstart : FileTree.startOf "nowhere.sol" gappedTree.workingFolder =
      gappedTree.workingFolder := by decide
  have hnames : Path.names "nowhere.sol" ++ [] = ["nowhere.sol"] := by decide
  have hlook := gappedTree_lookIn "gone.sol" (by decide) rfl
  have htarget := gappedTree_lookIn "nowhere.sol" (by decide) rfl
  apply FileTree.entry_of_absent (by decide)
  rw [hlimit, FileTree.walk_of_link (by decide) (by decide) hlook, hstart, hnames]
  exact FileTree.walk_of_absent (by decide) (by decide) htarget

/-- One leads to nothing. -/
theorem gappedTree_missing :
    gappedTree.entry "none.sol" = .error (.on "none.sol" .noSuchEntry) := by
  have hlook := gappedTree_lookIn "none.sol" (by decide) rfl
  apply FileTree.entry_of_absent (by decide)
  exact FileTree.walk_of_absent (by decide) (by decide) hlook

/-- The source has one byte. -/
theorem gappedTree_contentAt : gappedTree.contentAt "a.sol" = .ok [120] := by
  unfold FileTree.contentAt
  rw [gappedTree_file]

/-- Only the source is discovered. -/
theorem gappedTree_discovers_iff {scope : DiscoveryScope} {name : String} :
    gappedTree.Discovers scope ["a.sol"] name ↔ name = "a.sol" := by
  have hdiscover : gappedTree.discover scope "a.sol" = .ok ["a.sol"] :=
    FileTree.discover_of_isFile (FileTree.isFile_iff.2 ⟨_, gappedTree_contentAt⟩)
  simp [FileTree.Discovers, hdiscover]

/-- The audit of it ends. -/
theorem exists_auditTree_gappedTree (plan : AuditPlan) (scope : DiscoveryScope) :
    ∃ audited, plan.auditTree gappedTree scope ["a.sol"] = .ok audited := by
  rw [AuditPlan.exists_auditTree_iff]
  constructor
  · intro path hpath
    cases List.mem_singleton.1 hpath
    exact ⟨_, FileTree.discover_of_isFile (FileTree.isFile_iff.2 ⟨_, gappedTree_contentAt⟩)⟩
  · intro name hname
    cases gappedTree_discovers_iff.1 hname
    exact ⟨_, FileTree.readSource_of_contentAt gappedTree_contentAt⟩

/-- The source is reported on, and of a folder, of a link to nothing and of nothing it is reported
that they could not be read. -/
theorem files_read_whole_gappedTree :
    (∃ audit, (breakingPlan "boom").auditFile gappedTree "a.sol" = .ok audit ∧
      (breakingPlan "boom").ReportsOn "a.sol" [120] audit.report) ∧
    (∀ name ∈ ["src", "gone.sol", "none.sol"],
      gappedTree.isFile name = false ∧ Path.holdsNull name = false ∧
      ∃ audit, (breakingPlan "boom").auditFile gappedTree name = .ok audit ∧
        audit.report = .failed name "Could not read file") ∧
    ∃ audited, (breakingPlan "boom").auditTree gappedTree ⟨defaultExtensions, defaultExcluded⟩
        ["a.sol"] = .ok audited ∧
      ∀ r ∈ audited.run.reports, (breakingPlan "boom").ReportsOn r.filePath [120] r := by
  obtain ⟨hcontents, hunread, -, hrun⟩ := files_read_whole (breakingPlan "boom") gappedTree
  have hnone : ∀ name ∈ ["src", "gone.sol", "none.sol"],
      gappedTree.isFile name = false ∧ Path.holdsNull name = false := by
    simp only [List.forall_mem_cons, FileTree.isFile, gappedTree_folder, gappedTree_link,
      gappedTree_missing]
    decide
  refine ⟨hcontents _ _ gappedTree_contentAt, ?_, ?_⟩
  · intro name hname
    obtain ⟨hfile, hnull⟩ := hnone name hname
    exact ⟨hfile, hnull, hunread name hfile hnull⟩
  · obtain ⟨audited, hresult⟩ := exists_auditTree_gappedTree (breakingPlan "boom")
      ⟨defaultExtensions, defaultExcluded⟩
    refine ⟨audited, hresult, ?_⟩
    intro r hr
    have hpath : r.filePath = "a.sol" := by
      rw [← gappedTree_discovers_iff, ← AuditPlan.mem_filePaths_iff hresult]
      exact List.mem_map_of_mem hr
    obtain ⟨hreport, -⟩ := hrun _ _ _ hresult r hr
    exact hreport [120] (by rw [hpath, gappedTree_contentAt])

/-- Nothing is at a path with a null character, and its audit gives no report. -/
theorem null_path_not_reported :
    FileTree.empty.isFile "a\x00b" = false ∧ FileTree.empty.isFolder "a\x00b" = false ∧
      (breakingPlan "boom").auditFile FileTree.empty "a\x00b" = .error .nullInPath := by
  have hnull : Path.holdsNull "a\x00b" = true := by decide
  have hentry : FileTree.empty.entry "a\x00b" = .error .nullInPath :=
    FileTree.entry_eq_nullInPath_iff.2 hnull
  unfold FileTree.isFile FileTree.isFolder
  rw [hentry]
  exact ⟨rfl, rfl, AuditPlan.auditFile_eq_error_iff.2 ⟨hnull, rfl⟩⟩

end TokenAudit
