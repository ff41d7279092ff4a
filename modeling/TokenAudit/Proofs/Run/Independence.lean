import TokenAudit.Proofs.Audit.Ids
import TokenAudit.Proofs.FileTree.Outline
import TokenAudit.Proofs.Run.Accounting

/-!
# Files are audited independently

A run is made of one report for each file, and a report is made of nothing but its file and the
plan. So the reports on two lists of paths together are those on each, and every number of the run
is a sum; the order of the paths shows in the order of equal risks only; and what becomes of one
file, be it another content, a failed read or a failed analysis, leaves the reports of the other
paths as they are. The time of a run shows in the ids of findings and nowhere else.
-/

set_option autoImplicit false

namespace TokenAudit

/-! ## Sorting and its levels -/

/-- Lists that agree on each risk have the same reports. -/
theorem mem_iff_of_filter_riskScore {reports others : List Report}
    (h : ∀ risk, reports.filter (·.riskScore = risk) = others.filter (·.riskScore = risk))
    (r : Report) : r ∈ reports ↔ r ∈ others := by
  have hlevel := congrArg (r ∈ ·) (h r.riskScore)
  simpa using hlevel

/-- Reports that descend by risk are told by their reports of each risk. -/
theorem eq_of_filter_riskScore {reports others : List Report}
    (hreports : reports.Pairwise fun a b => b.riskScore ≤ a.riskScore)
    (hothers : others.Pairwise fun a b => b.riskScore ≤ a.riskScore)
    (h : ∀ risk, reports.filter (·.riskScore = risk) = others.filter (·.riskScore = risk)) :
    reports = others := by
  induction reports generalizing others with
  | nil =>
    cases others with
    | nil => rfl
    | cons o others =>
      exact absurd ((mem_iff_of_filter_riskScore h o).2 List.mem_cons_self) List.not_mem_nil
  | cons r reports ih =>
    cases others with
    | nil => exact absurd ((mem_iff_of_filter_riskScore h r).1 List.mem_cons_self) List.not_mem_nil
    | cons o others =>
      obtain ⟨hfirst, hrest⟩ := List.pairwise_cons.1 hreports
      obtain ⟨hfirst', hrest'⟩ := List.pairwise_cons.1 hothers
      have hmem := mem_iff_of_filter_riskScore h
      -- each list begins with a report of the highest risk in both
      have hrisk : r.riskScore = o.riskScore := by
        have hle : r.riskScore ≤ o.riskScore := by
          rcases List.mem_cons.1 ((hmem r).1 List.mem_cons_self) with rfl | hr
          · exact Int.le_refl _
          · exact hfirst' r hr
        have hge : o.riskScore ≤ r.riskScore := by
          rcases List.mem_cons.1 ((hmem o).2 List.mem_cons_self) with rfl | ho
          · exact Int.le_refl _
          · exact hfirst o ho
        omega
      have hlevel := h r.riskScore
      rw [List.filter_cons_of_pos (by simp), List.filter_cons_of_pos (by simp [hrisk])] at hlevel
      obtain ⟨rfl, -⟩ := List.cons.inj hlevel
      have hlater : ∀ risk, reports.filter (·.riskScore = risk) =
          others.filter (·.riskScore = risk) := by
        intro risk
        have hboth := h risk
        rw [List.filter_cons, List.filter_cons] at hboth
        split at hboth
        · exact (List.cons.inj hboth).2
        · exact hboth
      rw [ih hrest hrest' hlater]

/-- Sorting the reports that are kept is keeping the same of the sorted ones. -/
theorem byRisk_filter (reports : List Report) (keep : Report → Bool) :
    byRisk (reports.filter keep) = (byRisk reports).filter keep := by
  apply eq_of_filter_riskScore (byRisk_pairwise _) ((byRisk_pairwise reports).filter keep)
  intro risk
  rw [filter_byRisk, List.filter_comm, ← filter_byRisk, List.filter_comm]

/-! ## The numbers of a run -/

/-- A run in terms of the reports in the order of discovery. -/
theorem Run.ofReports_eq (reports : List Report) :
    Run.ofReports reports =
      { totalFiles := reports.length
        totalFindings := (reports.flatMap (·.findings)).length
        errors := reports.countP Report.showsError
        duration := .zero
        severityCounts := tallyUnder Grade.heading (reports.flatMap (·.findings))
        reports := byRisk reports } := by
  have hfindings : ((byRisk reports).flatMap (·.findings)).Perm (reports.flatMap (·.findings)) :=
    (byRisk_perm reports).flatMap_right _
  unfold Run.ofReports
  simp only [hfindings.length_eq, tallyUnder_perm Grade.heading hfindings]

/-- Under the headings of grades a tally counts the findings of that grade, and nothing under other
headings. -/
theorem count_headings (findings : List Finding) (name : String) :
    (tallyUnder Grade.heading findings).count name =
      if name = "HIGH" then (countOf .high findings : Int)
      else if name = "MEDIUM" then (countOf .medium findings : Int)
      else if name = "LOW" then (countOf .low findings : Int)
      else 0 := by
  unfold Tally.count tallyUnder Grade.descending
  simp only [List.map_cons, List.map_nil, List.lookup_cons, Grade.heading, List.lookup_nil]
  by_cases hhigh : name = "HIGH"
  · simp [hhigh]
  by_cases hmedium : name = "MEDIUM"
  · simp [hmedium]
  by_cases hlow : name = "LOW"
  · simp [hlow]
  simp [hhigh, hmedium, hlow, beq_false_of_ne]

/-- A run joins two others: it has the reports of both, and every number is a sum. -/
structure Run.Joins (run first second : Run) : Prop where
  reports : run.reports.Perm (first.reports ++ second.reports)
  totalFiles : run.totalFiles = first.totalFiles + second.totalFiles
  totalFindings : run.totalFindings = first.totalFindings + second.totalFindings
  errors : run.errors = first.errors + second.errors
  severityCounts : ∀ name, run.severityCounts.count name =
    first.severityCounts.count name + second.severityCounts.count name

/-- The run over two lists of reports joins the runs over each. -/
theorem Run.joins_ofReports (reports others : List Report) :
    (Run.ofReports (reports ++ others)).Joins (.ofReports reports) (.ofReports others) := by
  rw [Run.ofReports_eq, Run.ofReports_eq reports, Run.ofReports_eq others]
  constructor
  case reports =>
    have hall := byRisk_perm (reports ++ others)
    exact hall.trans ((byRisk_perm reports).append (byRisk_perm others)).symm
  case totalFiles => simp
  case totalFindings => simp
  case errors => simp
  case severityCounts =>
    intro name
    rw [count_headings, count_headings, count_headings]
    simp only [List.flatMap_append, countOf, List.countP_append, Nat.cast_add]
    split_ifs <;> simp

/-- Two runs differ in the order of reports of one risk at most. -/
structure Run.SameButForOrder (run other : Run) : Prop where
  reports : run.reports.Perm other.reports
  risks : run.reports.map (·.riskScore) = other.reports.map (·.riskScore)
  totalFiles : run.totalFiles = other.totalFiles
  totalFindings : run.totalFindings = other.totalFindings
  errors : run.errors = other.errors
  duration : run.duration = other.duration
  severityCounts : run.severityCounts = other.severityCounts

/-- Runs over the same reports differ in the order at most. -/
theorem Run.sameButForOrder_ofReports {reports others : List Report} (h : reports.Perm others) :
    (Run.ofReports reports).SameButForOrder (.ofReports others) := by
  have hsorted : (byRisk reports).Perm (byRisk others) :=
    (byRisk_perm reports).trans (h.trans (byRisk_perm others).symm)
  have hfindings := h.flatMap_right (·.findings)
  rw [Run.ofReports_eq, Run.ofReports_eq others]
  constructor
  case reports => exact hsorted
  case risks =>
    apply (hsorted.map (·.riskScore)).eq_of_pairwise
    · intro a b _ _ hab hba
      exact Int.le_antisymm hba hab
    · exact List.pairwise_map.2 (byRisk_pairwise reports)
    · exact List.pairwise_map.2 (byRisk_pairwise others)
  case totalFiles => rw [h.length_eq]
  case totalFindings => rw [hfindings.length_eq]
  case errors => rw [h.countP_eq]
  case duration => rfl
  case severityCounts => exact tallyUnder_perm Grade.heading hfindings

/-! ## The reports in the order of discovery -/

/-- The run over the files that paths stand for, where each file is audited as given, without what
is told on the way. -/
def runBy (audit : String → Except FileError FileAudit) (tree : FileTree) (scope : DiscoveryScope)
    (paths : List String) : Except FileError Run := do
  return (← auditSources audit (← tree.sources scope paths)).run

/-- The run over a tree, without what is told on the way. -/
def AuditPlan.runOver (plan : AuditPlan) (tree : FileTree) (scope : DiscoveryScope)
    (paths : List String) : Except FileError Run :=
  (plan.auditTree tree scope paths).map (·.run)

/-- A run over a tree audits each file by the plan. -/
theorem AuditPlan.runOver_eq (plan : AuditPlan) (tree : FileTree) (scope : DiscoveryScope)
    (paths : List String) :
    plan.runOver tree scope paths = runBy (plan.auditFile tree) tree scope paths := by
  unfold runOver auditTree runBy
  cases tree.sources scope paths with
  | error e => rfl
  | ok files => cases auditSources (plan.auditFile tree) files <;> rfl

/-- The reports on the files that paths stand for, in the order of discovery, where each file is
audited as given. -/
def reportsBy (audit : String → Except FileError FileAudit) (tree : FileTree)
    (scope : DiscoveryScope) (paths : List String) : Except FileError (List Report) := do
  return (← (← tree.sources scope paths).mapM audit).map (·.report)

/-- A run is the run over the reports on its files. -/
theorem runBy_eq (audit : String → Except FileError FileAudit) (tree : FileTree)
    (scope : DiscoveryScope) (paths : List String) :
    runBy audit tree scope paths = (reportsBy audit tree scope paths).map .ofReports := by
  unfold runBy reportsBy
  cases tree.sources scope paths with
  | error e => rfl
  | ok files =>
    simp only [bind, Except.bind, auditSources_eq]
    cases files.mapM audit with
    | error e => rfl
    | ok results => rfl

/-- Reports are made by discovering the files and auditing each. -/
theorem reportsBy_eq_ok_iff {audit : String → Except FileError FileAudit} {tree : FileTree}
    {scope : DiscoveryScope} {paths : List String} {reports : List Report} :
    reportsBy audit tree scope paths = .ok reports ↔ ∃ found audits,
      paths.mapM (tree.discover scope) = .ok found ∧ found.flatten.mapM audit = .ok audits ∧
        audits.map (·.report) = reports := by
  unfold reportsBy FileTree.sources
  cases paths.mapM (tree.discover scope) with
  | error e => simp [bind, Except.bind]
  | ok found =>
    change (found.flatten.mapM audit >>= fun audits => .ok (audits.map (·.report))) = _ ↔ _
    rw [bind_eq_ok_iff]
    constructor
    · rintro ⟨audits, haudits, h⟩
      exact ⟨found, audits, rfl, haudits, Except.ok.inj h⟩
    · rintro ⟨_, audits, ⟨⟩, haudits, rfl⟩
      exact ⟨audits, haudits, rfl⟩

/-! ## More paths, and paths in another order -/

section

variable {audit : String → Except FileError FileAudit} {tree : FileTree} {scope : DiscoveryScope}
  {paths others : List String}

/-- The reports over two lists of paths follow each other. -/
theorem reportsBy_append {reports later : List Report}
    (h : reportsBy audit tree scope paths = .ok reports)
    (hlater : reportsBy audit tree scope others = .ok later) :
    reportsBy audit tree scope (paths ++ others) = .ok (reports ++ later) := by
  obtain ⟨found, audits, hfound, haudits, rfl⟩ := reportsBy_eq_ok_iff.1 h
  obtain ⟨found', audits', hfound', haudits', rfl⟩ := reportsBy_eq_ok_iff.1 hlater
  refine reportsBy_eq_ok_iff.2 ⟨found ++ found', audits ++ audits', ?_, ?_, List.map_append⟩
  · rw [List.mapM_append, hfound, hfound']
    rfl
  · rw [List.flatten_append, List.mapM_append, haudits, haudits']
    rfl

/-- They can be made exactly when those over each list can. -/
theorem exists_reportsBy_append_iff :
    (∃ reports, reportsBy audit tree scope (paths ++ others) = .ok reports) ↔
      (∃ reports, reportsBy audit tree scope paths = .ok reports) ∧
        ∃ reports, reportsBy audit tree scope others = .ok reports := by
  constructor
  · rintro ⟨reports, h⟩
    obtain ⟨found, audits, hfound, haudits, -⟩ := reportsBy_eq_ok_iff.1 h
    rw [List.mapM_append] at hfound
    obtain ⟨first, hfirst, hfound⟩ := bind_eq_ok_iff.1 hfound
    obtain ⟨second, hsecond, hfound⟩ := bind_eq_ok_iff.1 hfound
    cases hfound
    rw [List.flatten_append, List.mapM_append] at haudits
    obtain ⟨audits₁, haudits₁, haudits⟩ := bind_eq_ok_iff.1 haudits
    obtain ⟨audits₂, haudits₂, -⟩ := bind_eq_ok_iff.1 haudits
    exact ⟨⟨_, reportsBy_eq_ok_iff.2 ⟨_, _, hfirst, haudits₁, rfl⟩⟩,
      _, reportsBy_eq_ok_iff.2 ⟨_, _, hsecond, haudits₂, rfl⟩⟩
  · rintro ⟨⟨reports, h⟩, later, hlater⟩
    exact ⟨_, reportsBy_append h hlater⟩

/-- Paths in another order stand for the same reports in another order. -/
theorem exists_reportsBy_perm {reports : List Report} (hpaths : paths.Perm others)
    (h : reportsBy audit tree scope paths = .ok reports) :
    ∃ reports', reportsBy audit tree scope others = .ok reports' ∧ reports.Perm reports' := by
  induction hpaths generalizing reports with
  | nil => exact ⟨reports, h, .refl _⟩
  | @cons path paths others hpaths ih =>
    rw [← List.singleton_append] at h
    obtain ⟨⟨first, hfirst⟩, rest, hrest⟩ := exists_reportsBy_append_iff.1 ⟨_, h⟩
    obtain ⟨rest', hrest', hperm⟩ := ih hrest
    cases h.symm.trans (reportsBy_append hfirst hrest)
    exact ⟨first ++ rest', reportsBy_append hfirst hrest', hperm.append_left first⟩
  | swap path path' paths =>
    have hsplit : path' :: path :: paths = [path'] ++ ([path] ++ paths) := rfl
    rw [hsplit] at h
    obtain ⟨⟨first, hfirst⟩, later, hlater⟩ := exists_reportsBy_append_iff.1 ⟨_, h⟩
    obtain ⟨⟨second, hsecond⟩, rest, hrest⟩ := exists_reportsBy_append_iff.1 ⟨_, hlater⟩
    cases hlater.symm.trans (reportsBy_append hsecond hrest)
    cases h.symm.trans (reportsBy_append hfirst hlater)
    refine ⟨second ++ (first ++ rest), ?_, ?_⟩
    · exact reportsBy_append hsecond (reportsBy_append hfirst hrest)
    · rw [← List.append_assoc, ← List.append_assoc]
      exact List.perm_append_comm.append_right rest
  | trans _ _ first second =>
    obtain ⟨reports', h', hperm⟩ := first h
    obtain ⟨reports'', h'', hperm'⟩ := second h'
    exact ⟨reports'', h'', hperm.trans hperm'⟩

end

/-! ## What is kept of the reports -/

/-- Reports are kept file by file. -/
theorem map_filterMap_reportsBy {audit : String → Except FileError FileAudit} {tree : FileTree}
    {scope : DiscoveryScope} {paths : List String} (keep : Report → Option Report) :
    (reportsBy audit tree scope paths).map (List.filterMap keep) =
      (tree.sources scope paths).bind fun files =>
        (files.mapM audit).map (List.filterMap fun audited => keep audited.report) := by
  unfold reportsBy
  cases tree.sources scope paths with
  | error e => rfl
  | ok files =>
    simp only [bind, Except.bind]
    cases files.mapM audit with
    | error e => rfl
    | ok audits => exact congrArg Except.ok List.filterMap_map

/-- Trees in which the same files are discovered have the same sources. -/
theorem sources_congr {tree tree' : FileTree} {scope : DiscoveryScope}
    (h : ∀ path, tree'.discover scope path = tree.discover scope path) (paths : List String) :
    tree'.sources scope paths = tree.sources scope paths := by
  unfold FileTree.sources
  rw [funext h]

/-- Two runs that find the same files and agree on what is kept of the report on each file agree on
what is kept of all reports. -/
theorem reportsBy_filterMap {audit audit' : String → Except FileError FileAudit}
    {tree tree' : FileTree} {scope : DiscoveryScope} {keep : Report → Option Report}
    (hdiscover : ∀ path, tree'.discover scope path = tree.discover scope path)
    (haudit : ∀ path, (audit' path).map (fun audited => keep audited.report) =
      (audit path).map fun audited => keep audited.report) (paths : List String) :
    (reportsBy audit' tree' scope paths).map (List.filterMap keep) =
      (reportsBy audit tree scope paths).map (List.filterMap keep) := by
  rw [map_filterMap_reportsBy, map_filterMap_reportsBy, sources_congr hdiscover]
  simp only [map_filterMap_mapM haudit]

/-! ## One file met otherwise -/

/-- The reports of a run on paths that do not lead to a place. -/
def Run.reportsApart (run : Run) (tree : FileTree) (place : List String) : List Report :=
  run.reports.filter fun r => !tree.leadsTo place r.filePath

/-- The report, if it is on a path that does not lead to a place. -/
def Report.apart? (tree : FileTree) (place : List String) : Report → Option Report :=
  Option.guard fun r => !tree.leadsTo place r.filePath

/-- The reports of a run apart from a file are those on the other files, by risk. -/
theorem map_reportsApart_runBy {audit : String → Except FileError FileAudit} {tree tree' : FileTree}
    {scope : DiscoveryScope} {paths : List String} (place : List String) :
    (runBy audit tree' scope paths).map (·.reportsApart tree place) =
      ((reportsBy audit tree' scope paths).map (List.filterMap (Report.apart? tree place))).map
        byRisk := by
  unfold Run.reportsApart Report.apart?
  rw [runBy_eq, map_map, map_map, List.filterMap_eq_filter]
  congr 1
  funext reports
  exact (byRisk_filter reports _).symm

/-- The audit of a file where the read or the analysis of the file at a place fails. -/
def AuditPlan.auditFileFailing (plan : AuditPlan) (tree : FileTree) (place : List String)
    (notes : String → List Note) (message path : String) : Except FileError FileAudit :=
  if tree.leadsTo place path then .ok { notes := notes path, report := .failed path message }
  else plan.auditFile tree path

/-- A file of the given bytes makes its audit fail, with notes and a message: it is too long to be
read, or its analysis breaks down. -/
inductive AuditPlan.FailsOver (plan : AuditPlan) (content : List UInt8) :
    (String → List Note) → String → Prop
  | tooLong (size : sourceSizeLimit < content.length) :
      plan.FailsOver content (fun path => [.skippedLarge path content.length])
        "Could not read file"
  | brokenDown {e : ScanFault} (size : content.length ≤ sourceSizeLimit)
      (scan : (plan.catalog.scan plan.now (Text.Utf8.decodeLossy content)).findings = .error e) :
      plan.FailsOver content
        (fun path => (plan.catalog.scan plan.now (Text.Utf8.decodeLossy content)).notes ++
          [.failedAnalysis path e.message]) e.message

section

variable {plan : AuditPlan} {tree : FileTree} {place : List String} {path : String}

/-- A path that leads to a place has no null character. -/
theorem FileTree.holdsNull_of_leadsTo (h : tree.leadsTo place path = true) :
    Path.holdsNull path = false := by
  cases hnull : Path.holdsNull path with
  | false => rfl
  | true =>
    unfold FileTree.leadsTo at h
    rw [FileTree.entry_eq_nullInPath_iff.2 hnull] at h
    cases h

/-- Whatever comes of a file, nothing is kept of its report among those of other files. -/
theorem map_apart?_of_leadsTo {tree' : FileTree} (h : tree.leadsTo place path = true) :
    (plan.auditFile tree' path).map (fun audited => audited.report.apart? tree place) =
      .ok none := by
  cases haudit : plan.auditFile tree' path with
  | error e =>
    have hnull := (AuditPlan.holdsNull_of_auditFile haudit).1
    rw [FileTree.holdsNull_of_leadsTo h] at hnull
    cases hnull
  | ok audited =>
    have hpath := (AuditPlan.auditFile_report haudit).2
    simp [Except.map, Report.apart?, Option.guard, hpath, h]

/-- A file with another content changes nothing in the audit of a path that leads elsewhere. -/
theorem auditFile_put_file {content : List UInt8}
    (hfile : tree.root.at? place = some (.file content)) (other : List UInt8)
    (hpath : tree.leadsTo place path = false) :
    plan.auditFile (tree.put place (.file other)) path = plan.auditFile tree path := by
  unfold AuditPlan.auditFile
  rw [FileTree.readSource_put_file hfile other hpath]

/-- A file with another content leaves the reports on other paths as they are. -/
theorem reportsApart_put_file {content : List UInt8}
    (hfile : tree.root.at? place = some (.file content)) (other : List UInt8)
    (scope : DiscoveryScope) (paths : List String) :
    (plan.runOver (tree.put place (.file other)) scope paths).map (·.reportsApart tree place) =
      (plan.runOver tree scope paths).map (·.reportsApart tree place) := by
  rw [AuditPlan.runOver_eq, AuditPlan.runOver_eq, map_reportsApart_runBy,
    map_reportsApart_runBy]
  congr 1
  apply reportsBy_filterMap (FileTree.discover_put_file hfile other scope)
  intro path
  cases hpath : tree.leadsTo place path with
  | true => rw [map_apart?_of_leadsTo hpath, map_apart?_of_leadsTo hpath]
  | false => rw [auditFile_put_file hfile other hpath]

/-- A file whose new content makes its audit fail is audited as one that fails. -/
theorem auditFile_put_file_of_failsOver {content other : List UInt8} {notes : String → List Note}
    {message : String} (hne : place ≠ []) (hfile : tree.root.at? place = some (.file content))
    (hfails : plan.FailsOver other notes message) (path : String) :
    plan.auditFile (tree.put place (.file other)) path =
      plan.auditFileFailing tree place notes message path := by
  unfold AuditPlan.auditFileFailing
  cases hpath : tree.leadsTo place path with
  | false => exact auditFile_put_file hfile other hpath
  | true =>
    have hread := FileTree.readSource_of_contentAt
      (FileTree.contentAt_put_file_self hfile other hne hpath)
    rw [AuditPlan.auditFile, hread, if_pos rfl]
    cases hfails with
    | tooLong hsize =>
      rw [if_pos hsize]
      rfl
    | @brokenDown e hsize hscan =>
      have hreport : (plan.audit path (Text.Utf8.decodeLossy other)).report = .error e :=
        map_eq_error_iff.2 hscan
      rw [if_neg (Nat.not_lt.2 hsize), Except.map, AuditPlan.auditRead]
      simp only [hreport]
      rfl

/-- A run over a tree in which one file has a content that makes its audit fail is a run in which
the audit of that file fails. -/
theorem runOver_put_file_of_failsOver {content other : List UInt8} {notes : String → List Note}
    {message : String} (hne : place ≠ []) (hfile : tree.root.at? place = some (.file content))
    (hfails : plan.FailsOver other notes message) (scope : DiscoveryScope) (paths : List String) :
    plan.runOver (tree.put place (.file other)) scope paths =
      runBy (plan.auditFileFailing tree place notes message) tree scope paths := by
  have haudit := funext (auditFile_put_file_of_failsOver hne hfile hfails)
  have hsources := sources_congr (FileTree.discover_put_file hfile other scope) paths
  rw [AuditPlan.runOver_eq, haudit]
  unfold runBy
  rw [hsources]

/-- A file whose read or analysis fails leaves the reports on other paths as they are. -/
theorem reportsApart_failing (notes : String → List Note) (message : String)
    (scope : DiscoveryScope) (paths : List String) :
    (runBy (plan.auditFileFailing tree place notes message) tree scope paths).map
        (·.reportsApart tree place) =
      (plan.runOver tree scope paths).map (·.reportsApart tree place) := by
  rw [AuditPlan.runOver_eq, map_reportsApart_runBy, map_reportsApart_runBy]
  congr 1
  apply reportsBy_filterMap fun _ => rfl
  intro path
  unfold AuditPlan.auditFileFailing
  cases hpath : tree.leadsTo place path with
  | true =>
    rw [map_apart?_of_leadsTo hpath]
    simp [Except.map, Report.apart?, Option.guard, Report.failed, hpath]
  | false => simp

end

/-! ## A run at another time -/

/-- A run without the ids of its findings. -/
def Run.withoutIds (run : Run) : Run :=
  { run with reports := run.reports.map Report.withoutIds }

/-- A run without ids is the run over the reports without ids. -/
theorem Run.withoutIds_ofReports (reports : List Report) :
    (Run.ofReports reports).withoutIds = .ofReports (reports.map Report.withoutIds) := by
  have hfindings : (reports.map Report.withoutIds).flatMap (·.findings) =
      (reports.flatMap (·.findings)).map Finding.withoutId := by
    rw [List.flatMap_map, List.map_flatMap]
    rfl
  have hsorted : byRisk (reports.map Report.withoutIds) =
      (byRisk reports).map Report.withoutIds := by
    symm
    apply List.map_mergeSort
    intro a _ b _
    rfl
  rw [Run.ofReports_eq, Run.ofReports_eq, hfindings, hsorted]
  simp only [Run.withoutIds, tallyUnder, List.length_map, countOf_withoutId, List.countP_map]
  rfl

/-- Up to ids, the report on what is read does not depend on when the clock is read. -/
theorem AuditPlan.auditRead_withoutIds {plan : AuditPlan} {now : Binary64}
    (hplan : Clock.Shows plan.now) (hnow : Clock.Shows now) (path : String) (source : SourceRead) :
    (AuditPlan.auditRead { plan with now } path source).report.withoutIds =
      (plan.auditRead path source).report.withoutIds := by
  unfold AuditPlan.auditRead
  cases source.text with
  | none => rfl
  | some text =>
    have hsame := plan.audit_report_withoutIds_eq hplan hnow path text
    cases hreport : (plan.audit path text).report with
    | error e =>
      rw [hreport] at hsame
      simp only [map_eq_error_iff.1 hsame, hreport]
    | ok r =>
      rw [hreport] at hsame
      obtain ⟨r', hr', hids⟩ := map_eq_ok_iff.1 hsame
      simp only [hr', hreport]
      exact hids

/-- The time of a run shows in the ids of findings only. -/
theorem withoutIds_runOver {plan : AuditPlan} {now : Binary64} (hplan : Clock.Shows plan.now)
    (hnow : Clock.Shows now) (tree : FileTree) (scope : DiscoveryScope) (paths : List String) :
    (AuditPlan.runOver { plan with now } tree scope paths).map Run.withoutIds =
      (plan.runOver tree scope paths).map Run.withoutIds := by
  have hreports : ∀ audit : String → Except FileError FileAudit,
      (runBy audit tree scope paths).map Run.withoutIds =
        ((reportsBy audit tree scope paths).map
          (List.filterMap fun r => some r.withoutIds)).map .ofReports := by
    intro audit
    rw [runBy_eq, map_map, map_map]
    congr 1
    funext reports
    simp [Run.withoutIds_ofReports]
  rw [AuditPlan.runOver_eq, AuditPlan.runOver_eq, hreports, hreports]
  congr 1
  apply reportsBy_filterMap fun _ => rfl
  intro path
  unfold AuditPlan.auditFile
  rw [map_map, map_map]
  congr 1
  funext source
  exact congrArg some (AuditPlan.auditRead_withoutIds hplan hnow path source)

/-! ## Independence -/

/-- A plan audits the files of a tree independently. Paths that are audited together give the
reports and the sums of numbers of the paths audited apart; their order shows in the order of equal
risks only; a file with another content, or one whose read or analysis fails, leaves the reports on
paths that do not lead to it as they are; one fails when its content is too long or makes a search
break down; and at another time only ids differ. -/
structure AuditPlan.AuditsIndependently (plan : AuditPlan) (tree : FileTree)
    (scope : DiscoveryScope) : Prop where
  together : ∀ paths others first second, plan.runOver tree scope paths = .ok first →
    plan.runOver tree scope others = .ok second →
      ∃ run, plan.runOver tree scope (paths ++ others) = .ok run ∧ run.Joins first second
  apart : ∀ paths others run, plan.runOver tree scope (paths ++ others) = .ok run →
    (∃ first, plan.runOver tree scope paths = .ok first) ∧
      ∃ second, plan.runOver tree scope others = .ok second
  reordered : ∀ paths others run, paths.Perm others → plan.runOver tree scope paths = .ok run →
    ∃ run', plan.runOver tree scope others = .ok run' ∧ run'.SameButForOrder run
  contentOne : ∀ place content, tree.root.at? place = some (.file content) →
    ∀ other path, tree.leadsTo place path = false →
      plan.auditFile (tree.put place (.file other)) path = plan.auditFile tree path
  content : ∀ place content, tree.root.at? place = some (.file content) → ∀ other paths,
    (plan.runOver (tree.put place (.file other)) scope paths).map (·.reportsApart tree place) =
      (plan.runOver tree scope paths).map (·.reportsApart tree place)
  failing : ∀ place notes message paths,
    (runBy (plan.auditFileFailing tree place notes message) tree scope paths).map
        (·.reportsApart tree place) =
      (plan.runOver tree scope paths).map (·.reportsApart tree place)
  caused : ∀ place content, place ≠ [] → tree.root.at? place = some (.file content) →
    ∀ other notes message, plan.FailsOver other notes message → ∀ paths,
      plan.runOver (tree.put place (.file other)) scope paths =
        runBy (plan.auditFileFailing tree place notes message) tree scope paths
  timeless : ∀ now, Clock.Shows plan.now → Clock.Shows now → ∀ paths,
    (AuditPlan.runOver { plan with now } tree scope paths).map Run.withoutIds =
      (plan.runOver tree scope paths).map Run.withoutIds

/-- Files are audited independently, whatever the plan, the tree and the paths are. -/
theorem files_audited_independently (plan : AuditPlan) (tree : FileTree)
    (scope : DiscoveryScope) : plan.AuditsIndependently tree scope := by
  constructor
  case together =>
    intro paths others first second hfirst hsecond
    rw [AuditPlan.runOver_eq, runBy_eq] at hfirst hsecond ⊢
    obtain ⟨reports, hreports, rfl⟩ := map_eq_ok_iff.1 hfirst
    obtain ⟨later, hlater, rfl⟩ := map_eq_ok_iff.1 hsecond
    exact ⟨_, map_eq_ok_iff.2 ⟨_, reportsBy_append hreports hlater, rfl⟩,
      Run.joins_ofReports reports later⟩
  case apart =>
    intro paths others run hrun
    rw [AuditPlan.runOver_eq, runBy_eq] at hrun ⊢
    obtain ⟨reports, hreports, -⟩ := map_eq_ok_iff.1 hrun
    obtain ⟨⟨first, hfirst⟩, second, hsecond⟩ := exists_reportsBy_append_iff.1 ⟨_, hreports⟩
    rw [AuditPlan.runOver_eq, runBy_eq]
    exact ⟨⟨_, map_eq_ok_iff.2 ⟨first, hfirst, rfl⟩⟩, _, map_eq_ok_iff.2 ⟨second, hsecond, rfl⟩⟩
  case reordered =>
    intro paths others run hpaths hrun
    rw [AuditPlan.runOver_eq, runBy_eq] at hrun ⊢
    obtain ⟨reports, hreports, rfl⟩ := map_eq_ok_iff.1 hrun
    obtain ⟨reports', hreports', hperm⟩ := exists_reportsBy_perm hpaths hreports
    exact ⟨_, map_eq_ok_iff.2 ⟨reports', hreports', rfl⟩,
      Run.sameButForOrder_ofReports hperm.symm⟩
  case contentOne =>
    intro place content hfile other path hpath
    exact auditFile_put_file hfile other hpath
  case content =>
    intro place content hfile other paths
    exact reportsApart_put_file hfile other scope paths
  case failing =>
    intro place notes message paths
    exact reportsApart_failing notes message scope paths
  case caused =>
    intro place content hne hfile other notes message hfails paths
    exact runOver_put_file_of_failsOver hne hfile hfails scope paths
  case timeless =>
    intro now hplan hnow paths
    exact withoutIds_runOver hplan hnow tree scope paths

end TokenAudit
