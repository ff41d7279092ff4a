import TokenAudit.Display.Run
import TokenAudit.Proofs.FileTree.Single
import TokenAudit.Proofs.Run.Accounting

/-!
# Failures that a run shows

The audit of a file fails when the file is not read or its analysis breaks down, and its report then
carries the message of the failure and no summary. The number of errors and the display tell a
failure by its message, and an empty message is none to them: a run shows all its failures exactly
when no analysis broke down without a word. A rule whose search fails without a message is enough to
have a file shown as clean that was never analysed.
-/

set_option autoImplicit false

namespace TokenAudit

/-- The audit of a file fails with a message: the file is not read, or its analysis breaks down. -/
inductive AuditPlan.FailsWith (plan : AuditPlan) (tree : FileTree) (path : String) : String → Prop
  | unread {source : SourceRead} (hread : tree.readSource path = .ok source)
      (htext : source.text = none) : plan.FailsWith tree path "Could not read file"
  | brokenDown {source : SourceRead} {text : List Char} {e : ScanFault}
      (hread : tree.readSource path = .ok source) (htext : source.text = some text)
      (hfault : (plan.audit path text).report = .error e) : plan.FailsWith tree path e.message

/-- What is shown of a source without findings. -/
def Display.cleanItem : Display.Item :=
  .line (Display.styled "green" "  No known risky constructs detected.")

/-- A run shows its failures: it counts every report without a summary as an error and shows none of
them as clean, so that it shows as clean what was analysed without findings and nothing else. -/
structure Run.ShowsFailures (run : Run) : Prop where
  counted : run.errors = run.reports.countP (·.summary.isNone)
  notClean : ∀ verbose, ∀ r ∈ run.reports, r.summary = none →
    Display.cleanItem ∉ Display.reportItems verbose r
  clean : ∀ verbose, (Display.runItems verbose run).count Display.cleanItem =
    run.reports.countP fun r => r.summary.isSome && r.findings.isEmpty

/-! ## The report of a failure -/

/-- An error is shown of a report exactly when it has a message that is not empty. -/
theorem Report.showsError_iff {r : Report} :
    r.showsError = true ↔ ∃ message, r.error = some message ∧ message ≠ "" := by
  unfold showsError
  cases r.error with
  | none => simp
  | some message => simp

namespace Report.IsSound

variable {r : Report}

/-- A sound report is without a summary exactly when it has a message. -/
theorem summary_eq_none_iff (h : r.IsSound) :
    r.summary = none ↔ ∃ message, r.error = some message := by
  rcases h with ⟨path, message, rfl⟩ | ⟨path, text, findings, rfl⟩
  · simp [Report.failed]
  · simp [Report.ofFindings]

/-- Without a summary it has no findings. -/
theorem findings_eq_nil (h : r.IsSound) (hnone : r.summary = none) : r.findings = [] := by
  rcases h with ⟨path, message, rfl⟩ | ⟨path, text, findings, rfl⟩
  · rfl
  · cases hnone

/-- A report is taken for that of a failure exactly when it is one that has a message. -/
theorem showsError_iff_summary (h : r.IsSound) :
    r.showsError = true ↔ r.summary = none ∧ r.error ≠ some "" := by
  rw [Report.showsError_iff, h.summary_eq_none_iff]
  cases r.error with
  | none => simp
  | some message => simp

end Report.IsSound

namespace AuditPlan

variable {plan : AuditPlan} {tree : FileTree} {path message : String} {source : SourceRead}

/-- A file that is read fails with a message exactly when there is no text to it, or the audit of
the text breaks down with that message. -/
theorem failsWith_iff (hread : tree.readSource path = .ok source) :
    plan.FailsWith tree path message ↔
      (source.text = none ∧ message = "Could not read file") ∨
        ∃ text e, source.text = some text ∧ (plan.audit path text).report = .error e ∧
          message = e.message := by
  constructor
  · intro hfails
    cases hfails with
    | unread hother hnone =>
      cases hread.symm.trans hother
      exact .inl ⟨hnone, rfl⟩
    | brokenDown hother hsome hfault =>
      cases hread.symm.trans hother
      exact .inr ⟨_, _, hsome, hfault, rfl⟩
  · rintro (⟨hnone, rfl⟩ | ⟨text, e, hsome, hfault, rfl⟩)
    · exact .unread hread hnone
    · exact .brokenDown hread hsome hfault

/-- The report on what is read has a message in just these cases. -/
theorem auditRead_error_iff :
    (plan.auditRead path source).report.error = some message ↔
      (source.text = none ∧ message = "Could not read file") ∨
        ∃ text e, source.text = some text ∧ (plan.audit path text).report = .error e ∧
          message = e.message := by
  unfold auditRead
  cases htext : source.text with
  | none => simp [Report.failed, eq_comm]
  | some text =>
    cases hreport : (plan.audit path text).report with
    | ok r =>
      obtain ⟨findings, rfl⟩ := audit_report_eq hreport
      simp [hreport, Report.ofFindings]
    | error e => simp [hreport, Report.failed, eq_comm]

/-- The report on a file carries a message exactly when the audit of the file fails with it. -/
theorem auditFile_error_iff {audit : FileAudit} (h : plan.auditFile tree path = .ok audit) :
    audit.report.error = some message ↔ plan.FailsWith tree path message := by
  obtain ⟨source, hread, rfl⟩ := map_eq_ok_iff.1 h
  rw [auditRead_error_iff, failsWith_iff hread]

/-- The reports of a run are those on its files, each sound and by the path of its file. -/
theorem exists_auditFile_of_mem {scope : DiscoveryScope} {paths : List String}
    {audited : TreeAudit} (h : plan.auditTree tree scope paths = .ok audited) :
    ∃ reports, audited.run = .ofReports reports ∧ ∀ r ∈ reports, r.IsSound ∧
      ∃ audit, plan.auditFile tree r.filePath = .ok audit ∧ audit.report = r := by
  obtain ⟨found, audits, hfound, haudits, rfl⟩ := auditTree_eq_ok_iff.1 h
  refine ⟨audits.map (·.report), rfl, ?_⟩
  intro r hr
  obtain ⟨audit, haudit, rfl⟩ := List.mem_map.1 hr
  obtain ⟨path, -, hpath⟩ := exists_of_mem_mapM haudits haudit
  obtain ⟨hsound, hsame⟩ := auditFile_report hpath
  refine ⟨hsound, audit, ?_, rfl⟩
  rw [hsame]
  exact hpath

end AuditPlan

/-! ## What is shown as clean -/

namespace Display

/-- A line that ends otherwise is not that of a clean source. -/
theorem line_ne_cleanItem {markup : RawText}
    (h : markup.points.reverse.take 2 ≠ [']'.toNat, 'n'.toNat]) : Item.line markup ≠ cleanItem := by
  intro hsame
  apply h
  rw [Item.line.inj hsame]
  decide

/-- A line that ends in another way is not the line of a report without findings. -/
theorem line_append_ne_cleanItem (markup : RawText) {s : String}
    (h : ∀ points : List Nat, ((s.toList.map Char.toNat).reverse ++ points).take 2 ≠
      [']'.toNat, 'n'.toNat]) : Item.line (markup ++ RawText.ofString s) ≠ cleanItem := by
  apply line_ne_cleanItem
  rw [RawText.points_append, List.reverse_append]
  exact h _

/-- A source is shown as clean, once, when its report shows no error and has no findings. -/
theorem count_reportItems (verbose : Bool) (r : Report) :
    (reportItems verbose r).count cleanItem =
      if !r.showsError && r.findings.isEmpty then 1 else 0 := by
  have hfailed : ∀ markup : RawText, Item.line (markup ++ RawText.ofString "\n") ≠ cleanItem := by
    intro markup
    apply line_append_ne_cleanItem
    simp
  have hscore : ∀ (markup : RawText) (s : String),
      Item.line (markup ++ RawText.ofString (styled "dim" s)) ≠ cleanItem := by
    intro markup s
    apply line_append_ne_cleanItem
    simp [styled]
  have hend : Item.line (RawText.ofString "") ≠ cleanItem := by decide
  have hclean : Item.line (RawText.ofString (styled "green"
      "  No known risky constructs detected.")) = cleanItem := rfl
  have htable : ∀ t, Item.table t ≠ cleanItem := by
    intro t h
    cases h
  have hpanel : ∀ p, Item.panel p ≠ cleanItem := by
    intro p h
    cases h
  unfold reportItems
  cases r.showsError with
  | true => simp [hfailed]
  | false =>
    cases r.findings with
    | nil => cases r.summary <;> cases verbose <;> simp [hscore, hend, hclean, hpanel]
    | cons f rest => cases r.summary <;> cases verbose <;> simp [hscore, hend, htable, hpanel]

/-- That line is shown as often as there are reports without errors and findings. -/
theorem count_flatMap_reportItems (verbose : Bool) (reports : List Report) :
    (reports.flatMap (reportItems verbose)).count cleanItem =
      reports.countP fun r => !r.showsError && r.findings.isEmpty := by
  induction reports with
  | nil => rfl
  | cons r reports ih =>
    rw [List.flatMap_cons, List.count_append, ih, count_reportItems, List.countP_cons, Nat.add_comm]

/-- A run shows as clean as many sources as have a report that shows no error and no findings. -/
theorem count_runItems (verbose : Bool) (run : Run) :
    (runItems verbose run).count cleanItem =
      run.reports.countP fun r => !r.showsError && r.findings.isEmpty := by
  have hheader : ∀ markup : RawText, Item.line (markup ++ RawText.ofString "\n") ≠ cleanItem :=
    fun markup => line_append_ne_cleanItem markup (by simp)
  have hnone : ∀ markup : RawText, Item.line (markup ++
      RawText.ofString (styled "yellow" "No contract sources found.")) ≠ cleanItem :=
    fun markup => line_append_ne_cleanItem markup (by simp [styled])
  unfold runItems
  cases hreports : run.reports with
  | nil => simp [hnone]
  | cons r reports =>
    rw [← hreports, if_neg (by simp [hreports]), List.count_cons_of_ne (hheader _),
      count_flatMap_reportItems]

end Display

/-! ## Failures without a word -/

/-- A search for the first line breaks down as it does on some line. -/
theorem Probe.exists_search_of_firstLineFrom {probe : Probe} {number : Nat}
    {lines : List (List Char)} {b : Breakdown} (h : probe.firstLineFrom number lines = .error b) :
    ∃ line ∈ lines, probe.search line = .error b := by
  fun_induction Probe.firstLineFrom probe number lines with
  | case1 => cases h
  | case2 number line rest e hsearch =>
    cases h
    exact ⟨line, List.mem_cons_self, hsearch⟩
  | case3 => cases h
  | case4 number line rest hsearch ih =>
    obtain ⟨later, hlater, hbroken⟩ := ih h
    exact ⟨later, List.mem_cons_of_mem line hlater, hbroken⟩

/-- A rule breaks down on a text as its search does on some text. -/
theorem Rule.exists_search_of_hit? {rule : Rule} {stamp : Int} {text : List Char} {b : Breakdown}
    (h : rule.hit? stamp text = .error b) : ∃ part, rule.probe.search part = .error b := by
  unfold hit? at h
  cases hsearch : rule.probe.search text with
  | error e =>
    rw [hsearch] at h
    cases h
    exact ⟨text, hsearch⟩
  | ok hits =>
    rw [hsearch] at h
    cases hits with
    | false => cases h
    | true =>
      cases hline : rule.probe.firstLine text with
      | error e =>
        rw [hline] at h
        cases h
        obtain ⟨line, -, hbroken⟩ := Probe.exists_search_of_firstLineFrom hline
        exact ⟨line, hbroken⟩
      | ok line =>
        rw [hline] at h
        cases h

/-- A sweep breaks down as the search of one of its rules does. -/
theorem exists_search_of_sweep {stamp : Int} {text : List Char} {rules : List Rule} {e : ScanFault}
    (h : (sweep stamp text rules).findings = .error e) :
    ∃ rule ∈ rules, ∃ part, rule.probe.search part = .error ⟨e.message⟩ := by
  induction rules with
  | nil => cases h
  | cons rule rules ih =>
    unfold sweep at h
    cases hhit : rule.hit? stamp text with
    | error b =>
      rw [hhit] at h
      cases h
      exact ⟨rule, List.mem_cons_self, Rule.exists_search_of_hit? hhit⟩
    | ok hit =>
      have hrest : (sweep stamp text rules).findings = .error e := by
        rw [hhit] at h
        cases hit with
        | none => exact h
        | some found => exact map_eq_error_iff.1 h
      obtain ⟨other, hother, hbroken⟩ := ih hrest
      exact ⟨other, List.mem_cons_of_mem rule hother, hbroken⟩

/-- No fault of the clock has an empty message. -/
theorem Clock.Fault.message_ne_empty (f : Clock.Fault) : f.message ≠ "" := by
  cases f with
  | noSuchYear year => simp [Clock.Fault.message]
  | _ => decide

/-- Only a rule that breaks down without a message can end an analysis without one. -/
theorem AuditPlan.exists_silent_rule {plan : AuditPlan} {tree : FileTree} {path : String}
    (h : plan.FailsWith tree path "") :
    ∃ rule ∈ plan.catalog.rules, ∃ part, rule.probe.search part = .error ⟨""⟩ := by
  generalize hmessage : "" = message at h
  cases h with
  | unread => exact absurd hmessage (by decide)
  | @brokenDown source text e hread htext hfault =>
    have hscan : (plan.catalog.scan plan.now text).findings = .error e := map_eq_error_iff.1 hfault
    unfold Catalog.scan at hscan
    split at hscan
    · cases hscan
    · split at hscan
      · next fault hclock =>
        cases hscan
        exact absurd hmessage.symm fault.message_ne_empty
      · next stamp hclock =>
        exact exists_search_of_sweep hscan

/-! ## Which failures are shown -/

namespace Run

variable {reports : List Report}

/-- The errors of a run are the reports of which an error is shown. -/
theorem errors_ofReports :
    (Run.ofReports reports).errors = (Run.ofReports reports).reports.countP Report.showsError := by
  have hcount := (byRisk_perm reports).countP_eq Report.showsError
  exact congrArg Nat.cast hcount.symm

/-- Over sound reports a run shows its failures exactly when none of them has an empty message. -/
theorem showsFailures_iff (hreports : ∀ r ∈ reports, r.IsSound) :
    (Run.ofReports reports).ShowsFailures ↔
      ∀ r ∈ (Run.ofReports reports).reports, r.error ≠ some "" := by
  have hsound : ∀ r ∈ (Run.ofReports reports).reports, r.IsSound := by
    intro r hr
    exact hreports r ((byRisk_perm reports).mem_iff.1 hr)
  constructor
  · intro hrun r hr hsilent
    have hnone := (hsound r hr).summary_eq_none_iff.2 ⟨"", hsilent⟩
    have hhidden : r.showsError = false := by
      rw [Bool.eq_false_iff]
      intro hshown
      exact ((hsound r hr).showsError_iff_summary.1 hshown).2 hsilent
    apply hrun.notClean false r hr hnone
    rw [← List.count_pos_iff, Display.count_reportItems, hhidden,
      (hsound r hr).findings_eq_nil hnone]
    decide
  · intro hspoken
    have hshown : ∀ r ∈ (Run.ofReports reports).reports, r.showsError = r.summary.isNone := by
      intro r hr
      rw [Bool.eq_iff_iff, (hsound r hr).showsError_iff_summary, Option.isNone_iff_eq_none]
      exact and_iff_left (hspoken r hr)
    constructor
    case counted =>
      rw [errors_ofReports]
      congr 1
      apply List.countP_congr
      intro r hr
      rw [hshown r hr]
    case notClean =>
      intro verbose r hr hnone
      rw [← List.count_eq_zero, Display.count_reportItems, hshown r hr, hnone]
      rfl
    case clean =>
      intro verbose
      rw [Display.count_runItems]
      apply List.countP_congr
      intro r hr
      rw [hshown r hr, Option.not_isNone]

end Run

/-- What a run reports without a summary is what it could not read or analyse. It shows all of that
as failures exactly when no analysis broke down without a message, and so in particular when every
rule whose search breaks down says why. -/
theorem failures_shown_iff {plan : AuditPlan} {tree : FileTree} {scope : DiscoveryScope}
    {paths : List String} {audited : TreeAudit}
    (h : plan.auditTree tree scope paths = .ok audited) :
    (∀ r ∈ audited.run.reports,
      r.summary = none ↔ ∃ message, plan.FailsWith tree r.filePath message) ∧
    (audited.run.ShowsFailures ↔
      ∀ r ∈ audited.run.reports, ¬ plan.FailsWith tree r.filePath "") ∧
    ((∀ rule ∈ plan.catalog.rules, ∀ part, rule.probe.search part ≠ .error ⟨""⟩) →
      audited.run.ShowsFailures) := by
  obtain ⟨reports, hrun, hreports⟩ := AuditPlan.exists_auditFile_of_mem h
  have hmem : ∀ r ∈ audited.run.reports, r ∈ reports := by
    intro r hr
    rw [hrun] at hr
    exact (byRisk_perm reports).mem_iff.1 hr
  have herror : ∀ r ∈ audited.run.reports, ∀ message,
      r.error = some message ↔ plan.FailsWith tree r.filePath message := by
    intro r hr message
    obtain ⟨-, audit, haudit, hsame⟩ := hreports r (hmem r hr)
    rw [← AuditPlan.auditFile_error_iff haudit, hsame]
  have hshows : audited.run.ShowsFailures ↔
      ∀ r ∈ audited.run.reports, ¬ plan.FailsWith tree r.filePath "" := by
    have hspoken := Run.showsFailures_iff fun r hr => (hreports r hr).1
    rw [← hrun] at hspoken
    rw [hspoken]
    apply forall₂_congr
    intro r hr
    exact not_congr (herror r hr "")
  refine ⟨?_, hshows, ?_⟩
  · intro r hr
    rw [(hreports r (hmem r hr)).1.summary_eq_none_iff]
    exact exists_congr (herror r hr)
  · intro hrules
    rw [hshows]
    intro r hr hsilent
    obtain ⟨rule, hrule, part, hbroken⟩ := AuditPlan.exists_silent_rule hsilent
    exact hrules rule hrule part hbroken

/-- A plan with one rule, whose search breaks down with a message wherever an `x` stands. -/
def breakingPlan (message : String) : AuditPlan where
  catalog :=
    { rules := [
        { key := "breaking", probe := .breaking ['x'] message, severity := .high,
          description := "Broken.", solution := "None." }]
      distinct := rfl }
  severity := .low
  now := .zero

/-- A working folder with one source, which holds an `x`. -/
def crossedTree : FileTree where
  root := .folder [("work", .folder [("a.sol", .file [120])])]
  workingFolder := ["work"]

/-- The tree has one source in its working folder. -/
theorem crossedTree_eq : crossedTree = .single "a.sol" [120] := rfl

/-- The path leads to the source. -/
theorem crossedTree_entry :
    crossedTree.entry "a.sol" = .ok (["work", "a.sol"], .file [120]) := by
  rw [crossedTree_eq]
  exact FileTree.entry_single (by decide)

/-- The source is read as its text. -/
theorem crossedTree_readSource :
    crossedTree.readSource "a.sol" = .ok { notes := [], text := some ['x'] } := by
  have htext : Text.Utf8.decodeLossy [120] = ['x'] := by decide
  rw [crossedTree_eq, FileTree.readSource_single (by decide) (by decide), htext]

/-- The search of the one rule breaks down with the message. -/
theorem breakingPlan_audit (message : String) :
    ((breakingPlan message).audit "a.sol" ['x']).report = .error (.search ⟨message⟩) := by
  have hzero : Clock.milliseconds .zero = .ok 0 := by decide +kernel
  have hclock : Clock.milliseconds (breakingPlan message).now = .ok 0 := hzero
  unfold AuditPlan.audit Catalog.scan
  simp only [hclock]
  rfl

/-- So the file fails with it. -/
theorem breakingPlan_failsWith (message : String) :
    (breakingPlan message).FailsWith crossedTree "a.sol" message :=
  .brokenDown crossedTree_readSource rfl (breakingPlan_audit message)

/-- The run over the one source reports that its analysis broke down. -/
theorem exists_auditTree_breakingPlan (message : String) (scope : DiscoveryScope) :
    ∃ audited, (breakingPlan message).auditTree crossedTree scope ["a.sol"] = .ok audited ∧
      audited.run = .ofReports [.failed "a.sol" message] := by
  have hfound : ["a.sol"].mapM (crossedTree.discover scope) = .ok [["a.sol"]] := by
    unfold FileTree.discover
    simp [crossedTree_entry, bind, Except.bind, pure, Except.pure]
  have haudit : (breakingPlan message).auditFile crossedTree "a.sol" =
      .ok ((breakingPlan message).auditRead "a.sol" { notes := [], text := some ['x'] }) := by
    rw [AuditPlan.auditFile, crossedTree_readSource]
    rfl
  have hreport : ((breakingPlan message).auditRead "a.sol"
      { notes := [], text := some ['x'] }).report = .failed "a.sol" message := by
    unfold AuditPlan.auditRead
    simp only [breakingPlan_audit]
    rfl
  have haudits : [["a.sol"]].flatten.mapM ((breakingPlan message).auditFile crossedTree) =
      .ok [(breakingPlan message).auditRead "a.sol" { notes := [], text := some ['x'] }] := by
    simp [haudit, bind, Except.bind, pure, Except.pure]
  refine ⟨_, AuditPlan.auditTree_eq_ok_iff.2 ⟨_, _, hfound, haudits, rfl⟩, ?_⟩
  rw [List.map_singleton, hreport]

/-- A breakdown that says why is shown: the run counts one error, and shows nothing as clean. -/
theorem failures_shown_iff_boom :
    ∃ audited, (breakingPlan "boom").auditTree crossedTree ⟨defaultExtensions, defaultExcluded⟩
        ["a.sol"] = .ok audited ∧
      audited.run.ShowsFailures := by
  obtain ⟨audited, hresult, -⟩ :=
    exists_auditTree_breakingPlan "boom" ⟨defaultExtensions, defaultExcluded⟩
  refine ⟨audited, hresult, ?_⟩
  apply (failures_shown_iff hresult).2.2
  intro rule hrule part
  cases List.mem_singleton.1 hrule
  simp only [Probe.breaking, Probe.search]
  split <;> simp

/-- A breakdown without a message is shown as a clean source and not counted as an error. -/
theorem silent_failure_shown_clean :
    ∃ audited, (breakingPlan "").auditTree crossedTree ⟨defaultExtensions, defaultExcluded⟩
        ["a.sol"] = .ok audited ∧
      (breakingPlan "").FailsWith crossedTree "a.sol" "" ∧
      audited.run.errors = 0 ∧ audited.run.reports.countP (·.summary.isNone) = 1 ∧
      Display.cleanItem ∈ Display.runItems false audited.run ∧ ¬ audited.run.ShowsFailures := by
  obtain ⟨audited, hresult, hrun⟩ :=
    exists_auditTree_breakingPlan "" ⟨defaultExtensions, defaultExcluded⟩
  have hreports : audited.run.reports = [.failed "a.sol" ""] := by
    rw [hrun]
    exact List.mergeSort_singleton _
  have hcount : audited.run.reports.countP (·.summary.isNone) = 1 := by
    rw [hreports]
    rfl
  have herrors : audited.run.errors = 0 := by
    rw [hrun]
    rfl
  refine ⟨audited, hresult, breakingPlan_failsWith "", herrors, hcount, ?_, ?_⟩
  · rw [← List.count_pos_iff, Display.count_runItems, hreports]
    decide
  · intro hshows
    have hcounted := hshows.counted
    rw [herrors, hcount] at hcounted
    cases hcounted

end TokenAudit
