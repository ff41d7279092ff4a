import TokenAudit.Audit
import TokenAudit.Proofs.Scan.Reports

/-!
# Audits up to the ids of their findings

The id of a finding holds the time at which it was found, and nothing else in an audit depends on
the time. So two audits of a text by one plan at different times give the same report once the ids
are left out.
-/

set_option autoImplicit false

namespace TokenAudit

/-- A finding without its id. -/
def Finding.withoutId (f : Finding) : Finding :=
  { f with id := "" }

/-- A report without the ids of its findings. -/
def Report.withoutIds (r : Report) : Report :=
  { r with findings := r.findings.map Finding.withoutId }

/-- The weight of findings does not depend on their ids. -/
theorem totalWeight_withoutId (findings : List Finding) :
    totalWeight (findings.map Finding.withoutId) = totalWeight findings := by
  unfold totalWeight
  rw [List.foldr_map]
  rfl

/-- Neither does their number by severity. -/
theorem countOf_withoutId (severity : Grade) (findings : List Finding) :
    countOf severity (findings.map Finding.withoutId) = countOf severity findings := by
  unfold countOf
  rw [List.countP_map]
  rfl

/-- The summary of a source does not depend on the ids of its findings. -/
theorem summarize_withoutId (text : List Char) (findings : List Finding) :
    summarize text (findings.map Finding.withoutId) = summarize text findings := by
  have hscore : score (findings.map Finding.withoutId) = score findings := by
    unfold score
    rw [totalWeight_withoutId]
  have htally : severityTally (findings.map Finding.withoutId) = severityTally findings := by
    unfold severityTally
    simp only [countOf_withoutId]
  have hrisks : (findings.map Finding.withoutId).map (·.description) =
      findings.map (·.description) := by
    rw [List.map_map]
    rfl
  unfold summarize
  rw [hscore, htally, hrisks]

/-- A report without ids is the report on the findings without ids. -/
theorem Report.withoutIds_ofFindings (filePath : String) (text : List Char)
    (findings : List Finding) :
    (Report.ofFindings filePath text findings).withoutIds =
      .ofFindings filePath text (findings.map Finding.withoutId) := by
  unfold Report.ofFindings Report.withoutIds
  rw [summarize_withoutId]
  unfold score
  rw [totalWeight_withoutId]

/-- Up to ids, what the rules find does not depend on the stamp. -/
theorem sweep_findings_withoutId (stamp stamp' : Int) (text : List Char) (rules : List Rule) :
    (sweep stamp text rules).findings.map (List.map Finding.withoutId) =
      (sweep stamp' text rules).findings.map (List.map Finding.withoutId) := by
  induction rules with
  | nil => rfl
  | cons rule rules ih =>
    unfold sweep Rule.hit?
    cases rule.probe.search text with
    | error b => rfl
    | ok hits =>
      cases hits with
      | false => exact ih
      | true =>
        cases rule.probe.firstLine text with
        | error b => rfl
        | ok line =>
          -- without ids, what comes first does not depend on the time, and the rest is as before
          have hfinding : (rule.finding stamp line).withoutId =
              (rule.finding stamp' line).withoutId := rfl
          have hsplit (finding : Finding) (later : Except ScanFault (List Finding)) :
              (later.map (finding :: ·)).map (List.map Finding.withoutId) =
                (later.map (List.map Finding.withoutId)).map (finding.withoutId :: ·) := by
            rw [map_map, map_map]
            rfl
          simp only [bind, Except.bind, pure, Except.pure, if_true]
          rw [hsplit, hsplit, ih, hfinding]

/-- Up to ids, what a scan finds does not depend on when the clock is read, if it can be read at
all. -/
theorem Catalog.scan_findings_withoutId (catalog : Catalog) {now now' : Binary64}
    (hnow : Clock.Shows now) (hnow' : Clock.Shows now') (text : List Char) :
    (catalog.scan now text).findings.map (List.map Finding.withoutId) =
      (catalog.scan now' text).findings.map (List.map Finding.withoutId) := by
  obtain ⟨stamp, hstamp⟩ := hnow
  obtain ⟨stamp', hstamp'⟩ := hnow'
  unfold Catalog.scan
  by_cases hempty : text.isEmpty = true
  · rw [if_pos hempty, if_pos hempty]
  · rw [if_neg hempty, if_neg hempty, hstamp, hstamp']
    exact sweep_findings_withoutId stamp stamp' text catalog.rules

/-- Without ids, the report on a text is made of what the scan finds without ids. -/
theorem AuditPlan.audit_report_withoutIds (plan : AuditPlan) (filePath : String)
    (text : List Char) :
    (plan.audit filePath text).report.map Report.withoutIds =
      ((plan.catalog.scan plan.now text).findings.map (List.map Finding.withoutId)).map fun fs =>
        .ofFindings filePath text (fs.filter fun f => plan.severity ≤ f.severity) := by
  simp only [audit, map_map, Report.withoutIds_ofFindings, List.filter_map]
  rfl

/-- Two audits by one plan at different times report the same, but for ids. -/
theorem AuditPlan.audit_report_withoutIds_eq (plan : AuditPlan) {now : Binary64}
    (hplan : Clock.Shows plan.now) (hnow : Clock.Shows now) (filePath : String)
    (text : List Char) :
    ((AuditPlan.audit { plan with now } filePath text).report.map Report.withoutIds) =
      (plan.audit filePath text).report.map Report.withoutIds := by
  rw [audit_report_withoutIds, audit_report_withoutIds]
  dsimp only
  rw [plan.catalog.scan_findings_withoutId hnow hplan]

/-- An audit by the built-in catalog gives a report, and the same one, but for ids, at every time
that the clock shows. -/
theorem audit_builtin_agree (severity : Grade) (filePath : String) (text : List Char)
    {now now' : Binary64} (hnow : Clock.Shows now) (hnow' : Clock.Shows now') :
    ∃ r r', (AuditPlan.audit ⟨builtinCatalog, severity, now⟩ filePath text).report = .ok r ∧
      (AuditPlan.audit ⟨builtinCatalog, severity, now'⟩ filePath text).report = .ok r' ∧
      r'.withoutIds = r.withoutIds := by
  have hgives {time : Binary64} (htime : Clock.Shows time) :
      ∃ r, (AuditPlan.audit ⟨builtinCatalog, severity, time⟩ filePath text).report = .ok r := by
    obtain ⟨fs, hfs⟩ := exists_builtinCatalog_scan htime text
    refine ⟨_, map_eq_ok_iff.2 ⟨fs, hfs, rfl⟩⟩
  obtain ⟨r, hr⟩ := hgives hnow
  obtain ⟨r', hr'⟩ := hgives hnow'
  have hsame := AuditPlan.audit_report_withoutIds_eq ⟨builtinCatalog, severity, now⟩ hnow hnow'
    filePath text
  rw [hr, hr'] at hsame
  exact ⟨r, r', hr, hr', Except.ok.inj hsame⟩

end TokenAudit
