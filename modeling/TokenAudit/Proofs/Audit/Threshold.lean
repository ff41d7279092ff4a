import TokenAudit.Proofs.Audit.Ids
import TokenAudit.Proofs.Score

/-!
# Audits at two thresholds

An audit drops the findings below the asked severity before it scores and summarizes the others. A
higher threshold drops what a lower one drops, so the findings it leaves are those of the lower one
from the higher severity on. What is said of findings, their score, tally and descriptions, follows
from that; what is said of the text does not depend on the threshold. Audits at two thresholds end
in the same way, whatever the catalog and the source.
-/

set_option autoImplicit false

namespace TokenAudit

variable {g g' : Grade}

/-! ## Findings from a severity on -/

/-- The findings of at least a severity. -/
def findingsFrom (g : Grade) (findings : List Finding) : List Finding :=
  findings.filter fun f => g ≤ f.severity

/-- Of two thresholds, one after the other, the higher decides. -/
theorem findingsFrom_findingsFrom (h : g ≤ g') (findings : List Finding) :
    findingsFrom g' (findingsFrom g findings) = findingsFrom g' findings := by
  unfold findingsFrom
  rw [List.filter_filter]
  apply List.filter_congr
  intro f _
  rw [← Bool.decide_and, decide_eq_decide]
  exact and_iff_left_of_imp fun hf => Grade.le_trans h hf

/-- A threshold drops findings and keeps the order of the others. -/
theorem findingsFrom_sublist (g : Grade) (findings : List Finding) :
    (findingsFrom g findings).Sublist findings :=
  List.filter_sublist

/-- It can be put before or after the ids are left out. -/
theorem map_withoutId_findingsFrom (g : Grade) (findings : List Finding) :
    (findingsFrom g findings).map Finding.withoutId =
      findingsFrom g (findings.map Finding.withoutId) := by
  unfold findingsFrom
  rw [List.filter_map]
  rfl

/-- A severity that is not dropped keeps its count, and one that is has none left. -/
theorem countOf_findingsFrom (g severity : Grade) (findings : List Finding) :
    countOf severity (findingsFrom g findings) =
      if g ≤ severity then countOf severity findings else 0 := by
  unfold countOf findingsFrom
  rw [List.countP_filter]
  split
  next hkept =>
    apply List.countP_congr
    intro f _
    simp only [Bool.and_eq_true, decide_eq_true_eq, and_iff_left_iff_imp]
    rintro rfl
    exact hkept
  next hdropped =>
    rw [List.countP_eq_zero]
    intro f _
    simp only [Bool.and_eq_true, decide_eq_true_eq, not_and]
    rintro rfl
    exact hdropped

/-! ## Reports -/

/-- A summary is another one, on the given findings, at a higher threshold: it counts and names the
findings from that severity on, and says the same of the text. -/
structure Summary.RaisedTo (g : Grade) (findings : List Finding) (s raised : Summary) : Prop where
  counts : ∀ severity : Grade, raised.vulnerabilities.count severity.label =
    if g ≤ severity then s.vulnerabilities.count severity.label else 0
  severities : raised.vulnerabilities.map (·.1) = s.vulnerabilities.map (·.1)
  riskScore : raised.riskScore ≤ s.riskScore
  keyRisks : s.keyRisks = findings.map (·.description) ∧
    raised.keyRisks = (findings.filter fun f => g ≤ f.severity).map (·.description)
  linesOfCode : raised.linesOfCode = s.linesOfCode
  commentRatio : raised.commentRatio = s.commentRatio
  codeQuality : raised.codeQuality = s.codeQuality
  systemOverview : raised.systemOverview = s.systemOverview
  privilegedRoles : raised.privilegedRoles = s.privilegedRoles

/-- A report is another one at a higher threshold: it lists the findings of the other from that
severity on, in their order, and scores and summarizes these. -/
structure Report.RaisedTo (g : Grade) (r raised : Report) : Prop where
  filePath : raised.filePath = r.filePath
  findings : raised.findings = r.findings.filter fun f => g ≤ f.severity
  riskScore : raised.riskScore ≤ r.riskScore
  unfailed : r.error = none ∧ raised.error = none
  summaries : ∃ s s', r.summary = some s ∧ raised.summary = some s' ∧
    s.RaisedTo g r.findings s'

/-- The summary of the findings from a threshold on is the summary of all, raised to it. -/
theorem Summary.raisedTo_summarize (g : Grade) (text : List Char) (findings : List Finding) :
    (summarize text findings).RaisedTo g findings (summarize text (findingsFrom g findings)) := by
  constructor
  case counts =>
    intro severity
    change (severityTally (findingsFrom g findings)).count severity.label =
      if g ≤ severity then (severityTally findings).count severity.label else 0
    rw [count_severityTally, count_severityTally, countOf_findingsFrom]
    split <;> rfl
  case riskScore => exact Int.ofNat_le.2 (score_le_of_sublist (findingsFrom_sublist g findings))
  case keyRisks => exact ⟨rfl, rfl⟩
  case severities | linesOfCode | commentRatio | codeQuality | systemOverview | privilegedRoles =>
    rfl

/-- Of the findings on a text, the report on those from a severity on is that on all of them at this
threshold. -/
theorem Report.raisedTo_ofFindings (g : Grade) (path : String) (text : List Char)
    (findings : List Finding) :
    (Report.ofFindings path text findings).RaisedTo g
      (Report.ofFindings path text (findingsFrom g findings)) := by
  constructor
  case filePath => rfl
  case findings => rfl
  case riskScore => exact Int.ofNat_le.2 (score_le_of_sublist (findingsFrom_sublist g findings))
  case unfailed => exact ⟨rfl, rfl⟩
  case summaries => exact ⟨_, _, rfl, rfl, Summary.raisedTo_summarize g text findings⟩

/-- The reports on what two thresholds leave of the same findings. -/
theorem Report.raisedTo_of_le (h : g ≤ g') (path : String) (text : List Char)
    (findings : List Finding) :
    (Report.ofFindings path text (findingsFrom g findings)).RaisedTo g'
      (Report.ofFindings path text (findingsFrom g' findings)) := by
  rw [← findingsFrom_findingsFrom h]
  exact raisedTo_ofFindings g' path text (findingsFrom g findings)

/-! ## Two audits -/

/-- Two audits of one source end in the same way: the source is no text, the scan breaks down by the
same fault, or there are two reports, and these are related. -/
inductive EndAlike (related : Report → Report → Prop) :
    Except NotText Audited → Except NotText Audited → Prop
  | noText (e : NotText) : EndAlike related (.error e) (.error e)
  | broken {a a' : Audited} {fault : ScanFault} (first : a.report = .error fault)
      (second : a'.report = .error fault) : EndAlike related (.ok a) (.ok a')
  | reported {a a' : Audited} {r r' : Report} (first : a.report = .ok r)
      (second : a'.report = .ok r') (relates : related r r') : EndAlike related (.ok a) (.ok a')

/-- A report holds those findings of the scan that reach the threshold. -/
theorem AuditPlan.audit_report (catalog : Catalog) (g : Grade) (now : Binary64) (path : String)
    (text : List Char) :
    (AuditPlan.audit ⟨catalog, g, now⟩ path text).report =
      (catalog.scan now text).findings.map fun fs => .ofFindings path text (findingsFrom g fs) :=
  rfl

/-- Under two thresholds the audit of a text ends alike, with the report under the higher one raised
to it. -/
theorem endAlike_audit (catalog : Catalog) (h : g ≤ g') (now : Binary64) (path : String)
    (text : List Char) :
    EndAlike (Report.RaisedTo g') (.ok (AuditPlan.audit ⟨catalog, g, now⟩ path text))
      (.ok (AuditPlan.audit ⟨catalog, g', now⟩ path text)) := by
  have hreport := fun severity => AuditPlan.audit_report catalog severity now path text
  cases hscan : (catalog.scan now text).findings with
  | error fault =>
    rw [hscan] at hreport
    exact .broken (hreport g) (hreport g')
  | ok fs =>
    rw [hscan] at hreport
    exact .reported (hreport g) (hreport g') (Report.raisedTo_of_le h path text fs)

/-- At two times the findings are the same but for their ids, so the reports are too. -/
theorem endAlike_audit_later (catalog : Catalog) (h : g ≤ g') {now now' : Binary64}
    (hnow : Clock.Shows now) (hnow' : Clock.Shows now') (path : String) (text : List Char) :
    EndAlike (fun r raised => r.withoutIds.RaisedTo g' raised.withoutIds)
      (.ok (AuditPlan.audit ⟨catalog, g, now⟩ path text))
      (.ok (AuditPlan.audit ⟨catalog, g', now'⟩ path text)) := by
  have hids := catalog.scan_findings_withoutId hnow hnow' text
  have hreport := AuditPlan.audit_report catalog g now path text
  have hreport' := AuditPlan.audit_report catalog g' now' path text
  cases hscan : (catalog.scan now text).findings with
  | error fault =>
    rw [hscan] at hids hreport
    rw [map_eq_error_iff.1 hids.symm] at hreport'
    exact .broken hreport hreport'
  | ok fs =>
    rw [hscan] at hids hreport
    obtain ⟨fs', hfs', hsame⟩ := map_eq_ok_iff.1 hids.symm
    rw [hfs'] at hreport'
    refine .reported hreport hreport' ?_
    rw [Report.withoutIds_ofFindings, Report.withoutIds_ofFindings, map_withoutId_findingsFrom,
      map_withoutId_findingsFrom, hsame]
    exact Report.raisedTo_of_le h path text (fs.map Finding.withoutId)

/-- Audits of one source by one catalog at two thresholds end alike, and where there are reports,
the one at the higher threshold has the findings of the other from that severity on, in their order:
the same counts for the severities that are left and none for the others, a score that is no higher,
the matching descriptions, and the same to say of the text. Audits at different times agree in this
but for the ids of findings. -/
theorem threshold_only_drops (catalog : Catalog) (h : g ≤ g') (path : String) (source : Datum)
    (now now' : Binary64) :
    EndAlike (Report.RaisedTo g') (AuditPlan.auditValue ⟨catalog, g, now⟩ path source)
      (AuditPlan.auditValue ⟨catalog, g', now⟩ path source) ∧
    (Clock.Shows now → Clock.Shows now' →
      EndAlike (fun r raised => r.withoutIds.RaisedTo g' raised.withoutIds)
        (AuditPlan.auditValue ⟨catalog, g, now⟩ path source)
        (AuditPlan.auditValue ⟨catalog, g', now'⟩ path source)) := by
  unfold AuditPlan.auditValue
  cases source.sourceText with
  | error e => exact ⟨.noText e, fun _ _ => .noText e⟩
  | ok text =>
    exact ⟨endAlike_audit catalog h now path text,
      fun hnow hnow' => endAlike_audit_later catalog h hnow hnow' path text⟩

/-- A line with constructs of all three severities. -/
def gradedSource : String :=
  "function mint() onlyOwner \x7b transferOwnership(a); pause(); \x7d"

/-- From the middle threshold to the highest, two of its three findings go, and so does their part
of the score. -/
theorem threshold_only_drops_gradedSource :
    Grade.medium ≤ .high ∧ Clock.Shows .zero ∧ Clock.Shows (.ofInt 1700000000) ∧
      EndAlike (fun r raised => r.withoutIds.RaisedTo .high raised.withoutIds)
        (AuditPlan.auditValue ⟨builtinCatalog, .medium, .zero⟩ "a.sol" (.text gradedSource))
        (AuditPlan.auditValue ⟨builtinCatalog, .high, .ofInt 1700000000⟩ "a.sol"
          (.text gradedSource)) ∧
      (AuditPlan.audit ⟨builtinCatalog, .medium, .zero⟩ "a.sol" gradedSource.toList).report.map
          (fun r => (r.findings.map (·.ruleKey), r.riskScore)) =
        .ok (["owner_privileges", "pausable_tokens", "minting_function"], 45) ∧
      (AuditPlan.audit ⟨builtinCatalog, .high, .ofInt 1700000000⟩ "a.sol"
          gradedSource.toList).report.map (fun r => (r.findings.map (·.ruleKey), r.riskScore)) =
        .ok (["minting_function"], 25) := by
  have hgrades : Grade.medium ≤ .high := by decide
  have hnow : Clock.Shows .zero := ⟨0, by decide +kernel⟩
  have hlater : Clock.Shows (.ofInt 1700000000) := ⟨1700000000000, by decide +kernel⟩
  obtain ⟨-, hends⟩ := threshold_only_drops builtinCatalog hgrades "a.sol" (.text gradedSource)
    .zero (.ofInt 1700000000)
  exact ⟨hgrades, hnow, hlater, hends hnow hlater, by decide +kernel, by decide +kernel⟩

end TokenAudit
