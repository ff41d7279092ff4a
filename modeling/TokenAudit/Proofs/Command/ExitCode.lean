import TokenAudit.Proofs.Command.Ending
import TokenAudit.Proofs.FileTree.Single
import TokenAudit.Proofs.Run.Coverage
import TokenAudit.Proofs.Scan.Reports
import TokenAudit.Proofs.Text.Encoding

/-!
# The exit code of an audit

An audit that runs to its end exits with one when a scan by the whole catalog finds something of
high severity in a source that was found and could be read, and with zero otherwise. No severity
that is asked for filters such a finding out, and what else is asked for does not count: details,
an export that is possible, and the order and repetition of the paths.
-/

set_option autoImplicit false

namespace TokenAudit

/-- A scan of a text by the whole built-in catalog finds something of high severity. -/
def FindsHigh (now : Binary64) (text : List Char) : Prop :=
  ∃ fs, (builtinCatalog.scan now text).findings = .ok fs ∧ ∃ f ∈ fs, f.severity = .high

/-- The paths stand for a source that can be read, and in which a scan finds something of high
severity. -/
def Situation.HasHighSource (s : Situation) (scope : DiscoveryScope) (paths : List String) : Prop :=
  ∃ file, s.tree.Discovers scope paths file ∧ ∃ source text,
    s.tree.readSource file = .ok source ∧ source.text = some text ∧ FindsHigh s.now text

/-! ## One source -/

/-- A scan finds something of high severity when the clock shows a time and the pattern of a rule of
high severity occurs. -/
theorem findsHigh_iff {now : Binary64} {text : List Char} :
    FindsHigh now text ↔ Clock.Shows now ∧ ∃ rule ∈ builtinRules, rule.severity = .high ∧
      ∃ ps, rule.probe = .pattern ps ∧ ps.occursIn text = true := by
  constructor
  · rintro ⟨fs, hscan, f, hf, hhigh⟩
    rcases Catalog.scan_findings hscan with ⟨-, rfl⟩ | ⟨stamp, hstamp, rfl⟩
    · cases hf
    · obtain ⟨rule, hrule, hfound⟩ := List.mem_filterMap.1 hf
      obtain ⟨hsearch, line, -, rfl⟩ := Rule.found?_eq_some_iff.1 hfound
      obtain ⟨ps, hps, -⟩ := builtinRules_patterns rule hrule
      rw [hps] at hsearch
      exact ⟨⟨stamp, hstamp⟩, rule, hrule, hhigh, ps, hps, Except.ok.inj hsearch⟩
  · rintro ⟨hshows, rule, hrule, hhigh, ps, hps, hoccurs⟩
    obtain ⟨fs, f, hscan, hf, -, hkey⟩ :=
      (builtinCatalog_reports_iff hrule hps).2 ⟨hshows, hoccurs, rfl⟩
    refine ⟨fs, hscan, f, hf, ?_⟩
    obtain ⟨stamp, line, -, -, rfl⟩ :=
      Catalog.found_of_mem_scan hscan hf hrule ((hkey f hf).2 rfl)
    exact hhigh

/-- What a scan finds of high severity does not depend on the time of the scan. -/
theorem findsHigh_congr {now now' : Binary64} (h : Clock.Shows now ↔ Clock.Shows now')
    (text : List Char) : FindsHigh now text ↔ FindsHigh now' text := by
  rw [findsHigh_iff, findsHigh_iff, h]

/-- Whatever severities are kept, a report lists a finding of high severity exactly when the source
was read and the unfiltered scan has one. -/
theorem exists_high_auditRead_iff {plan : AuditPlan} (hplan : plan.catalog = builtinCatalog)
    (path : String) (source : SourceRead) :
    (∃ f ∈ (plan.auditRead path source).report.findings, f.severity = .high) ↔
      ∃ text, source.text = some text ∧ FindsHigh plan.now text := by
  unfold AuditPlan.auditRead
  cases htext : source.text with
  | none => simp [Report.failed]
  | some text =>
    have hreport : (plan.audit path text).report =
        (builtinCatalog.scan plan.now text).findings.map fun fs =>
          .ofFindings path text (fs.filter fun f => plan.severity ≤ f.severity) := by
      rw [← hplan]
      rfl
    simp only [Option.some.injEq, exists_eq_left', hreport, FindsHigh]
    cases hscan : (builtinCatalog.scan plan.now text).findings with
    | error e => simp [Except.map, Report.failed]
    | ok fs =>
      simp only [Except.map, Report.ofFindings, List.mem_filter, Except.ok.injEq, exists_eq_left']
      constructor
      · rintro ⟨f, ⟨hf, -⟩, hhigh⟩
        exact ⟨f, hf, hhigh⟩
      · rintro ⟨f, hf, hhigh⟩
        refine ⟨f, ⟨hf, ?_⟩, hhigh⟩
        rw [hhigh, decide_eq_true_eq]
        exact Grade.le_high plan.severity

/-! ## The whole run -/

/-- The tally under the high heading is positive exactly when a report has a high finding. -/
theorem Run.count_high_pos_iff (reports : List Report) :
    0 < (Run.ofReports reports).severityCounts.count Grade.high.heading ↔
      ∃ r ∈ reports, ∃ f ∈ r.findings, f.severity = .high := by
  have hcount : (Run.ofReports reports).severityCounts.count Grade.high.heading =
      countOf .high ((byRisk reports).flatMap (·.findings)) := rfl
  rw [hcount, Int.natCast_pos, countOf, List.countP_pos_iff]
  simp only [List.mem_flatMap, decide_eq_true_eq]
  constructor
  · rintro ⟨f, ⟨r, hr, hf⟩, hhigh⟩
    exact ⟨r, (byRisk_perm reports).mem_iff.1 hr, f, hf, hhigh⟩
  · rintro ⟨r, hr, f, hf, hhigh⟩
    exact ⟨f, ⟨r, (byRisk_perm reports).mem_iff.2 hr, hf⟩, hhigh⟩

variable {s : Situation} {paths : List String} {extensions : Option (List String)}
  {severity : CommandLine.OptionValue} {audited : TreeAudit}

/-- An audit that is asked for is one by the built-in catalog, at the present time. -/
theorem auditAsked_eq_ok_iff :
    auditAsked s paths extensions severity = .ok audited ↔
      ∃ grade, askedSeverity severity = .ok grade ∧
        (AuditPlan.mk builtinCatalog grade s.now).auditTree s.tree (askedScope extensions) paths =
          .ok audited := by
  unfold auditAsked
  rw [bind_eq_ok_iff]
  simp only [mapError_eq_ok_iff]

/-- A severity can be taken unless its option was dropped. -/
theorem exists_askedSeverity_iff :
    (∃ grade, askedSeverity severity = .ok grade) ↔ severity ≠ .dropped := by
  cases severity <;> simp [askedSeverity]

/-- Whether an audit that is asked for succeeds depends on the paths and on what they stand for. -/
theorem exists_auditAsked_iff :
    (∃ audited, auditAsked s paths extensions severity = .ok audited) ↔
      severity ≠ .dropped ∧
      (∀ path ∈ paths, ∃ files, s.tree.discover (askedScope extensions) path = .ok files) ∧
        ∀ file, s.tree.Discovers (askedScope extensions) paths file →
          ∃ source, s.tree.readSource file = .ok source := by
  rw [← exists_askedSeverity_iff]
  constructor
  · rintro ⟨audited, h⟩
    obtain ⟨grade, hgrade, hresult⟩ := auditAsked_eq_ok_iff.1 h
    exact ⟨⟨grade, hgrade⟩, AuditPlan.exists_auditTree_iff.1 ⟨audited, hresult⟩⟩
  · rintro ⟨⟨grade, hgrade⟩, h⟩
    obtain ⟨audited, hresult⟩ := AuditPlan.exists_auditTree_iff.2 h
    exact ⟨audited, auditAsked_eq_ok_iff.2 ⟨grade, hgrade, hresult⟩⟩

/-- The tally of an audit under the high heading is positive exactly when a source has a high
finding. -/
theorem count_high_auditAsked_iff (h : auditAsked s paths extensions severity = .ok audited) :
    0 < audited.run.severityCounts.count Grade.high.heading ↔
      s.HasHighSource (askedScope extensions) paths := by
  obtain ⟨grade, -, hresult⟩ := auditAsked_eq_ok_iff.1 h
  obtain ⟨reports, hrun, hreports⟩ := AuditPlan.exists_reports hresult
  rw [hrun, Run.count_high_pos_iff]
  constructor
  · rintro ⟨r, hr, hhigh⟩
    obtain ⟨file, hfile, audit, haudit, rfl⟩ := (hreports r).1 hr
    obtain ⟨source, hread, rfl⟩ := map_eq_ok_iff.1 haudit
    obtain ⟨text, htext, hfinds⟩ := (exists_high_auditRead_iff rfl file source).1 hhigh
    exact ⟨file, hfile, source, text, hread, htext, hfinds⟩
  · rintro ⟨file, hfile, source, text, hread, htext, hfinds⟩
    refine ⟨_, (hreports _).2 ⟨file, hfile, _, map_eq_ok_iff.2 ⟨source, hread, rfl⟩, rfl⟩, ?_⟩
    exact (exists_high_auditRead_iff rfl file source).2 ⟨text, htext, hfinds⟩

/-! ## The command -/

variable {words : List String} {args : CommandLine.Arguments} {code : Nat}

/-- The contract command is performed by the audit. -/
theorem perform_of_contract (hcommand : args.command = .contract paths extensions severity) :
    Arguments.perform s args = auditCommand s args paths extensions severity := by
  unfold Arguments.perform
  rw [hcommand]

/-- An audit that ends leads to its output and its export. -/
theorem auditCommand_of_ok (h : auditAsked s paths extensions severity = .ok audited) :
    auditCommand s args paths extensions severity =
      finish s args.exportTo (Run.document { audited.run with duration := s.elapsed })
        (noteLines args.verbose audited.notes)
        (Display.runItems args.verbose { audited.run with duration := s.elapsed } ++
          Display.totalsItems { audited.run with duration := s.elapsed })
        (exitCode (0 < audited.run.severityCounts.count Grade.high.heading)) := by
  unfold auditCommand
  rw [h]

/-- An audit that breaks off halts the command. -/
theorem auditCommand_of_error {crash : Crash}
    (h : auditAsked s paths extensions severity = .error crash) :
    auditCommand s args paths extensions severity = s.halt (.error crash) := by
  unfold auditCommand
  rw [h]

/-- An audit runs to its end with a code when it succeeds and the export that is asked for is
possible; the code says whether a source is of high severity. -/
theorem ending_of_contract_iff (hargs : CommandLine.readArguments words = .ok args)
    (hcommand : args.command = .contract paths extensions severity) :
    (perform s words).ending = .ok code ↔
      (∃ audited, auditAsked s paths extensions severity = .ok audited) ∧
        s.CanExport args.exportTo ∧
        (code = 1 ∧ s.HasHighSource (askedScope extensions) paths ∨
          code = 0 ∧ ¬ s.HasHighSource (askedScope extensions) paths) := by
  rw [perform_of_readArguments hargs, perform_of_contract hcommand]
  cases haudit : auditAsked s paths extensions severity with
  | error crash => simp [auditCommand_of_error haudit, Situation.halt]
  | ok audited =>
    rw [← count_high_auditAsked_iff haudit]
    simp only [auditCommand_of_ok haudit, finish_ending_iff, exitCode, decide_eq_true_eq]
    by_cases hhigh : 0 < audited.run.severityCounts.count Grade.high.heading
    · simp [hhigh, eq_comm, and_comm]
    · simp [hhigh, eq_comm, and_comm]

/-- The exit code of an audit that runs to its end is one if among the sources that can be read is
one of high severity, and zero if not. Every other audit of the same files ends with the same code,
at any time that the clock shows, whatever severity and details are asked for, in whatever order and
however often the paths are given, and whether it is to be exported or not if that is possible. -/
theorem exit_code_of_contract (hargs : CommandLine.readArguments words = .ok args)
    (hcommand : args.command = .contract paths extensions severity)
    (hcode : (perform s words).ending = .ok code) :
    (code = 1 ↔ s.HasHighSource (askedScope extensions) paths) ∧
    (code = 0 ↔ ¬ s.HasHighSource (askedScope extensions) paths) ∧
    ∀ s' words' args' paths' severity', s'.tree = s.tree →
      (Clock.Shows s'.now ↔ Clock.Shows s.now) →
      CommandLine.readArguments words' = .ok args' →
      args'.command = .contract paths' extensions severity' → severity' ≠ .dropped →
      (∀ path, path ∈ paths' ↔ path ∈ paths) → s'.CanExport args'.exportTo →
        (perform s' words').ending = .ok code := by
  obtain ⟨hsucceeds, -, hcode⟩ := (ending_of_contract_iff hargs hcommand).1 hcode
  refine ⟨?_, ?_, ?_⟩
  · rcases hcode with ⟨rfl, hhigh⟩ | ⟨rfl, hlow⟩
    · simp [hhigh]
    · simp [hlow]
  · rcases hcode with ⟨rfl, hhigh⟩ | ⟨rfl, hlow⟩
    · simp [hhigh]
    · simp [hlow]
  · intro s' words' args' paths' severity' htree hclock hargs' hcommand' hseverity hpaths hcan
    obtain ⟨-, hdiscover, hread⟩ := exists_auditAsked_iff.1 hsucceeds
    have hfiles : ∀ file, s.tree.Discovers (askedScope extensions) paths' file ↔
        s.tree.Discovers (askedScope extensions) paths file := by
      intro file
      unfold FileTree.Discovers
      exact exists_congr fun path => and_congr (hpaths path) Iff.rfl
    have hhigh : s'.HasHighSource (askedScope extensions) paths' ↔
        s.HasHighSource (askedScope extensions) paths := by
      unfold Situation.HasHighSource
      simp only [htree, hfiles, findsHigh_congr hclock]
    refine (ending_of_contract_iff hargs' hcommand').2 ⟨?_, hcan, by rwa [hhigh]⟩
    refine exists_auditAsked_iff.2 ⟨hseverity, ?_, ?_⟩
    · intro path hpath
      rw [htree]
      exact hdiscover path ((hpaths path).1 hpath)
    · intro file hfile
      rw [htree] at hfile ⊢
      exact hread file ((hfiles file).1 hfile)

/-- A situation with one source, which asks for the origin of a transaction. -/
def originSituation : Situation :=
  { tree := .single "a.sol" (Text.Utf8.encode "tx.origin".toList), now := .zero, elapsed := .zero
    depthLimit := 990 }

/-- The source in this situation has a high finding. -/
theorem originSituation_hasHighSource {paths : List String} (hpaths : "a.sol" ∈ paths) :
    originSituation.HasHighSource (askedScope none) paths := by
  have hname : Path.IsPlain "a.sol" := by decide
  have hoccurs : (Pattern.literal "tx.origin").occursIn "tx.origin".toList = true := by
    decide +kernel
  have hfinds : FindsHigh originSituation.now "tx.origin".toList := by
    refine findsHigh_iff.2 ⟨⟨0, by decide +kernel⟩, builtinRules[1], ?_, rfl, _, rfl, hoccurs⟩
    exact List.getElem_mem _
  refine ⟨"a.sol", ⟨"a.sol", hpaths, _, FileTree.discover_single hname _, List.mem_cons_self⟩,
    _, _, FileTree.readSource_single hname (by decide), ?_, hfinds⟩
  rw [Text.Utf8.decodeLossy_encode]

set_option maxRecDepth 4000 in
/-- An audit of the source that asks for the origin of a transaction ends with one, and so does one
that names it twice and asks for details and for high severity. -/
theorem exit_code_of_contract_tx_origin :
    (perform originSituation ["contract", "--path", "a.sol"]).ending = .ok 1 ∧
    (perform originSituation ["contract", "--severity-level", "high", "-v", "--path", "a.sol",
      "a.sol"]).ending = .ok 1 := by
  have hargs : CommandLine.readArguments ["contract", "--path", "a.sol"] =
      .ok ⟨.contract ["a.sol"] none .absent, .absent, false⟩ := by rfl
  have hargs' : CommandLine.readArguments
      ["contract", "--severity-level", "high", "-v", "--path", "a.sol", "a.sol"] =
      .ok ⟨.contract ["a.sol", "a.sol"] none (.given "high"), .absent, true⟩ := by rfl
  have hname : Path.IsPlain "a.sol" := by decide
  have hcode : (perform originSituation ["contract", "--path", "a.sol"]).ending = .ok 1 := by
    refine (ending_of_contract_iff hargs rfl).2 ⟨?_, nofun, .inl ⟨rfl, ?_⟩⟩
    · refine exists_auditAsked_iff.2 ⟨nofun, ?_, ?_⟩
      · exact List.forall_mem_singleton.2 ⟨_, FileTree.discover_single hname _⟩
      · rintro file ⟨path, hpath, files, hfiles, hfile⟩
        cases List.mem_singleton.1 hpath
        cases (FileTree.discover_single hname _).symm.trans hfiles
        cases List.mem_singleton.1 hfile
        exact ⟨_, FileTree.readSource_single hname (by decide)⟩
    · exact originSituation_hasHighSource List.mem_cons_self
  refine ⟨hcode, ?_⟩
  exact (exit_code_of_contract hargs rfl hcode).2.2 originSituation _ _ _ _ rfl Iff.rfl hargs' rfl
    nofun (by simp) nofun

end TokenAudit
