import TokenAudit.Proofs.Command.SignalFile
import TokenAudit.Proofs.Document.NumberText
import TokenAudit.Proofs.Document.Places
import TokenAudit.Proofs.Document.Values

/-!
# The exported document of a run

The document of a run can be read back: nothing in it lies deep, its strings have no surrogates, and
its numbers are read from their digits. What is read tells the run itself, but for the places that
durations and ratios are rounded to. So no two runs that differ in anything else are exported alike.
-/

set_option autoImplicit false

namespace TokenAudit

open Document

/-! ## The run in a document -/

/-- The grade whose label a document is. -/
def Grade.ofDocument? (d : Document) : Option Grade :=
  d.asString?.bind Grade.ofLabel?

/-- The tally that a document is: an object of whole numbers. -/
def Tally.ofDocument? : Document → Option Tally
  | .object entries => entries.mapM fun e => e.2.asInt?.map fun n => (e.1, n)
  | _ => none

/-- The finding that a document tells. -/
def Finding.ofDocument? (d : Document) : Option Finding := do
  return {
    id := ← d.get? asString? "id"
    ruleKey := ← d.get? asString? "rule_key"
    name := ← d.get? asString? "name"
    description := ← d.get? asString? "description"
    severity := ← d.get? Grade.ofDocument? "severity"
    solution := ← d.get? asString? "solution"
    line := ← d.get? (asOption? asInt?) "line" }

/-- The summary that a document tells. -/
def Summary.ofDocument? (d : Document) : Option Summary := do
  return {
    codeQuality := ← d.get? asString? "code_quality"
    systemOverview := ← d.get? asString? "system_overview"
    linesOfCode := ← d.get? asInt? "lines_of_code"
    commentRatio := ← d.get? asFloat? "comment_ratio"
    privilegedRoles := ← d.get? (asList? asString?) "privileged_roles"
    keyRisks := ← d.get? (asList? asString?) "key_risks"
    riskScore := ← d.get? asInt? "risk_score"
    vulnerabilities := ← d.get? Tally.ofDocument? "vulnerabilities_count" }

/-- The report that a document tells. -/
def Report.ofDocument? (d : Document) : Option Report := do
  return {
    filePath := ← d.get? asString? "file"
    findings := ← d.get? (asList? Finding.ofDocument?) "findings"
    summary := ← d.get? (asOption? Summary.ofDocument?) "summary"
    riskScore := ← d.get? asInt? "risk_score"
    error := ← d.get? (asOption? asString?) "error" }

/-- The run that a document tells. -/
def Run.ofDocument? (d : Document) : Option Run := do
  return {
    totalFiles := ← d.get? asInt? "total_files"
    totalFindings := ← d.get? asInt? "total_findings"
    errors := ← d.get? asInt? "errors"
    duration := ← d.get? asFloat? "duration_seconds"
    severityCounts := ← d.get? Tally.ofDocument? "severity_counts"
    reports := ← d.get? (asList? Report.ofDocument?) "results" }

/-- A summary with its ratio as it is exported. -/
def Summary.rounded (s : Summary) : Summary :=
  { s with commentRatio := s.commentRatio.roundTo 4 }

/-- A report with the ratio of its summary as it is exported. -/
def Report.rounded (r : Report) : Report :=
  { r with summary := r.summary.map Summary.rounded }

/-- A run with its duration and its ratios as they are exported. -/
def Run.rounded (run : Run) : Run :=
  { run with duration := run.duration.roundTo 2, reports := run.reports.map Report.rounded }

/-- A grade is read back from its label. -/
theorem Grade.ofDocument?_label (g : Grade) : ofDocument? (.text g.label) = some g := by
  rw [ofDocument?, asString?_text]
  cases g <;> rfl

/-- A tally is read back from its document. -/
theorem Tally.ofDocument?_document (t : Tally) : ofDocument? t.document = some t := by
  have hread : (t.map fun e => (e.1, Document.int e.2)).mapM
      (fun e => e.2.asInt?.map fun n => (e.1, n)) = some (t.map id) :=
    mapM_map_eq_some fun _ _ => rfl
  rw [List.map_id] at hread
  exact hread

/-- So is a finding. -/
theorem Finding.ofDocument?_document (f : Finding) : ofDocument? f.document = some f := by
  have hid : f.document.get? asString? "id" = some f.id := get?_eq_some rfl (asString?_text _)
  have hkey : f.document.get? asString? "rule_key" = some f.ruleKey :=
    get?_eq_some rfl (asString?_text _)
  have hname : f.document.get? asString? "name" = some f.name :=
    get?_eq_some rfl (asString?_text _)
  have hdescription : f.document.get? asString? "description" = some f.description :=
    get?_eq_some rfl (asString?_text _)
  have hseverity : f.document.get? Grade.ofDocument? "severity" = some f.severity :=
    get?_eq_some rfl (Grade.ofDocument?_label _)
  have hsolution : f.document.get? asString? "solution" = some f.solution :=
    get?_eq_some rfl (asString?_text _)
  have hline : f.document.get? (asOption? asInt?) "line" = some f.line :=
    get?_eq_some rfl (asOption?_orNull_self rfl f.line fun _ _ => rfl)
  unfold ofDocument?
  rw [hid, hkey, hname, hdescription, hseverity, hsolution, hline]
  rfl

/-- A summary is read back with the rounding of its ratio. -/
theorem Summary.ofDocument?_document (s : Summary) : ofDocument? s.document = some s.rounded := by
  have hquality : s.document.get? asString? "code_quality" = some s.codeQuality :=
    get?_eq_some rfl (asString?_text _)
  have hoverview : s.document.get? asString? "system_overview" = some s.systemOverview :=
    get?_eq_some rfl (asString?_text _)
  have hlines : s.document.get? asInt? "lines_of_code" = some s.linesOfCode :=
    get?_eq_some rfl rfl
  have hratio : s.document.get? asFloat? "comment_ratio" = some (s.commentRatio.roundTo 4) :=
    get?_eq_some rfl rfl
  have hroles : s.document.get? (asList? asString?) "privileged_roles" = some s.privilegedRoles :=
    get?_eq_some rfl (asList?_texts _)
  have hrisks : s.document.get? (asList? asString?) "key_risks" = some s.keyRisks :=
    get?_eq_some rfl (asList?_texts _)
  have hscore : s.document.get? asInt? "risk_score" = some s.riskScore := get?_eq_some rfl rfl
  have htally : s.document.get? Tally.ofDocument? "vulnerabilities_count" =
      some s.vulnerabilities := get?_eq_some rfl (Tally.ofDocument?_document _)
  unfold ofDocument?
  rw [hquality, hoverview, hlines, hratio, hroles, hrisks, hscore, htally]
  rfl

/-- A report has its message under that key, or nothing there. -/
theorem Report.field_error (r : Report) :
    r.document.field? "error" =
      some (.orNull (fun message : String => .text message) r.error) := by
  obtain ⟨filePath, findings, summary, riskScore, error⟩ := r
  cases error <;> rfl

/-- A report is read back with its numbers rounded. -/
theorem Report.ofDocument?_document (r : Report) : ofDocument? r.document = some r.rounded := by
  have hfile : r.document.get? asString? "file" = some r.filePath :=
    get?_eq_some rfl (asString?_text _)
  have hfindings : r.document.get? (asList? Finding.ofDocument?) "findings" = some r.findings :=
    get?_eq_some rfl (asList?_list_self fun f _ => f.ofDocument?_document)
  have hsummary : r.document.get? (asOption? Summary.ofDocument?) "summary" =
      some (r.summary.map Summary.rounded) :=
    get?_eq_some rfl (asOption?_orNull rfl r.summary fun s _ => s.ofDocument?_document)
  have hscore : r.document.get? asInt? "risk_score" = some r.riskScore := get?_eq_some rfl rfl
  have herror : r.document.get? (asOption? asString?) "error" = some r.error :=
    get?_eq_some r.field_error
      (asOption?_orNull_self rfl r.error fun message _ => asString?_text message)
  unfold ofDocument?
  rw [hfile, hfindings, hsummary, hscore, herror]
  rfl

/-- A run is told by its document, but for the places that are cut off. -/
theorem Run.ofDocument?_document (run : Run) (time : String) :
    ofDocument? (run.document time) = some run.rounded := by
  have hfiles : (run.document time).get? asInt? "total_files" = some run.totalFiles :=
    get?_eq_some rfl rfl
  have hfindings : (run.document time).get? asInt? "total_findings" = some run.totalFindings :=
    get?_eq_some rfl rfl
  have herrors : (run.document time).get? asInt? "errors" = some run.errors :=
    get?_eq_some rfl rfl
  have hduration : (run.document time).get? asFloat? "duration_seconds" =
      some (run.duration.roundTo 2) := get?_eq_some rfl rfl
  have hcounts : (run.document time).get? Tally.ofDocument? "severity_counts" =
      some run.severityCounts := get?_eq_some rfl (Tally.ofDocument?_document _)
  have hreports : (run.document time).get? (asList? Report.ofDocument?) "results" =
      some (run.reports.map Report.rounded) :=
    get?_eq_some rfl (asList?_list fun r _ => r.ofDocument?_document)
  unfold ofDocument?
  rw [hfiles, hfindings, herrors, hduration, hcounts, hreports]
  rfl

/-! ## Whole numbers of a run -/

/-- The whole numbers in a tally. -/
def Tally.integers (t : Tally) : List Int :=
  t.map (·.2)

/-- The whole numbers in a summary. -/
def Summary.integers (s : Summary) : List Int :=
  s.linesOfCode :: s.riskScore :: s.vulnerabilities.integers

/-- The whole numbers in a report. -/
def Report.integers (r : Report) : List Int :=
  r.riskScore :: (r.findings.filterMap (·.line) ++ r.summary.toList.flatMap Summary.integers)

/-- The whole numbers in a run. -/
def Run.integers (run : Run) : List Int :=
  run.totalFiles :: run.totalFindings :: run.errors ::
    (run.severityCounts.integers ++ run.reports.flatMap Report.integers)

/-! ## Reading the text -/

section

variable {depth : Nat}

/-- Short whole numbers are legible. -/
theorem legible_int {n : Int} (h : IsShort n) : Legible depth (.int n) :=
  .scalar (readsBack_int h)

/-- So are floating-point numbers. -/
theorem legible_float (x : Binary64) : Legible depth (.float x) :=
  .scalar (readsBack_float x)

/-- So are lists of texts. -/
theorem legible_strings (items : List String) :
    Legible (depth + 1) (texts (items.map .ofString)) := by
  apply legible_texts
  rw [List.forall_mem_map]
  exact fun s _ => RawText.isJoined_ofString s

/-- A tally of short numbers is legible. -/
theorem Tally.legible_document {t : Tally} (h : ∀ n ∈ t.integers, IsShort n) :
    Legible (depth + 1) t.document := by
  apply Legible.object
  rw [List.forall_mem_map]
  exact fun e he => legible_int (h _ (List.mem_map_of_mem he))

/-- So is a finding on a line with a short number. -/
theorem Finding.legible_document {f : Finding} (h : ∀ n, f.line = some n → IsShort n) :
    Legible (depth + 1) f.document := by
  have hline : Legible depth (.orNull .int f.line) := by
    cases hline : f.line with
    | none => exact .scalar readsBack_null
    | some n => exact legible_int (h n hline)
  apply Legible.object
  simp only [List.forall_mem_cons]
  exact ⟨legible_string _, legible_string _, legible_string _, legible_string _,
    legible_string _, hline, legible_string _, nofun⟩

/-- So is a summary of short numbers. -/
theorem Summary.legible_document {s : Summary} (h : ∀ n ∈ s.integers, IsShort n) :
    Legible (depth + 2) s.document := by
  simp only [integers, List.forall_mem_cons] at h
  obtain ⟨hlines, hscore, htally⟩ := h
  apply Legible.object
  simp only [List.forall_mem_cons]
  exact ⟨legible_string _, legible_string _, legible_int hlines, legible_float _,
    legible_strings _, legible_strings _, legible_int hscore, Tally.legible_document htally,
    nofun⟩

/-- So is a report of short numbers. -/
theorem Report.legible_document {r : Report} (h : ∀ n ∈ r.integers, IsShort n) :
    Legible (depth + 3) r.document := by
  simp only [integers, List.forall_mem_cons, List.forall_mem_append] at h
  obtain ⟨hscore, hlines, hsummaries⟩ := h
  have hfindings : Legible (depth + 2) (.list (r.findings.map Finding.document)) := by
    apply Legible.list
    rw [List.forall_mem_map]
    intro f hf
    exact Finding.legible_document fun n hn => hlines n (List.mem_filterMap.2 ⟨f, hf, hn⟩)
  have hsummary : Legible (depth + 2) (.orNull Summary.document r.summary) := by
    cases hs : r.summary with
    | none => exact .scalar readsBack_null
    | some s =>
      apply Summary.legible_document
      intro n hn
      exact hsummaries n (List.mem_flatMap.2 ⟨s, by simp [hs], hn⟩)
  apply Legible.object
  simp only [List.forall_mem_cons]
  refine ⟨legible_string _, legible_int hscore, ?_, hfindings, hsummary, nofun⟩
  cases r.error with
  | none => exact .scalar readsBack_null
  | some message => exact legible_string message

/-- The greatest number of containers around a value of an exported run: the run, the list of its
reports, a report, the list of its findings and a finding. -/
def Document.exportDepth : Nat := 5

/-- The document of a run can be read back if its whole numbers can. -/
theorem Run.legible_document {run : Run} (h : ∀ n ∈ run.integers, IsShort n) (time : String) :
    Legible exportDepth (run.document time) := by
  simp only [integers, List.forall_mem_cons, List.forall_mem_append] at h
  obtain ⟨hfiles, hfindings, herrors, hcounts, hreports⟩ := h
  have hresults : Legible 4 (.list (run.reports.map Report.document)) := by
    apply Legible.list
    rw [List.forall_mem_map]
    intro r hr
    exact Report.legible_document fun n hn => hreports n (List.mem_flatMap.2 ⟨r, hr, hn⟩)
  apply Legible.object
  simp only [exportHeader, List.cons_append, List.nil_append, List.forall_mem_cons]
  exact ⟨legible_string _, legible_string _, legible_int hfiles, legible_int hfindings,
    Tally.legible_document hcounts, legible_float _, legible_int herrors, hresults, nofun⟩

end

/-! ## Spelling the numbers of double width -/

/-- How a number is spelled when it is exported to so many places: as in messages if it is finite,
and by a word if not. -/
def Binary64.spelling (places : Nat) (x : Binary64) : String :=
  match x with
  | .finite _ _ => (x.roundTo places).plainText
  | .infinite false => "Infinity"
  | .infinite true => "-Infinity"
  | .nan => "NaN"

/-- What the ratio of a report with a summary is exported as. -/
def Report.ratioChars (r : Report) : List (List Char) :=
  r.summary.toList.map fun s => entryChars "comment_ratio" (s.commentRatio.spelling 4).toList

/-- What the duration and the ratios of a run are exported as, in order. -/
def Run.floatChars (run : Run) : List (List Char) :=
  entryChars "duration_seconds" (run.duration.spelling 2).toList ::
    run.reports.flatMap Report.ratioChars

/-- A finite number is written in documents as it is elsewhere. -/
theorem Binary64.text_of_isFinite {x : Binary64} (h : x.isFinite = true) :
    x.text .document = x.plainText := by
  cases x with
  | finite negative rank => rfl
  | infinite negative => cases h
  | nan => cases h

/-- A rounded number is printed as it is spelled to so many places. -/
theorem printAt_roundTo (places : Nat) (x : Binary64) (level : Nat) :
    (float (x.roundTo places)).printAt level = (x.spelling places).toList := by
  rw [printAt]
  cases x with
  | finite negative rank =>
    have hfinite : ((Binary64.finite negative rank).roundTo places).isFinite = true := by
      rw [Binary64.isFinite_roundTo]
      rfl
    rw [Binary64.text_of_isFinite hfinite]
    rfl
  | infinite negative => cases negative <;> rfl
  | nan => rfl

/-- The ratio of a summary stands in its print, as it is spelled. -/
theorem Summary.ratio_standsIn (s : Summary) (level : Nat) :
    StandIn [entryChars "comment_ratio" (s.commentRatio.spelling 4).toList]
      (s.document.printAt level) := by
  rw [← printAt_roundTo 4 s.commentRatio (level + 1)]
  exact standIn_entry ("code_quality", _) ("privileged_roles", _)
    [("system_overview", _), ("lines_of_code", _)] "comment_ratio" _ (.nil _)

/-- So it does in the print of a report that has one. -/
theorem Report.ratio_standsIn (r : Report) (level : Nat) :
    StandIn r.ratioChars (r.document.printAt level) := by
  have hsummary :
      StandIn r.ratioChars ((orNull Summary.document r.summary).printAt (level + 1)) := by
    unfold ratioChars
    cases r.summary with
    | none => exact .nil _
    | some s => exact s.ratio_standsIn (level + 1)
  have hmem : ("summary", orNull Summary.document r.summary) ∈
      [("file", Document.text r.filePath), ("risk_score", .int r.riskScore),
        ("error", .orNull (fun message => .text message) r.error),
        ("findings", .list (r.findings.map Finding.document)),
        ("summary", .orNull Summary.document r.summary)] := by simp
  exact standIn_object hmem hsummary

/-- The duration and the ratios of a run stand in its text as they are spelled. -/
theorem Run.floats_standIn (run : Run) (time : String) :
    StandIn run.floatChars (run.document time).print := by
  have hresults : StandIn (run.reports.flatMap Report.ratioChars)
      (printEntries 1 [("results", .list (run.reports.map Report.document))]) :=
    standIn_printEntries (List.mem_singleton.2 rfl)
      (standIn_list fun r _ => r.ratio_standsIn 2)
  unfold floatChars
  rw [← printAt_roundTo 2 run.duration 1]
  exact standIn_entry ("version", _) ("errors", _)
    [("scan_time", _), ("total_files", _), ("total_findings", _), ("severity_counts", _)]
    "duration_seconds" _ hresults

/-! ## Nothing is lost -/

/-- A document tells a run that is exported at a time. -/
structure Run.ToldBy (run : Run) (time : String) (d : Document) : Prop where
  version : d.get? asString? "version" = some Display.version
  time : d.get? asString? "scan_time" = some time
  run : ofDocument? d = some run.rounded

/-- A text tells a run that is exported at a time: it is ASCII, its numbers of double width are
spelled as they are shown, and the document that is read from it tells the run. -/
structure Run.ToldByText (run : Run) (time : String) (text : List Char) : Prop where
  ascii : ∀ c ∈ text, c.toNat < 128
  spelled : StandIn run.floatChars text
  read : ∃ d, (∀ limit, Document.exportDepth ≤ limit → Document.read limit text = .ok d) ∧
    run.ToldBy time d

namespace Run

variable {run other : Run} {time time' : String} {text : List Char}

/-- An exported document tells what the run holds. -/
theorem toldBy_document (run : Run) (time : String) : run.ToldBy time (run.document time) := by
  constructor
  case version => exact get?_eq_some rfl (asString?_text _)
  case time => exact get?_eq_some rfl (asString?_text _)
  case run => exact run.ofDocument?_document time

/-- Its print does so too, if the numbers are short. -/
theorem toldByText_print (h : ∀ n ∈ run.integers, IsShort n) (time : String) :
    run.ToldByText time (run.document time).print := by
  have hlegible := legible_document h time
  constructor
  case ascii =>
    intro c hc
    rcases hlegible.isPrinted 0 c hc with rfl | hplain
    · decide
    · exact Nat.lt_trans hplain.2 (by decide)
  case spelled => exact run.floats_standIn time
  case read => exact ⟨run.document time, fun _ => read_print hlegible, run.toldBy_document time⟩

/-- A text tells one run and one time at most. -/
theorem ToldByText.unique (h : run.ToldByText time text) (h' : other.ToldByText time' text) :
    time = time' ∧ run.rounded = other.rounded := by
  obtain ⟨d, hread, htold⟩ := h.read
  obtain ⟨d', hread', htold'⟩ := h'.read
  cases (hread _ (Nat.le_refl _)).symm.trans (hread' _ (Nat.le_refl _))
  exact ⟨Option.some.inj (htold.time.symm.trans htold'.time),
    Option.some.inj (htold.run.symm.trans htold'.run)⟩

end Run

/-- The export of a run loses nothing: the text that is written is read back as the run, from the
file as well, and is written for no other run, as long as no whole number has too many digits. -/
theorem export_loses_nothing {run : Run} (h : ∀ n ∈ run.integers, IsShort n) :
    (∀ time, run.ToldByText time (run.document time).print) ∧
    (∀ (s : Situation) (path : String) (tree : FileTree),
      s.tree.HasFolder s.tree.workingFolder → s.export path run.document = .ok tree →
        ∃ time text d, Clock.timestamp s.now = .ok time ∧
          tree.contentAt path = .ok (Text.Utf8.encode text) ∧ run.ToldByText time text ∧
          (∀ limit, Document.exportDepth ≤ limit → tree.signalDocument limit path = .ok d) ∧
          run.ToldBy time d) ∧
    ∀ (other : Run) (time time' : String), (∀ n ∈ other.integers, IsShort n) →
      (other.document time').print = (run.document time).print →
        time' = time ∧ other.rounded = run.rounded := by
  have htext := fun time => Run.toldByText_print h time
  refine ⟨htext, ?_, ?_⟩
  · intro s path tree hwork hexport
    obtain ⟨time, htime, hstore⟩ := export_eq_ok_iff.1 hexport
    exact ⟨time, _, _, htime, FileTree.contentAt_of_store hwork hstore, htext time,
      fun _ hlimit => signalDocument_of_store hwork (Run.legible_document h time) hlimit hstore,
      run.toldBy_document time⟩
  · intro other time time' hother hsame
    have hboth := Run.toldByText_print hother time'
    rw [hsame] at hboth
    exact hboth.unique (htext time)

/-! ## A run of odd texts -/

/-- A summary with a ratio that is rounded. -/
def oddSummary : Summary where
  codeQuality := "\x22Fine\x22 \\ good\n"
  systemOverview := ""
  linesOfCode := 7
  commentRatio := .ofDecimal false 123456 (-6)
  privilegedRoles := []
  keyRisks := ["\x01", "🍯"]
  riskScore := 10
  vulnerabilities := [("high", 0), ("medium", 1)]

/-- A run with a report that has a finding without a line, and one that has an error. -/
def oddRun : Run where
  totalFiles := 2
  totalFindings := 1
  errors := 1
  duration := .nan
  severityCounts := [("HIGH", 0), ("MEDIUM", 1), ("LOW", 0)]
  reports :=
    [ { filePath := "a\t.sol"
        findings := [
          { id := "1", ruleKey := "k", name := "é", description := "🍯", severity := .medium,
            solution := "/", line := none }]
        summary := some oddSummary
        riskScore := 10
        error := none },
      .failed "b.sol" "Could not read file" ]

/-- The run of odd texts is read back, from the file as well. -/
theorem export_loses_nothing_odd :
    (∀ n ∈ oddRun.integers, IsShort n) ∧
    oddRun.floatChars = [entryChars "duration_seconds" "NaN".toList,
      entryChars "comment_ratio" "0.1235".toList] ∧
    (∀ time, oddRun.ToldByText time (oddRun.document time).print) ∧
    ∃ tree d, (signalSituation []).export "r.json" oddRun.document = .ok tree ∧
      tree.signalDocument 990 "r.json" = .ok d ∧
      oddRun.ToldBy "1970-01-01T00:00:00+00:00" d := by
  have hshort : ∀ n ∈ oddRun.integers, IsShort n := by decide
  have htime : Clock.timestamp (signalSituation []).now = .ok "1970-01-01T00:00:00+00:00" := by
    decide +kernel
  obtain ⟨tree, hexport⟩ :
      ∃ tree, (signalSituation []).export "r.json" oddRun.document = .ok tree :=
    exists_export_iff.2 ⟨⟨_, htime⟩, FileTree.exists_store_single (by decide) (by decide)⟩
  obtain ⟨htext, hfile, -⟩ := export_loses_nothing hshort
  obtain ⟨time, text, d, htime', -, -, hread, htold⟩ :=
    hfile _ "r.json" tree FileTree.single_hasFolder hexport
  cases htime.symm.trans htime'
  exact ⟨hshort, by decide +kernel, htext, tree, d, hexport, hread _ (by decide), htold⟩

end TokenAudit
