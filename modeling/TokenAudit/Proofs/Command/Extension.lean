import TokenAudit.Proofs.Command.ExitCode
import TokenAudit.Proofs.FileTree.Discovery
import TokenAudit.Proofs.Text.Case

/-!
# Auditing the files of an asked extension

The extension of a file is taken in lower case before it is looked for among the asked extensions,
and these are taken as they are. So an audit that asks for an extension in lower case reports on
every file that has it, in whatever letter case, and one that asks for it with a capital reports on
none.
-/

set_option autoImplicit false

namespace TokenAudit

/-- An extension is asked for, with its dot or without it. -/
structure AsksFor (asked : String) (suffix : List Char) : Prop where
  nonempty : suffix ≠ []
  undotted : '.' ∉ suffix
  unslashed : '/' ∉ suffix
  spelled : asked.toList = suffix ∨ asked.toList = '.' :: suffix

/-- A name has an extension, in whatever letter case. -/
def Path.HasExtensionLike (name : String) (suffix : List Char) : Prop :=
  ∃ ext, Path.HasExtension name.toList ('.' :: ext) ∧ Text.lower ext = Text.lower suffix

/-- No name under an entry holds a null character. -/
def Node.NullFree (top : Node) : Prop :=
  ∀ names node, top.at? names = some node → ∀ name ∈ names, Path.holdsNull name = false

/-- An entry under the folder `top` with the path `root` that is neither a folder nor a link whose
path leads to one; no folder on the way is left out, and the path of the last of them is not too
long to be followed. -/
structure FileTree.StandsUnder (t : FileTree) (root : String) (top : Node) (folders : List String)
    (name : String) (node : Node) : Prop where
  entry : top.at? (folders ++ [name]) = some node
  notFolder : node.isFolder = false
  notLinked : ∀ target, node = .link target →
    t.isFolder (Path.joinAll root (folders ++ [name])) = false
  notExcluded : ∀ folder ∈ folders, folder ∉ defaultExcluded
  inReach : (Path.joinAll root folders).utf8ByteSize ≤ Path.sizeLimit

/-- A file stands under the folder and has the extension, in whatever letter case. -/
def FileTree.HasSource (t : FileTree) (root : String) (top : Node) (suffix : List Char)
    (file : String) : Prop :=
  ∃ folders name node, file = Path.joinAll root (folders ++ [name]) ∧
    t.StandsUnder root top folders name node ∧ Path.HasExtensionLike name suffix

/-- The files that an audit reports on. -/
def TreeAudit.files (audited : TreeAudit) : List String :=
  audited.run.reports.map (·.filePath)

/-- An audit of no files has no reports. -/
theorem TreeAudit.reports_eq_nil {audited : TreeAudit} (h : ∀ file, file ∉ audited.files) :
    audited.run.reports = [] := by
  rw [← List.map_eq_nil_iff (f := Report.filePath), List.eq_nil_iff_forall_not_mem]
  exact h

/-! ## The extension -/

section

variable {asked : String} {suffix : List Char}

/-- An extension that is asked for is looked for with one dot in front. -/
theorem dotted_of_asksFor (h : AsksFor asked suffix) :
    dotted asked = String.ofList ('.' :: suffix) := by
  rw [← String.toList_inj, String.toList_ofList]
  unfold dotted
  rcases h.spelled with hplain | hdot
  · rw [if_neg, String.toList_append, hplain]
    · rfl
    · intro hhead
      rw [hplain] at hhead
      exact h.undotted (List.mem_of_head? hhead)
  · rw [if_pos (by rw [hdot]; rfl), hdot]

/-- An asked extension admits the names that have it in whatever letter case when it is asked for in
lower case, and no names otherwise. -/
theorem hasExtension_asked_iff (h : AsksFor asked suffix) {name : String} :
    (∃ ext, Path.HasExtension name.toList ext ∧
        String.ofList (Text.lower ext) ∈ (askedScope (some [asked])).extensions) ↔
      Text.lower suffix = suffix ∧ Path.HasExtensionLike name suffix := by
  have hmem : ∀ ext, String.ofList (Text.lower ext) ∈ (askedScope (some [asked])).extensions ↔
      Text.lower ext = '.' :: suffix := by
    intro ext
    change String.ofList (Text.lower ext) ∈ [dotted asked] ↔ _
    rw [List.mem_singleton, dotted_of_asksFor h, String.ofList_inj]
  constructor
  · rintro ⟨ext, hext, hasked⟩
    rw [hmem] at hasked
    cases id hext with
    | undotted => cases hasked
    | @dotted stem plain hname hlast hstem =>
      rw [Text.lower_dot_cons, List.cons.injEq] at hasked
      have hlower : Text.lower suffix = suffix := by
        rw [← hasked.2, Text.lower_lower]
      refine ⟨hlower, plain, hext, ?_⟩
      rw [hlower]
      exact hasked.2
  · rintro ⟨hlower, ext, hext, hlike⟩
    refine ⟨'.' :: ext, hext, ?_⟩
    rw [hmem, Text.lower_dot_cons, hlike, hlower]

end

/-! ## What is found -/

section

variable {t : FileTree} {root asked : String} {suffix : List Char} {top : Node}
  {place : List String}

/-- A file is a source of such an audit exactly when the extension is its own lower case, the file
stands under the root, and its name has the extension in some letter case. -/
theorem isSource_asked_iff (h : AsksFor asked suffix) {folders : List String} {name : String}
    {node : Node} :
    t.IsSource (askedScope (some [asked])) root top folders name node ↔
      Text.lower suffix = suffix ∧ t.StandsUnder root top folders name node ∧
        Path.HasExtensionLike name suffix := by
  constructor
  · intro hsource
    obtain ⟨hlower, hlike⟩ := (hasExtension_asked_iff h).1 hsource.extension
    refine ⟨hlower, ?_, hlike⟩
    exact ⟨hsource.entry, hsource.notFolder, hsource.notLinked, hsource.notExcluded,
      hsource.inReach⟩
  · rintro ⟨hlower, hstands, hlike⟩
    exact ⟨hstands.entry, hstands.notFolder, hstands.notLinked,
      (hasExtension_asked_iff h).2 ⟨hlower, hlike⟩, hstands.notExcluded, hstands.inReach⟩

/-- Under a folder are found the files that have the asked extension, if it is in lower case. -/
theorem discovers_asked_iff (ht : t.WellFormed) (hentry : t.entry root = .ok (place, top))
    (htop : top.isFolder = true) (h : AsksFor asked suffix) {file : String} :
    t.Discovers (askedScope (some [asked])) [root] file ↔
      Text.lower suffix = suffix ∧ t.HasSource root top suffix file := by
  have hwf : top.WellFormed := (ht.root.of_at? (ht.at?_of_entry hentry)).1
  obtain ⟨found, hpaths, hlists⟩ : ∃ found, t.sourcesUnder (askedScope (some [asked])) root top =
      found.map (Path.joinAll root) ∧ t.Lists (askedScope (some [asked])) root top found :=
    FileTree.exists_lists hwf (FileTree.size_le_of_entry hentry)
  have hdiscover : t.discover (askedScope (some [asked])) root =
      .ok (found.map (Path.joinAll root)) := by
    rw [FileTree.discover_of_folder hentry htop, hpaths]
  have hdiscovers : t.Discovers (askedScope (some [asked])) [root] file ↔
      ∃ names ∈ found, Path.joinAll root names = file := by
    unfold FileTree.Discovers
    rw [← List.mem_map]
    constructor
    · rintro ⟨path, hpath, files, hfiles, hfile⟩
      rw [List.mem_singleton.1 hpath, hdiscover] at hfiles
      cases hfiles
      exact hfile
    · intro hfile
      exact ⟨root, List.mem_cons_self, _, hdiscover, hfile⟩
  rw [hdiscovers]
  constructor
  · rintro ⟨names, hnames, rfl⟩
    obtain ⟨folders, name, node, rfl, hsource⟩ := (hlists.exact names).1 hnames
    obtain ⟨hlower, hstands, hlike⟩ := (isSource_asked_iff h).1 hsource
    exact ⟨hlower, folders, name, node, rfl, hstands, hlike⟩
  · rintro ⟨hlower, folders, name, node, rfl, hstands, hlike⟩
    have hsource := (isSource_asked_iff h).2 ⟨hlower, hstands, hlike⟩
    exact ⟨_, (hlists.exact _).2 ⟨folders, name, node, rfl, hsource⟩, rfl⟩

end

/-! ## Paths without a null character -/

/-- A null character of two pieces is in one of them. -/
theorem Path.holdsNull_append (first second : String) :
    Path.holdsNull (first ++ second) = (Path.holdsNull first || Path.holdsNull second) := by
  simp [Path.holdsNull]

/-- A path put together of pieces without null characters has none. -/
theorem Path.holdsNull_join {folder name : String} (hfolder : Path.holdsNull folder = false)
    (hname : Path.holdsNull name = false) : Path.holdsNull (Path.join folder name) = false := by
  have hslash : Path.holdsNull "/" = false := by decide
  unfold Path.join
  split
  · rw [Path.holdsNull_append, hfolder, hname]
    rfl
  · rw [Path.holdsNull_append, Path.holdsNull_append, hfolder, hname, hslash]
    rfl

/-- The same for any number of names. -/
theorem Path.holdsNull_joinAll {folder : String} {names : List String}
    (hfolder : Path.holdsNull folder = false)
    (hnames : ∀ name ∈ names, Path.holdsNull name = false) :
    Path.holdsNull (Path.joinAll folder names) = false := by
  induction names generalizing folder with
  | nil => exact hfolder
  | cons name names ih =>
    obtain ⟨hname, hnames⟩ := List.forall_mem_cons.1 hnames
    exact ih (Path.holdsNull_join hfolder hname) hnames

/-- Nothing is found under a path with a null character. -/
theorem FileTree.holdsNull_of_entry {t : FileTree} {path : String} {place : List String}
    {node : Node} (h : t.entry path = .ok (place, node)) : Path.holdsNull path = false := by
  by_contra hnull
  rw [entry_eq_nullInPath_iff.2 (by simpa using hnull)] at h
  cases h

/-! ## The audit -/

section

variable {s : Situation} {root asked : String} {severity : CommandLine.OptionValue}
  {suffix : List Char} {top : Node} {place : List String}

/-- An audit of a folder for an extension reports on the files that have it, if it is asked for in
lower case. -/
theorem exists_auditAsked_extension (ht : s.tree.WellFormed)
    (hentry : s.tree.entry root = .ok (place, top)) (htop : top.isFolder = true)
    (hnull : top.NullFree) (h : AsksFor asked suffix) (hseverity : severity ≠ .dropped) :
    ∃ audited, auditAsked s [root] (some [asked]) severity = .ok audited ∧
      ∀ file, file ∈ audited.files ↔
        Text.lower suffix = suffix ∧ s.tree.HasSource root top suffix file := by
  have hdiscovers : ∀ file, s.tree.Discovers (askedScope (some [asked])) [root] file ↔
      Text.lower suffix = suffix ∧ s.tree.HasSource root top suffix file :=
    fun file => discovers_asked_iff ht hentry htop h
  have hroot := FileTree.holdsNull_of_entry hentry
  have hsucceeds : ∃ audited, auditAsked s [root] (some [asked]) severity = .ok audited := by
    refine exists_auditAsked_iff.2 ⟨hseverity, ?_, ?_⟩
    · exact List.forall_mem_singleton.2 ⟨_, FileTree.discover_of_folder hentry htop⟩
    · intro file hfile
      obtain ⟨-, folders, name, node, rfl, hstands, -⟩ := (hdiscovers file).1 hfile
      have hfree := Path.holdsNull_joinAll hroot (hnull _ _ hstands.entry)
      cases hread : s.tree.readSource (Path.joinAll root (folders ++ [name])) with
      | ok source => exact ⟨source, rfl⟩
      | error e =>
        rw [(FileTree.holdsNull_of_readSource hread).1] at hfree
        cases hfree
  obtain ⟨audited, haudited⟩ := hsucceeds
  obtain ⟨grade, -, hresult⟩ := auditAsked_eq_ok_iff.1 haudited
  refine ⟨audited, haudited, ?_⟩
  intro file
  rw [← hdiscovers]
  exact AuditPlan.mem_filePaths_iff hresult

variable {words : List String} {args : CommandLine.Arguments}

/-- An audit of a folder for one extension reaches its end, and shows its run. It reports on every
file under the folder that has the extension, in whatever letter case, if the extension is asked for
in lower case; otherwise it reports on nothing. So two letter cases of an extension have the same
files reported on when both are lower case, when neither is, and when no file has the extension. -/
theorem extension_honoured_iff (ht : s.tree.WellFormed)
    (hentry : s.tree.entry root = .ok (place, top)) (htop : top.isFolder = true)
    (hnull : top.NullFree) (hargs : CommandLine.readArguments words = .ok args)
    (hcommand : args.command = .contract [root] (some [asked]) severity)
    (hseverity : severity ≠ .dropped) (hasked : AsksFor asked suffix) :
    ∃ audited, auditAsked s [root] (some [asked]) severity = .ok audited ∧
      (perform s words).console =
        Display.runItems args.verbose { audited.run with duration := s.elapsed } ++
          Display.totalsItems { audited.run with duration := s.elapsed } ∧
      (∀ file, s.tree.HasSource root top suffix file →
        (file ∈ audited.files ↔ Text.lower suffix = suffix)) ∧
      (Text.lower suffix ≠ suffix → audited.run.reports = []) ∧
      ∀ asked' suffix' severity', AsksFor asked' suffix' →
        Text.lower suffix' = Text.lower suffix → severity' ≠ .dropped →
          ∃ audited', auditAsked s [root] (some [asked']) severity' = .ok audited' ∧
            ((∀ file, file ∈ audited'.files ↔ file ∈ audited.files) ↔
              ((Text.lower suffix' = suffix' ↔ Text.lower suffix = suffix) ∨
                ¬ ∃ file, s.tree.HasSource root top suffix file)) := by
  obtain ⟨audited, haudited, hfiles⟩ :=
    exists_auditAsked_extension ht hentry htop hnull hasked hseverity
  refine ⟨audited, haudited, ?_, ?_, ?_, ?_⟩
  · rw [perform_of_readArguments hargs, perform_of_contract hcommand, auditCommand_of_ok haudited]
    exact finish_console
  · intro file hfile
    rw [hfiles, and_iff_left hfile]
  · intro hupper
    apply TreeAudit.reports_eq_nil
    intro file hfile
    exact hupper ((hfiles file).1 hfile).1
  · intro asked' suffix' severity' hasked' hlike hseverity'
    obtain ⟨audited', haudited', hfiles'⟩ :=
      exists_auditAsked_extension ht hentry htop hnull hasked' hseverity'
    have hsame : ∀ file, s.tree.HasSource root top suffix' file ↔
        s.tree.HasSource root top suffix file := by
      intro file
      unfold FileTree.HasSource Path.HasExtensionLike
      rw [hlike]
    refine ⟨audited', haudited', ?_⟩
    simp only [hfiles, hfiles', hsame, and_congr_left_iff]
    constructor
    · intro h
      by_cases hany : ∃ file, s.tree.HasSource root top suffix file
      · obtain ⟨file, hfile⟩ := hany
        exact .inl (h file hfile)
      · exact .inr hany
    · rintro (h | hnone) file hfile
      · exact h
      · exact absurd ⟨file, hfile⟩ hnone

end

/-! ## An extension in capitals -/

/-- A situation with one source, whose extension is written in capitals. -/
def capitalSituation : Situation :=
  { tree := .single "a.SOL" (Text.Utf8.encode "x".toList), now := .zero, elapsed := .zero
    depthLimit := 990 }

/-- The working folder of that situation. -/
def capitalFolder : Node :=
  .folder [("a.SOL", .file (Text.Utf8.encode "x".toList))]

/-- The tree is well formed. -/
theorem capital_wellFormed : capitalSituation.tree.WellFormed :=
  FileTree.single_wellFormed (by decide)

/-- The root is the folder with the source. -/
theorem capital_entry : capitalSituation.tree.entry "./" = .ok (["work"], capitalFolder) :=
  FileTree.entry_dots (n := 0) (by decide) rfl

/-- No name in that folder has a null character. -/
theorem capitalFolder_nullFree : capitalFolder.NullFree := by
  rintro (_ | ⟨first, names⟩) node hnode name hname
  · cases hname
  · obtain ⟨inner, hinner, hnode⟩ := Option.bind_eq_some_iff.1 hnode
    obtain ⟨rfl, rfl⟩ := Prod.mk.inj
      (List.mem_singleton.1 ((Node.lookup_eq_some_iff (by simp)).1 hinner))
    cases names with
    | cons => cases hnode
    | nil =>
      rw [List.mem_singleton.1 hname]
      decide

/-- The source has every extension whose lower case is the one asked for. -/
theorem capital_hasSource {suffix : List Char} (h : Text.lower suffix = "sol".toList) :
    capitalSituation.tree.HasSource "./" capitalFolder suffix "./a.SOL" := by
  have hlower : Text.lower "SOL".toList = "sol".toList := by decide
  refine ⟨[], "a.SOL", .file (Text.Utf8.encode "x".toList), by decide, ?_, "SOL".toList, ?_, ?_⟩
  · exact ⟨rfl, rfl, nofun, by simp, by decide⟩
  · rw [Path.hasExtension_iff]
    decide
  · rw [h, hlower]

/-- The extension can be asked for in capitals. -/
theorem asksFor_capital : AsksFor "SOL" "SOL".toList :=
  ⟨by decide, by decide, by decide, .inl rfl⟩

/-- It can be asked for in small letters. -/
theorem asksFor_small : AsksFor "sol" "sol".toList :=
  ⟨by decide, by decide, by decide, .inl rfl⟩

set_option maxRecDepth 4000 in
/-- An audit of the folder for the extension, asked for in lower case, reports on the source. -/
theorem extension_honoured_iff_small :
    ∃ audited, auditAsked capitalSituation ["./"] (some ["sol"]) .absent = .ok audited ∧
      "./a.SOL" ∈ audited.files := by
  have hargs : CommandLine.readArguments ["contract", "--path", "./", "--ext", "sol"] =
      .ok ⟨.contract ["./"] (some ["sol"]) .absent, .absent, false⟩ := by rfl
  have hlower : Text.lower "sol".toList = "sol".toList := by decide
  obtain ⟨audited, haudited, -, hfiles, -⟩ := extension_honoured_iff capital_wellFormed
    capital_entry rfl capitalFolder_nullFree hargs rfl nofun asksFor_small
  exact ⟨audited, haudited, (hfiles _ (capital_hasSource hlower)).2 hlower⟩

set_option maxRecDepth 4000 in
/-- An audit of the folder for the very extension of the source reports on nothing, says so, and
ends with zero. -/
theorem capital_extension_ignored :
    CommandLine.readArguments ["contract", "--path", "./", "--ext", "SOL"] =
      .ok ⟨.contract ["./"] (some ["SOL"]) .absent, .absent, false⟩ ∧
    capitalSituation.tree.WellFormed ∧
    capitalSituation.tree.entry "./" = .ok (["work"], capitalFolder) ∧
    capitalSituation.tree.HasSource "./" capitalFolder "SOL".toList "./a.SOL" ∧
    (∃ audited, auditAsked capitalSituation ["./"] (some ["SOL"]) .absent = .ok audited ∧
      "./a.SOL" ∉ audited.files) ∧
    (perform capitalSituation ["contract", "--path", "./", "--ext", "SOL"]).console.head? =
      some (.line ("\n" ++ Display.styled "yellow" "No contract sources found.")) ∧
    (perform capitalSituation ["contract", "--path", "./", "--ext", "SOL"]).ending = .ok 0 := by
  have hargs : CommandLine.readArguments ["contract", "--path", "./", "--ext", "SOL"] =
      .ok ⟨.contract ["./"] (some ["SOL"]) .absent, .absent, false⟩ := by rfl
  have hlower : Text.lower "SOL".toList = "sol".toList := by decide
  have hcapital : Text.lower "SOL".toList ≠ "SOL".toList := by decide
  obtain ⟨audited, haudited, hfiles⟩ : ∃ audited,
      auditAsked capitalSituation ["./"] (some ["SOL"]) .absent = .ok audited ∧ _ :=
    exists_auditAsked_extension capital_wellFormed capital_entry rfl capitalFolder_nullFree
      asksFor_capital nofun
  have hnone : ∀ file, file ∉ audited.files :=
    fun file hfile => hcapital ((hfiles file).1 hfile).1
  refine ⟨hargs, capital_wellFormed, capital_entry, capital_hasSource hlower,
    ⟨audited, haudited, hnone _⟩, ?_, ?_⟩
  · rw [perform_of_readArguments hargs, perform_of_contract rfl, auditCommand_of_ok haudited]
    simp only [finish_console, Display.runItems, TreeAudit.reports_eq_nil hnone]
    rfl
  · refine (ending_of_contract_iff hargs rfl).2 ⟨⟨audited, haudited⟩, nofun, .inr ⟨rfl, ?_⟩⟩
    rintro ⟨file, hfile, -⟩
    obtain ⟨hsmall, -⟩ := (discovers_asked_iff capital_wellFormed capital_entry rfl
      asksFor_capital).1 hfile
    exact hcapital hsmall

end TokenAudit
