import Mathlib.Data.List.Nodup
import Mathlib.Data.String.Basic
import Mathlib.Tactic.Choose
import TokenAudit.Proofs.FileTree.Lookup
import TokenAudit.Proofs.FileTree.WellFormed

/-!
# What is found under a folder

Under a folder are found the entries that are not folders and have one of the asked extensions, at
any depth, except those in a folder that is left out, and except those in a folder whose path is
longer than a path may be. Each is found once: the files of a folder by name, and after them what is
in its folders, by the names of these.
-/

set_option autoImplicit false

namespace TokenAudit

namespace FileTree

/-- The order in which entries are found, by the names that lead to them from a folder. -/
inductive Precedes : List String → List String → Prop
  | file {a b : String} (h : a < b) : Precedes [a] [b]
  | fileFirst (a b c : String) (rest : List String) : Precedes [a] (b :: c :: rest)
  | folder {a b : String} (h : a < b) (c d : String) (rest rest' : List String) :
      Precedes (a :: c :: rest) (b :: d :: rest')
  | inside (a : String) {first second : List String} (h : Precedes first second) :
      Precedes (a :: first) (a :: second)

/-- An entry that is found under the folder `top` with the path `root`: neither a folder nor a link
whose path leads to one, and with one of the asked extensions; the folders on the way are not left
out, and the path of the last of them is not too long to be followed. -/
structure IsSource (t : FileTree) (scope : DiscoveryScope) (root : String) (top : Node)
    (folders : List String) (name : String) (node : Node) : Prop where
  entry : top.at? (folders ++ [name]) = some node
  notFolder : node.isFolder = false
  notLinked : ∀ target, node = .link target →
    t.isFolder (Path.joinAll root (folders ++ [name])) = false
  extension : ∃ ext, Path.HasExtension name.toList ext ∧
    String.ofList (Text.lower ext) ∈ scope.extensions
  notExcluded : ∀ folder ∈ folders, folder ∉ scope.excluded
  inReach : (Path.joinAll root folders).utf8ByteSize ≤ Path.sizeLimit

/-- The sources under a folder, each by the names that lead to it from there. -/
structure Lists (t : FileTree) (scope : DiscoveryScope) (root : String) (top : Node)
    (found : List (List String)) : Prop where
  exact : ∀ names, names ∈ found ↔
    ∃ folders name node, names = folders ++ [name] ∧ t.IsSource scope root top folders name node
  ordered : found.Pairwise Precedes

/-- Entries by name. -/
def byName (entries : List (String × Node)) : List (String × Node) :=
  entries.mergeSort fun a b => a.1 ≤ b.1

/-- The entries of a folder that are found in the folder itself. -/
def ownFiles (t : FileTree) (scope : DiscoveryScope) (shown : String)
    (entries : List (String × Node)) : List (String × Node) :=
  entries.filter fun e => t.listsAsFile (Path.join shown e.1) e.2 && scope.admits e.1

/-- The folders among the entries that are looked into. -/
def entered (scope : DiscoveryScope) (shown : String) (entries : List (String × Node)) :
    List (String × Node) :=
  entries.filter fun e =>
    e.2.isFolder && !(scope.excluded.contains e.1 || Path.isLong (Path.join shown e.1))

/-! ## The order -/

/-- No entry precedes itself. -/
theorem Precedes.ne {first second : List String} (h : Precedes first second) : first ≠ second := by
  induction h with
  | file h =>
    intro heq
    cases heq
    exact lt_irrefl _ h
  | fileFirst => simp
  | folder h =>
    intro heq
    cases heq
    exact lt_irrefl _ h
  | inside a h ih =>
    intro heq
    cases heq
    exact ih rfl

/-- Entries by name are the same entries. -/
theorem mem_byName {entries : List (String × Node)} {e : String × Node} :
    e ∈ byName entries ↔ e ∈ entries :=
  List.mem_mergeSort

/-- Names that are all different increase from one to the next. -/
theorem pairwise_byName {entries : List (String × Node)}
    (hdistinct : (entries.map Prod.fst).Nodup) :
    (byName entries).Pairwise fun a b => a.1 < b.1 := by
  have hsorted : (byName entries).Pairwise fun a b => decide (a.1 ≤ b.1) = true := by
    apply List.pairwise_mergeSort
    · intro a b c hab hbc
      simp only [decide_eq_true_eq] at hab hbc ⊢
      exact le_trans hab hbc
    · intro a b
      simpa using le_total a.1 b.1
  have hperm : (byName entries).Perm entries := List.mergeSort_perm entries _
  have hnames : (byName entries).Pairwise fun a b => a.1 ≠ b.1 := by
    rw [← List.pairwise_map]
    exact (hperm.map Prod.fst).nodup_iff.2 hdistinct
  apply (hsorted.and hnames).imp
  intro a b h
  exact lt_of_le_of_ne (of_decide_eq_true h.1) h.2

/-! ## One folder -/

variable {t : FileTree} {scope : DiscoveryScope} {shown : String} {entries : List (String × Node)}

/-- Of a list of entries, those are looked into that are entered. -/
theorem sourcesOfFolders_eq :
    t.sourcesOfFolders scope shown entries =
      (entered scope shown entries).map fun e =>
        (e.1, t.sourcesUnder scope (Path.join shown e.1) e.2) := by
  induction entries with
  | nil => rfl
  | cons e entries ih =>
    obtain ⟨name, node⟩ := e
    cases node with
    | file content =>
      rw [sourcesOfFolders, ih]
      rfl
    | link target =>
      rw [sourcesOfFolders, ih]
      rfl
    | folder inner =>
      rw [sourcesOfFolders, ih, entered, entered, List.filter_cons]
      cases scope.excluded.contains name || Path.isLong (Path.join shown name) with
      | true => rfl
      | false => rfl

/-- The sources under a folder are its own, by name, and after them those of the folders that are
looked into, by name. -/
theorem sourcesUnder_folder :
    t.sourcesUnder scope shown (.folder entries) =
      (byName (t.ownFiles scope shown entries)).map (fun e => Path.join shown e.1) ++
        (byName (entered scope shown entries)).flatMap fun e =>
          t.sourcesUnder scope (Path.join shown e.1) e.2 := by
  have hnames : (byName (t.ownFiles scope shown entries)).map Prod.fst =
      sortedNames ((t.ownFiles scope shown entries).map Prod.fst) :=
    List.map_mergeSort fun _ _ _ _ => rfl
  have hown : t.ownSources scope shown entries =
      (byName (t.ownFiles scope shown entries)).map fun e => Path.join shown e.1 := by
    calc t.ownSources scope shown entries
        = (sortedNames ((t.ownFiles scope shown entries).map Prod.fst)).map (Path.join shown) := rfl
      _ = ((byName (t.ownFiles scope shown entries)).map Prod.fst).map (Path.join shown) := by
        rw [hnames]
      _ = (byName (t.ownFiles scope shown entries)).map fun e => Path.join shown e.1 :=
        List.map_map
  have hinner : (t.sourcesOfFolders scope shown entries).mergeSort (fun a b => a.1 ≤ b.1) =
      (byName (entered scope shown entries)).map fun e =>
        (e.1, t.sourcesUnder scope (Path.join shown e.1) e.2) := by
    rw [sourcesOfFolders_eq, eq_comm]
    exact List.map_mergeSort fun _ _ _ _ => rfl
  rw [sourcesUnder, hown, hinner, List.flatMap_map]

/-! ## Which entries are sources -/

/-- The entries found in a folder itself are those that are listed as files and admitted by name. -/
theorem mem_ownFiles_iff {name : String} {node : Node} :
    (name, node) ∈ t.ownFiles scope shown entries ↔
      (name, node) ∈ entries ∧ t.listsAsFile (Path.join shown name) node = true ∧
        scope.admits name = true := by
  simp [ownFiles]

/-- The folders looked into are those that are not left out and whose paths are not too long. -/
theorem mem_entered_iff {name : String} {node : Node} :
    (name, node) ∈ entered scope shown entries ↔
      (name, node) ∈ entries ∧ node.isFolder = true ∧ name ∉ scope.excluded ∧
        (Path.join shown name).utf8ByteSize ≤ Path.sizeLimit := by
  simp [entered, Path.isLong]

/-- An entry is listed as a file unless it is a folder or a link whose path leads to one. -/
theorem listsAsFile_iff {path : String} {node : Node} :
    t.listsAsFile path node = true ↔
      node.isFolder = false ∧ ∀ target, node = .link target → t.isFolder path = false := by
  cases node with
  | file content => simp [listsAsFile, Node.isFolder]
  | folder inner => simp [listsAsFile, Node.isFolder]
  | link target => simp [listsAsFile, Node.isFolder]

/-- A name is admitted exactly when the lower case of its extension is asked for. -/
theorem admits_iff {name : String} :
    scope.admits name = true ↔ ∃ ext, Path.HasExtension name.toList ext ∧
      String.ofList (Text.lower ext) ∈ scope.extensions := by
  simp [DiscoveryScope.admits, Path.hasExtension_iff]

/-- The sources in a folder itself. -/
theorem isSource_nil_iff (hdistinct : (entries.map Prod.fst).Nodup)
    (hshown : shown.utf8ByteSize ≤ Path.sizeLimit) {name : String} {node : Node} :
    t.IsSource scope shown (.folder entries) [] name node ↔
      (name, node) ∈ t.ownFiles scope shown entries := by
  rw [mem_ownFiles_iff, listsAsFile_iff, admits_iff, ← Node.lookup_eq_some_iff hdistinct]
  constructor
  · intro h
    have hentry : ((entries.lookup name).bind fun inner => some inner) = some node := h.entry
    refine ⟨?_, ⟨h.notFolder, h.notLinked⟩, h.extension⟩
    simpa using hentry
  · rintro ⟨hentry, ⟨hfolder, hlink⟩, hext⟩
    refine ⟨?_, hfolder, hlink, hext, by simp, hshown⟩
    simp [Node.at?, Node.entry?, hentry]

/-- The sources in the folders of a folder. -/
theorem isSource_cons_iff (hdistinct : (entries.map Prod.fst).Nodup) {folder name : String}
    {folders : List String} {node : Node} :
    t.IsSource scope shown (.folder entries) (folder :: folders) name node ↔
      ∃ inner, (folder, inner) ∈ entered scope shown entries ∧
        t.IsSource scope (Path.join shown folder) inner folders name node := by
  constructor
  · intro h
    obtain ⟨inner, hinner, hentry⟩ := Option.bind_eq_some_iff.1 h.entry
    have hfolder : inner.isFolder = true := by
      cases inner with
      | folder _ => rfl
      | file _ => cases folders <;> cases hentry
      | link _ => cases folders <;> cases hentry
    have hexcluded := List.forall_mem_cons.1 h.notExcluded
    have hreach : (Path.join shown folder).utf8ByteSize ≤ Path.sizeLimit :=
      Nat.le_trans (Path.size_le_size_joinAll _ folders) h.inReach
    refine ⟨inner, mem_entered_iff.2 ⟨?_, hfolder, hexcluded.1, hreach⟩, ?_⟩
    · exact (Node.lookup_eq_some_iff hdistinct).1 hinner
    · exact ⟨hentry, h.notFolder, h.notLinked, h.extension, hexcluded.2, h.inReach⟩
  · rintro ⟨inner, hmem, h⟩
    obtain ⟨hentries, -, hexcluded, -⟩ := mem_entered_iff.1 hmem
    have hlookup := (Node.lookup_eq_some_iff hdistinct).2 hentries
    refine ⟨?_, h.notFolder, h.notLinked, h.extension, ?_, h.inReach⟩
    · exact Option.bind_eq_some_iff.2 ⟨inner, hlookup, h.entry⟩
    · exact List.forall_mem_cons.2 ⟨hexcluded, h.notExcluded⟩

/-- Nothing stands under what is no folder. -/
theorem not_isSource_of_leaf {top node : Node} (htop : top.isFolder = false)
    {folders : List String} {name : String} : ¬ t.IsSource scope shown top folders name node := by
  intro h
  have hentry := h.entry
  cases top with
  | folder _ => cases htop
  | file _ => cases folders <;> cases hentry
  | link _ => cases folders <;> cases hentry

/-! ## All of them -/

/-- No source is found under what is no folder. -/
theorem lists_nil_of_leaf {top : Node} (htop : top.isFolder = false) :
    t.Lists scope shown top [] := by
  refine ⟨?_, List.Pairwise.nil⟩
  intro names
  simp only [List.not_mem_nil, false_iff]
  rintro ⟨folders, name, node, -, h⟩
  exact not_isSource_of_leaf htop h

/-- A source is found by one name at least. -/
theorem Lists.exists_cons {top : Node} {found : List (List String)} {names : List String}
    (h : t.Lists scope shown top found) (hnames : names ∈ found) :
    ∃ name rest, names = name :: rest := by
  obtain ⟨folders, name, node, rfl, -⟩ := (h.exact names).1 hnames
  cases folders with
  | nil => exact ⟨name, [], rfl⟩
  | cons folder folders => exact ⟨folder, folders ++ [name], rfl⟩

/-- The sources under a folder, from those in each of its folders. -/
theorem Lists.folder (hdistinct : (entries.map Prod.fst).Nodup)
    (hshown : shown.utf8ByteSize ≤ Path.sizeLimit) {inner : String × Node → List (List String)}
    (hinner : ∀ e ∈ entered scope shown entries,
      t.Lists scope (Path.join shown e.1) e.2 (inner e)) :
    t.Lists scope shown (.folder entries)
      ((byName (t.ownFiles scope shown entries)).map (fun e => [e.1]) ++
        (byName (entered scope shown entries)).flatMap fun e => (inner e).map (e.1 :: ·)) := by
  have hfiles : ((t.ownFiles scope shown entries).map Prod.fst).Nodup :=
    hdistinct.sublist (List.filter_sublist.map Prod.fst)
  have hfolders : ((entered scope shown entries).map Prod.fst).Nodup :=
    hdistinct.sublist (List.filter_sublist.map Prod.fst)
  constructor
  case exact =>
    intro names
    rw [List.mem_append, List.mem_map, List.mem_flatMap]
    constructor
    · rintro (⟨⟨name, node⟩, he, rfl⟩ | ⟨⟨folder, top⟩, he, hnames⟩)
      · have h := (isSource_nil_iff hdistinct hshown).2 (mem_byName.1 he)
        exact ⟨[], name, node, rfl, h⟩
      · obtain ⟨rest, hrest, rfl⟩ := List.mem_map.1 hnames
        have hmem := mem_byName.1 he
        obtain ⟨folders, name, node, rfl, h⟩ := ((hinner _ hmem).exact rest).1 hrest
        exact ⟨folder :: folders, name, node, rfl, (isSource_cons_iff hdistinct).2 ⟨top, hmem, h⟩⟩
    · rintro ⟨folders, name, node, rfl, h⟩
      cases folders with
      | nil =>
        have hmem := (isSource_nil_iff hdistinct hshown).1 h
        exact .inl ⟨(name, node), mem_byName.2 hmem, rfl⟩
      | cons folder folders =>
        obtain ⟨top, hmem, h⟩ := (isSource_cons_iff hdistinct).1 h
        have hrest := ((hinner _ hmem).exact (folders ++ [name])).2 ⟨folders, name, node, rfl, h⟩
        exact .inr ⟨(folder, top), mem_byName.2 hmem, List.mem_map.2 ⟨_, hrest, rfl⟩⟩
  case ordered =>
    -- what lies in a folder has two names at least, and so comes after every file beside the folder
    have hcons : ∀ e ∈ byName (entered scope shown entries), ∀ names ∈ (inner e).map (e.1 :: ·),
        ∃ c rest, names = e.1 :: c :: rest := by
      intro e he names hnames
      obtain ⟨_, hlater, rfl⟩ := List.mem_map.1 hnames
      obtain ⟨c, rest, rfl⟩ := (hinner e (mem_byName.1 he)).exists_cons hlater
      exact ⟨c, rest, rfl⟩
    rw [List.pairwise_append, List.pairwise_map, List.pairwise_flatMap]
    refine ⟨?_, ⟨?_, ?_⟩, ?_⟩
    · exact (pairwise_byName hfiles).imp .file
    · intro e he
      rw [List.pairwise_map]
      exact (hinner e (mem_byName.1 he)).ordered.imp (.inside e.1)
    · apply (pairwise_byName hfolders).imp_of_mem
      intro a b ha hb hab first hfirst second hsecond
      obtain ⟨c, rest, rfl⟩ := hcons a ha first hfirst
      obtain ⟨d, rest', rfl⟩ := hcons b hb second hsecond
      exact .folder hab c d rest rest'
    · intro first hfirst second hsecond
      obtain ⟨a, -, rfl⟩ := List.mem_map.1 hfirst
      obtain ⟨b, hb, hsecond⟩ := List.mem_flatMap.1 hsecond
      obtain ⟨c, rest, rfl⟩ := hcons b hb second hsecond
      exact .fileFirst a.1 b.1 c rest

/-- The paths that are found under a folder are those of its sources. -/
theorem exists_lists {top : Node} (htop : top.WellFormed)
    (hshown : shown.utf8ByteSize ≤ Path.sizeLimit) :
    ∃ found, t.sourcesUnder scope shown top = found.map (Path.joinAll shown) ∧
      t.Lists scope shown top found := by
  induction htop generalizing shown with
  | file content => exact ⟨[], rfl, lists_nil_of_leaf rfl⟩
  | link target => exact ⟨[], rfl, lists_nil_of_leaf rfl⟩
  | @folder entries hnames hdistinct hentries ih =>
    -- one listing is chosen for each folder that is looked into, under the path it is shown by
    have hinner : ∀ e ∈ entered scope shown entries, ∃ found,
        t.sourcesUnder scope (Path.join shown e.1) e.2 =
          found.map (Path.joinAll (Path.join shown e.1)) ∧
        t.Lists scope (Path.join shown e.1) e.2 found := by
      intro e he
      obtain ⟨hmem, -, -, hreach⟩ := mem_entered_iff.1 he
      exact ih e hmem hreach
    choose! inner hpaths hlists using hinner
    refine ⟨_, ?_, .folder hdistinct hshown hlists⟩
    have hflat : ((byName (entered scope shown entries)).flatMap fun e =>
          t.sourcesUnder scope (Path.join shown e.1) e.2) =
        (byName (entered scope shown entries)).flatMap fun e =>
          ((inner e).map (e.1 :: ·)).map (Path.joinAll shown) := by
      apply List.flatMap_congr
      intro e he
      rw [hpaths e (mem_byName.1 he), List.map_map]
      rfl
    rw [sourcesUnder_folder, hflat, List.map_append, List.map_map, List.map_flatMap]
    rfl

/-- Each path is found once. -/
theorem Lists.nodup_paths {top : Node} (htop : top.WellFormed) {found : List (List String)}
    (h : t.Lists scope shown top found) : (found.map (Path.joinAll shown)).Nodup := by
  have hfound : ∀ names ∈ found, names ≠ [] ∧ ∀ n ∈ names, Path.IsName n := by
    intro names hmem
    obtain ⟨folders, name, node, rfl, hsource⟩ := (h.exact names).1 hmem
    exact ⟨by simp, (htop.of_at? hsource.entry).2⟩
  apply List.Nodup.map_on
  · intro first hfirst second hsecond hsame
    obtain ⟨hne, hnames⟩ := hfound first hfirst
    obtain ⟨hne', hnames'⟩ := hfound second hsecond
    exact Path.joinAll_injective hne hnames hne' hnames' hsame
  · exact h.ordered.imp Precedes.ne

/-! ## From a path on -/

/-- A path that leads to a file is found whatever its name, one with a null character is refused,
and any other that leads to no folder stands for nothing. Under a folder are found the entries that
are neither folders nor links whose paths lead to folders, with one of the asked extensions, as far
as no folder on the way is left out and the path of their own folder is not too long to be followed;
each is found once, the files of a folder by code point and then what is in its folders by code
point. -/
theorem discover_exact (ht : t.WellFormed) (scope : DiscoveryScope) (root : String) :
    (t.isFile root = true → t.discover scope root = .ok [root]) ∧
    (Path.holdsNull root = true → t.discover scope root = .error .nullInPath) ∧
    (Path.holdsNull root = false → t.isFile root = false → t.isFolder root = false →
      t.discover scope root = .ok []) ∧
    (t.isFolder root = true → ∃ (names : List String) (top : Node) (found : List (List String)),
      t.entry root = .ok (names, top) ∧
      t.discover scope root = .ok (found.map (Path.joinAll root)) ∧
      (found.map (Path.joinAll root)).Nodup ∧ t.Lists scope root top found) := by
  refine ⟨discover_of_isFile, discover_of_holdsNull, discover_of_neither, ?_⟩
  intro hfolder
  obtain ⟨names, top, hentry, htop⟩ := isFolder_iff.1 hfolder
  have hwf : top.WellFormed := (ht.root.of_at? (ht.at?_of_entry hentry)).1
  obtain ⟨found, hpaths, hlists⟩ := exists_lists hwf (size_le_of_entry hentry)
  refine ⟨names, top, found, hentry, ?_, hlists.nodup_paths hwf, hlists⟩
  rw [discover_of_folder hentry htop, hpaths]

/-- A path of dots, which leads to the working folder however many there are. -/
def dots : Nat → String
  | 0 => ""
  | n + 1 => "." ++ "/" ++ dots n

/-- Each dot takes two bytes with its slash. -/
theorem size_dots (n : Nat) : (dots n).utf8ByteSize = 2 * n := by
  induction n with
  | zero => rfl
  | succ n ih =>
    have hdot : ("." ++ "/").utf8ByteSize = 2 := by decide
    rw [dots, String.utf8ByteSize_append, ih, hdot]
    omega

/-- Such a path names the folder itself over and over. -/
theorem names_dots (n : Nat) : Path.names (dots n) = List.replicate n "." ++ [""] := by
  induction n with
  | zero => rfl
  | succ n ih =>
    rw [dots, Path.names_append_slash, ih]
    rfl

/-- The walk by it stays where it is. -/
theorem walk_dots (purpose : Purpose) (links n : Nat) (folder : List String) :
    t.walk purpose links folder (List.replicate n "." ++ [""]) =
      t.walk purpose links folder [] := by
  induction n with
  | zero =>
    rw [List.replicate_zero, List.nil_append, walk.eq_def]
    simp
  | succ n ih =>
    rw [List.replicate_succ, List.cons_append, walk.eq_def]
    simpa using ih

/-- One more dot stands in front, with its slash. -/
theorem toList_dots_succ (n : Nat) : (dots (n + 1)).toList = '.' :: '/' :: (dots n).toList := by
  simp [dots]

/-- There is no null character in it. -/
theorem holdsNull_dots (n : Nat) : Path.holdsNull (dots n) = false := by
  induction n with
  | zero => rfl
  | succ n ih =>
    unfold Path.holdsNull at ih ⊢
    rw [toList_dots_succ]
    simpa using ih

/-- Up to the size that a path may have, dots lead to the working folder. -/
theorem entry_dots {n : Nat} {node : Node} (hsize : 2 * (n + 1) ≤ Path.sizeLimit)
    (hnode : t.root.at? t.workingFolder = some node) :
    t.entry (dots (n + 1)) = .ok (t.workingFolder, node) := by
  have hempty : dots (n + 1) ≠ "" := by
    rw [ne_eq, ← String.toList_eq_nil_iff, toList_dots_succ]
    simp
  have hlong : Path.isLong (dots (n + 1)) = false := by
    rw [Path.isLong, size_dots, decide_eq_false_iff_not]
    omega
  have hstart : startOf (dots (n + 1)) t.workingFolder = t.workingFolder := by
    simp [startOf, Path.isAbsolute, toList_dots_succ]
  have hlocate : t.locate .reading (dots (n + 1)) = .ok (.present t.workingFolder node) := by
    unfold locate pathFault?
    rw [if_neg hempty, if_neg (Bool.eq_false_iff.1 hlong), hstart, names_dots, walk_dots, walk,
      hnode]
  unfold entry
  rw [holdsNull_dots, hlocate]
  rfl

/-- A working folder with two folders in it, of which `lib` is left out. -/
def twoFolders : FileTree :=
  { root := .folder [("work", .folder [("dddd", .folder [("x.sol", .file [])]),
      ("lib", .folder [("y.sol", .file [])])])]
    workingFolder := ["work"] }

/-- This tree is well formed. -/
theorem twoFolders_wellFormed : twoFolders.WellFormed := by
  have hleaf : ∀ name, Path.IsName name → (Node.folder [(name, .file [])]).WellFormed := by
    intro name hname
    refine .folder ?_ (by simp) ?_
    · exact List.forall_mem_singleton.2 hname
    · exact List.forall_mem_singleton.2 (.file [])
  have hwork : (Node.folder [("dddd", .folder [("x.sol", .file [])]),
      ("lib", .folder [("y.sol", .file [])])]).WellFormed := by
    refine .folder (by decide) (by decide) ?_
    rw [List.forall_mem_cons, List.forall_mem_singleton]
    exact ⟨hleaf "x.sol" (by decide), hleaf "y.sol" (by decide)⟩
  refine ⟨.folder (by decide) (by decide) ?_, by decide⟩
  exact List.forall_mem_singleton.2 hwork

/-- Short enough a path of dots leads to the working folder of it. -/
theorem twoFolders_entry {n : Nat} (hsize : 2 * (n + 1) ≤ Path.sizeLimit) :
    twoFolders.entry (dots (n + 1)) = .ok (["work"], .folder
      [("dddd", .folder [("x.sol", .file [])]), ("lib", .folder [("y.sol", .file [])])]) :=
  entry_dots hsize rfl

/-- The source has the extension that is asked for. -/
theorem hasExtension_x_sol : Path.HasExtension "x.sol".toList ".sol".toList := by
  rw [Path.hasExtension_iff]
  decide

/-- Under a short path of the working folder the source in `dddd` is found, and that in `lib`, which
is left out, is not. -/
theorem discover_exact_twoFolders :
    twoFolders.WellFormed ∧ ∃ found : List (List String),
      twoFolders.discover ⟨defaultExtensions, defaultExcluded⟩ "./" =
        .ok (found.map (Path.joinAll "./")) ∧
      ["dddd", "x.sol"] ∈ found ∧ ["lib", "y.sol"] ∉ found := by
  have hentry := twoFolders_entry (n := 0) (by decide)
  obtain ⟨names, top, found, htop, hpaths, -, hlists⟩ := (discover_exact twoFolders_wellFormed
    ⟨defaultExtensions, defaultExcluded⟩ (dots 1)).2.2.2 (isFolder_iff.2 ⟨_, _, hentry, rfl⟩)
  cases hentry.symm.trans htop
  refine ⟨twoFolders_wellFormed, found, hpaths, ?_, ?_⟩
  · rw [hlists.exact]
    refine ⟨["dddd"], "x.sol", .file [], rfl, rfl, rfl, nofun, ?_, by decide, by decide⟩
    exact ⟨_, hasExtension_x_sol, by decide⟩
  · rw [hlists.exact]
    rintro ⟨folders, name, node, hnames, h⟩
    have hsplit : ["lib"] ++ ["y.sol"] = folders ++ [name] := hnames
    obtain ⟨rfl, -⟩ := List.append_inj' hsplit rfl
    exact h.notExcluded "lib" List.mem_cons_self (by decide)

/-- Under a path of 4092 bytes that leads to the same folder nothing is found, as the path of `dddd`
has more bytes than a path may have; and a path with a null character makes the finding fail. -/
theorem discover_twoFolders_misses :
    ∃ top, twoFolders.entry (dots 2046) = .ok (["work"], top) ∧ top.isFolder = true ∧
      top.at? ["dddd", "x.sol"] = some (.file []) ∧
      Path.HasExtension "x.sol".toList ".sol".toList ∧
      String.ofList (Text.lower ".sol".toList) ∈ defaultExtensions ∧ "dddd" ∉ defaultExcluded ∧
      twoFolders.discover ⟨defaultExtensions, defaultExcluded⟩ (dots 2046) = .ok [] ∧
      twoFolders.discover ⟨defaultExtensions, defaultExcluded⟩ "\x00" = .error .nullInPath := by
  have hentry := twoFolders_entry (n := 2045) (by decide)
  refine ⟨_, hentry, rfl, rfl, hasExtension_x_sol, by decide, by decide, ?_, ?_⟩
  · have hsize : ¬ (Path.join (dots 2046) "dddd").utf8ByteSize ≤ Path.sizeLimit := by
      have hjoin := Path.size_add_size_le_size_join (dots 2046) "dddd"
      rw [size_dots] at hjoin
      have hname : "dddd".utf8ByteSize = 4 := by decide
      have hlimit : Path.sizeLimit = 4095 := rfl
      omega
    have hfiles : twoFolders.ownFiles ⟨defaultExtensions, defaultExcluded⟩ (dots 2046)
        [("dddd", .folder [("x.sol", .file [])]), ("lib", .folder [("y.sol", .file [])])] = [] := by
      simp [ownFiles, listsAsFile]
    have hfolders : entered ⟨defaultExtensions, defaultExcluded⟩ (dots 2046)
        [("dddd", .folder [("x.sol", .file [])]), ("lib", .folder [("y.sol", .file [])])] = [] := by
      have hlib : "lib" ∈ defaultExcluded := by decide
      simp [entered, Path.isLong, Nat.lt_of_not_le hsize, hlib]
    rw [discover_of_folder hentry rfl, sourcesUnder_folder, hfiles, hfolders]
    simp [byName]
  · exact discover_of_holdsNull (by decide)

end FileTree

end TokenAudit
