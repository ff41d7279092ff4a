import TokenAudit.FileTree.Edit
import TokenAudit.Proofs.FileTree.Path
import TokenAudit.Proofs.Outcome

/-!
# Trees with distinct names

In a well-formed tree the entries of a folder have distinct names, none of them empty or with a
slash. The empty tree is well formed, and no operation changes that: a name that an operation gives
to an entry comes from between the slashes of a path, and an entry that has the name already is
replaced. So every tree that operations can make is well formed.
-/

set_option autoImplicit false

namespace TokenAudit

/-- The entries of every folder have distinct names. -/
inductive Node.WellFormed : Node → Prop
  | file (content : List UInt8) : WellFormed (.file content)
  | link (target : String) : WellFormed (.link target)
  | folder {entries : List (String × Node)} (hnames : ∀ e ∈ entries, Path.IsName e.1)
      (hdistinct : (entries.map Prod.fst).Nodup) (hinner : ∀ e ∈ entries, WellFormed e.2) :
      WellFormed (.folder entries)

/-- The tree is well formed, and the working folder is reached by names. -/
structure FileTree.WellFormed (t : FileTree) : Prop where
  root : t.root.WellFormed
  workingFolder : ∀ name ∈ t.workingFolder, Path.IsName name

/-- The names from the root to what a path leads to. -/
def Place.names : Place → List String
  | present names _ => names
  | absent folder name => folder ++ [name]

/-- The names that lead to a place can be names of entries, and an entry that is said to be there is
in the tree. -/
structure Place.LiesIn (place : Place) (t : FileTree) : Prop where
  names : ∀ name ∈ place.names, Path.IsName name
  found : ∀ names node, place = .present names node → t.root.at? names = some node

/-- The trees that operations make from the empty tree. -/
inductive FileTree.Reachable : FileTree → Prop
  | empty : Reachable .empty
  | store {t t' : FileTree} {path : String} {content : List UInt8} (ht : t.Reachable)
      (h : t.store path content = .ok t') : Reachable t'
  | append {t t' : FileTree} {path : String} {content : List UInt8} (ht : t.Reachable)
      (h : t.append path content = .ok t') : Reachable t'
  | makeFolder {t t' : FileTree} {path : String} (ht : t.Reachable)
      (h : t.makeFolder path = .ok t') : Reachable t'
  | ensureFolders {t : FileTree} (path : String) (ht : t.Reachable) :
      Reachable (t.ensureFolders path).tree
  | makeLink {t t' : FileTree} {target path : String} (ht : t.Reachable)
      (h : t.makeLink target path = .ok t') : Reachable t'
  | remove {t t' : FileTree} {path : String} (ht : t.Reachable)
      (h : t.remove path = .ok t') : Reachable t'
  | rename {t t' : FileTree} {path newPath : String} (ht : t.Reachable)
      (h : t.rename path newPath = .ok t') : Reachable t'

namespace Node

/-! ## Entries -/

/-- Among names that are all different, a name is looked up as the entry that bears it. -/
theorem lookup_eq_some_iff {entries : List (String × Node)} {name : String} {node : Node}
    (hdistinct : (entries.map Prod.fst).Nodup) :
    entries.lookup name = some node ↔ (name, node) ∈ entries := by
  induction entries with
  | nil => simp
  | cons e entries ih =>
    obtain ⟨other, inner⟩ := e
    rw [List.map_cons, List.nodup_cons] at hdistinct
    by_cases hname : name = other
    · subst hname
      have hnone : (name, node) ∉ entries := fun h => hdistinct.1 (List.mem_map.2 ⟨_, h, rfl⟩)
      simp [hnone, eq_comm]
    · rw [List.lookup_cons, beq_false_of_ne hname]
      simp [ih hdistinct.2, hname]

/-- Below a well-formed entry every entry is well formed, and reached by names. -/
theorem WellFormed.of_at? {node inner : Node} {names : List String} (hnode : node.WellFormed)
    (h : node.at? names = some inner) :
    inner.WellFormed ∧ ∀ name ∈ names, Path.IsName name := by
  induction names generalizing node with
  | nil =>
    cases h
    exact ⟨hnode, by simp⟩
  | cons name names ih =>
    obtain ⟨next, hnext, hinner⟩ := Option.bind_eq_some_iff.1 h
    cases hnode with
    | file => cases hnext
    | link => cases hnext
    | @folder entries hnames hdistinct hentries =>
      have hmem : (name, next) ∈ entries := (lookup_eq_some_iff hdistinct).1 hnext
      obtain ⟨hwf, hrest⟩ := ih (hentries _ hmem) hinner
      refine ⟨hwf, ?_⟩
      intro other hother
      rcases List.mem_cons.1 hother with rfl | hother
      · exact hnames _ hmem
      · exact hrest other hother

/-! ## Changed entries -/

/-- An entry of the changed entries was there before, or is the changed one. -/
theorem mem_modifyEntry {name : String} {f : Option Node → Option Node}
    {entries : List (String × Node)} {e : String × Node} (h : e ∈ modifyEntry name f entries) :
    e ∈ entries ∨ e.1 = name ∧ f (entries.lookup name) = some e.2 := by
  induction entries with
  | nil =>
    obtain ⟨node, hnode, rfl⟩ := List.mem_map.1 h
    exact .inr ⟨rfl, Option.mem_toList.1 hnode⟩
  | cons first entries ih =>
    obtain ⟨other, inner⟩ := first
    unfold modifyEntry at h
    split at h
    · next hname =>
      subst hname
      rcases List.mem_append.1 h with h | h
      · obtain ⟨node, hnode, rfl⟩ := List.mem_map.1 h
        refine .inr ⟨rfl, ?_⟩
        simpa using hnode
      · exact .inl (List.mem_cons_of_mem _ h)
    · next hname =>
      rcases List.mem_cons.1 h with rfl | h
      · exact .inl List.mem_cons_self
      · rcases ih h with h | ⟨hfst, hsnd⟩
        · exact .inl (List.mem_cons_of_mem _ h)
        · refine .inr ⟨hfst, ?_⟩
          rw [List.lookup_cons, beq_false_of_ne (Ne.symm hname)]
          exact hsnd

/-- Names that are all different stay so. -/
theorem nodup_modifyEntry {name : String} {f : Option Node → Option Node}
    {entries : List (String × Node)} (hdistinct : (entries.map Prod.fst).Nodup) :
    ((modifyEntry name f entries).map Prod.fst).Nodup := by
  induction entries with
  | nil => cases hnew : f none <;> simp [modifyEntry, hnew]
  | cons first entries ih =>
    obtain ⟨other, inner⟩ := first
    have hrest := (List.nodup_cons.1 hdistinct).2
    have hother : other ∉ entries.map Prod.fst := (List.nodup_cons.1 hdistinct).1
    unfold modifyEntry
    split
    · next hname =>
      subst hname
      cases hnew : f (some inner) with
      | none => simpa using hrest
      | some node => simpa using hdistinct
    · next hname =>
      rw [List.map_cons, List.nodup_cons]
      refine ⟨?_, ih hrest⟩
      intro hmem
      obtain ⟨e, he, hfst⟩ := List.mem_map.1 hmem
      rcases mem_modifyEntry he with he | ⟨hname', -⟩
      · exact hother (List.mem_map.2 ⟨e, he, hfst⟩)
      · exact hname (hfst.symm.trans hname')

/-- A change of an entry that makes a well-formed one of a well-formed one or of none. -/
def KeepsWellFormed (f : Option Node → Option Node) : Prop :=
  ∀ old, (∀ node ∈ old, WellFormed node) → ∀ node ∈ f old, WellFormed node

/-- A folder stays well formed if an entry is changed into a well-formed one. -/
theorem WellFormed.folder_modifyEntry {entries : List (String × Node)} {name : String}
    {f : Option Node → Option Node} (hentries : (Node.folder entries).WellFormed)
    (hname : Path.IsName name) (hf : KeepsWellFormed f) :
    (Node.folder (modifyEntry name f entries)).WellFormed := by
  cases hentries with
  | folder hnames hdistinct hinner =>
    refine .folder ?_ (nodup_modifyEntry hdistinct) ?_
    · intro e he
      rcases mem_modifyEntry he with he | ⟨rfl, -⟩
      · exact hnames e he
      · exact hname
    · intro e he
      rcases mem_modifyEntry he with he | ⟨-, hnew⟩
      · exact hinner e he
      · apply hf _ _ _ hnew
        intro node hold
        exact hinner _ ((lookup_eq_some_iff hdistinct).1 hold)

/-- A change at the end of a list of names keeps an entry well formed. -/
theorem WellFormed.modify {node : Node} {names : List String} {f : Option Node → Option Node}
    (hnode : node.WellFormed) (hnames : ∀ name ∈ names, Path.IsName name)
    (hf : KeepsWellFormed f) : (node.modify f names).WellFormed := by
  induction names generalizing node with
  | nil => simpa [Node.modify] using hnode
  | cons name rest ih =>
    have hname : Path.IsName name := hnames name List.mem_cons_self
    cases node with
    | file content => simpa [Node.modify] using hnode
    | link target => simpa [Node.modify] using hnode
    | folder entries =>
      cases rest with
      | nil => exact hnode.folder_modifyEntry hname hf
      | cons next rest =>
        apply hnode.folder_modifyEntry hname
        intro old hold new hnew
        obtain ⟨inner, hinner, rfl⟩ := Option.map_eq_some_iff.1 hnew
        apply ih (hold inner hinner)
        intro other hother
        exact hnames other (List.mem_cons_of_mem name hother)

end Node

/-! ## Where paths lead -/

namespace FileTree

variable {t t' : FileTree}

/-- A walk starts in a folder whose names are names. -/
theorem isName_of_mem_startOf {path : String} {folder : List String}
    (hfolder : ∀ name ∈ folder, Path.IsName name) :
    ∀ name ∈ startOf path folder, Path.IsName name := by
  unfold startOf
  split
  · simp
  · exact hfolder

/-- What is found under a name in a folder is what the tree has there. -/
theorem at?_of_lookIn {folder : List String} {name : String} {node : Node}
    (h : t.lookIn folder name = .ok (some node)) : t.root.at? (folder ++ [name]) = some node := by
  unfold lookIn at h
  split at h
  · cases h
  · exact Except.ok.inj h

/-- A step into a folder adds a name to names. -/
theorem isName_of_mem_step {folder rest : List String} {name : String}
    (hfolder : ∀ n ∈ folder, Path.IsName n) (hnames : ∀ n ∈ name :: rest, n ≠ "" → Path.IsName n)
    (hdot : ¬ (name = "" ∨ name = ".")) : ∀ n ∈ folder ++ [name], Path.IsName n := by
  have hname : Path.IsName name := hnames name List.mem_cons_self (not_or.1 hdot).1
  exact List.forall_mem_append.2 ⟨hfolder, List.forall_mem_singleton.2 hname⟩

/-- A walk that begins in a folder reached by names and goes along the names of paths leads to what
is reached by names. -/
theorem liesIn_of_walk {purpose : Purpose} {links : Nat} {folder names : List String}
    {place : Place} (hfolder : ∀ name ∈ folder, Path.IsName name)
    (hnames : ∀ name ∈ names, name ≠ "" → Path.IsName name)
    (h : t.walk purpose links folder names = .ok place) : place.LiesIn t := by
  fun_induction walk t purpose links folder names with
  | case1 links folder node hnode =>
    cases h
    refine ⟨hfolder, ?_⟩
    rintro _ _ ⟨⟩
    exact hnode
  | case2 | case5 | case6 | case8 | case11 | case12 => cases h
  | case3 links folder name rest hdot ih =>
    exact ih hfolder (List.forall_mem_cons.1 hnames).2 h
  | case4 links folder rest hdot ih =>
    refine ih ?_ (List.forall_mem_cons.1 hnames).2 h
    intro name hname
    exact hfolder name (List.dropLast_subset folder hname)
  | case7 links folder name rest hdot hup hslashed hlook hrest =>
    cases h
    refine ⟨isName_of_mem_step hfolder hnames hdot, ?_⟩
    rintro _ _ ⟨⟩
  | case9 links folder name rest hdot hup hslashed entries hlook ih =>
    exact ih (isName_of_mem_step hfolder hnames hdot) (List.forall_mem_cons.1 hnames).2 h
  | case10 links folder name rest hdot hup hslashed content hlook hrest =>
    cases h
    refine ⟨isName_of_mem_step hfolder hnames hdot, ?_⟩
    rintro _ _ ⟨⟩
    exact at?_of_lookIn hlook
  | case13 folder name rest hdot hup hslashed target hlook links ih =>
    -- a link: the walk goes on along the names of its target
    apply ih (isName_of_mem_startOf hfolder) _ h
    refine List.forall_mem_append.2 ⟨?_, (List.forall_mem_cons.1 hnames).2⟩
    intro next hnext
    exact Path.isName_of_mem_names hnext

namespace WellFormed

/-- A place that is found lies in the tree. -/
theorem liesIn_of_locate (ht : t.WellFormed) {purpose : Purpose} {path : String} {place : Place}
    (h : t.locate purpose path = .ok place) : place.LiesIn t := by
  unfold locate at h
  split at h
  · cases h
  · apply liesIn_of_walk (isName_of_mem_startOf ht.workingFolder) _ h
    intro name hname
    exact Path.isName_of_mem_names hname

/-- What a path leads to is an entry of the tree. -/
theorem at?_of_entry (ht : t.WellFormed) {path : String} {names : List String} {node : Node}
    (h : t.entry path = .ok (names, node)) : t.root.at? names = some node := by
  unfold entry at h
  split at h
  · cases h
  · split at h
    · next hplace =>
      cases h
      exact (ht.liesIn_of_locate hplace).found _ _ rfl
    · cases h
    · cases h

/-- The last name of a path, and the names of the folder that it is a name in. -/
theorem isName_of_lastName (ht : t.WellFormed) {path : String} {folder : List String}
    {name : String} {slashed : Bool} (h : t.lastName path = .ok (.named folder name slashed)) :
    ∀ n ∈ folder ++ [name], Path.IsName n := by
  unfold lastName at h
  split at h
  · cases h
  · simp only at h
    split at h
    · cases h
    · next last hlast =>
      have hnames : ∀ n ∈ (Path.names path).filter (· ≠ ""), Path.IsName n := by
        intro n hn
        obtain ⟨hmem, hne⟩ := List.mem_filter.1 hn
        exact Path.isName_of_mem_names hmem (of_decide_eq_true hne)
      split at h
      · cases h
      · cases h
      · next inner node hwalk =>
        have hplace : (Place.present inner node).LiesIn t := by
          apply liesIn_of_walk (isName_of_mem_startOf ht.workingFolder) _ hwalk
          intro n hn hne
          rcases List.mem_append.1 hn with hn | hn
          · exact hnames n (List.dropLast_subset _ hn)
          · exact absurd (List.mem_singleton.1 hn) hne
        split at h
        · cases h
        · cases h
          have hname := hnames _ (List.mem_of_getLast? hlast)
          exact List.forall_mem_append.2 ⟨hplace.names, List.forall_mem_singleton.2 hname⟩

/-! ## Operations -/

/-- A tree stays well formed when a well-formed node is put at names. -/
theorem put (ht : t.WellFormed) {names : List String} {node : Node}
    (hnames : ∀ name ∈ names, Path.IsName name) (hnode : node.WellFormed) :
    (t.put names node).WellFormed := by
  refine ⟨ht.root.modify hnames ?_, ht.workingFolder⟩
  rintro old - _ ⟨⟩
  exact hnode

/-- It stays well formed when something is taken away. -/
theorem erase (ht : t.WellFormed) {names : List String}
    (hnames : ∀ name ∈ names, Path.IsName name) : (t.erase names).WellFormed := by
  refine ⟨ht.root.modify hnames ?_, ht.workingFolder⟩
  rintro old - _ ⟨⟩

/-- An operation that names the path in its failures makes no other tree. -/
theorem of_atPath {path : String} {result : Except FileCause FileTree}
    (h : atPath path result = .ok t') (hresult : ∀ made, result = .ok made → made.WellFormed) :
    t'.WellFormed := by
  unfold atPath at h
  split at h
  · cases h
  · exact hresult t' (mapError_eq_ok_iff.1 h)

/-- Neither does one that names two paths. -/
theorem of_atPaths {path second : String} {result : Except FileCause FileTree}
    (h : atPaths path second result = .ok t')
    (hresult : ∀ made, result = .ok made → made.WellFormed) : t'.WellFormed := by
  unfold atPaths at h
  split at h
  · cases h
  · exact hresult t' (mapError_eq_ok_iff.1 h)

/-- Writing and appending keep a tree well formed. -/
theorem updateFile (ht : t.WellFormed) {path : String} {f : List UInt8 → List UInt8}
    (h : t.updateFile path f = .ok t') : t'.WellFormed := by
  apply of_atPath h
  intro made hmade
  obtain ⟨place, hplace, hmade⟩ := bind_eq_ok_iff.1 hmade
  have hin := ht.liesIn_of_locate hplace
  split at hmade
  · cases hmade
    exact ht.put hin.names (.file _)
  · cases hmade
  · cases hmade
    exact ht.put hin.names (.file _)

/-- Making a folder keeps it well formed. -/
theorem makeFolder (ht : t.WellFormed) {path : String} (h : t.makeFolder path = .ok t') :
    t'.WellFormed := by
  apply of_atPath h
  intro made hmade
  obtain ⟨last, hlast, hmade⟩ := bind_eq_ok_iff.1 hmade
  cases last with
  | fixed => cases hmade
  | named folder name slashed =>
    obtain ⟨found, -, hmade⟩ := bind_eq_ok_iff.1 hmade
    cases found with
    | some node => cases hmade
    | none =>
      cases hmade
      exact ht.put (ht.isName_of_lastName hlast) (.folder (by simp) (by simp) (by simp))

/-- So does making sure that there is one. -/
theorem ensureFolder (ht : t.WellFormed) (path : String) :
    (t.ensureFolder path).tree.WellFormed := by
  unfold FileTree.ensureFolder
  split
  · next made hmade => exact ht.makeFolder hmade
  · exact ht
  · exact ht

/-- So does going on from the folders made so far. -/
theorem andThen {outer : FoldersMade} (houter : outer.tree.WellFormed) (path name : String) :
    (outer.andThen path name).tree.WellFormed := by
  unfold FoldersMade.andThen
  split
  · split
    · exact houter
    · exact houter.ensureFolder path
  · split
    · exact houter
    · exact houter.ensureFolder path
  · exact houter

/-- So does making sure that there are all folders on the way. -/
theorem ensureFoldersWithin (ht : t.WellFormed) (path : String) (depth : Nat) :
    (t.ensureFoldersWithin path depth).tree.WellFormed := by
  induction depth generalizing path with
  | zero => exact ht.ensureFolder path
  | succ depth ih =>
    rw [FileTree.ensureFoldersWithin]
    generalize Path.split path = parts
    obtain ⟨outer, name⟩ := parts
    simp only
    generalize (if name = "" then Path.split outer else (outer, name)) = parts
    obtain ⟨outer, name⟩ := parts
    simp only
    split
    · exact (ih outer).andThen path name
    · exact ht.ensureFolder path

/-- So does removing an entry. -/
theorem remove (ht : t.WellFormed) {path : String} (h : t.remove path = .ok t') :
    t'.WellFormed := by
  apply of_atPath h
  intro made hmade
  obtain ⟨last, hlast, hmade⟩ := bind_eq_ok_iff.1 hmade
  cases last with
  | fixed => cases hmade
  | named folder name slashed =>
    obtain ⟨found, -, hmade⟩ := bind_eq_ok_iff.1 hmade
    split at hmade
    · cases hmade
    · cases hmade
    · split at hmade
      · cases hmade
      · cases hmade
        exact ht.erase (ht.isName_of_lastName hlast)

/-- So does making a link. -/
theorem makeLink (ht : t.WellFormed) {target path : String} (h : t.makeLink target path = .ok t') :
    t'.WellFormed := by
  apply of_atPaths h
  intro made hmade
  split at hmade
  · cases hmade
  · obtain ⟨last, hlast, hmade⟩ := bind_eq_ok_iff.1 hmade
    cases last with
    | fixed => cases hmade
    | named folder name slashed =>
      obtain ⟨found, -, hmade⟩ := bind_eq_ok_iff.1 hmade
      split at hmade
      · cases hmade
      · split at hmade
        · cases hmade
        · cases hmade
          exact ht.put (ht.isName_of_lastName hlast) (.link target)

/-- So does renaming an entry. -/
theorem rename (ht : t.WellFormed) {path newPath : String} (h : t.rename path newPath = .ok t') :
    t'.WellFormed := by
  apply of_atPaths h
  intro made hmade
  obtain ⟨last, hlast, hmade⟩ := bind_eq_ok_iff.1 hmade
  obtain ⟨next, hnext, hmade⟩ := bind_eq_ok_iff.1 hmade
  split at hmade
  · next folder name slashed newFolder newName newSlashed =>
    obtain ⟨found, hfound, hmade⟩ := bind_eq_ok_iff.1 hmade
    cases found with
    | none => cases hmade
    | some node =>
      have hnames := ht.isName_of_lastName hlast
      have hnode := (ht.root.of_at? (at?_of_lookIn hfound)).1
      have hmoved := (ht.erase hnames).put (ht.isName_of_lastName hnext) hnode
      obtain ⟨other, -, hmade⟩ := bind_eq_ok_iff.1 hmade
      -- the refusals come first, then the entry that stays where it is, then the move
      split at hmade
      · cases hmade
      split at hmade
      · cases hmade
      split at hmade
      · cases hmade
      split at hmade
      · cases hmade
        exact ht
      split at hmade
      · cases hmade
      · cases hmade
        exact hmoved
  · cases hmade

end WellFormed

/-- The tree that operations begin with is well formed. -/
theorem empty_wellFormed : FileTree.empty.WellFormed := by
  have hwork : Path.IsName "work" := by decide
  have hfolder : (Node.folder []).WellFormed := .folder (by simp) (by simp) (by simp)
  refine ⟨.folder ?_ (by simp) ?_, List.forall_mem_singleton.2 hwork⟩
  · exact List.forall_mem_singleton.2 hwork
  · exact List.forall_mem_singleton.2 hfolder

/-- Every tree that operations make is well formed. -/
theorem Reachable.wellFormed (h : t.Reachable) : t.WellFormed := by
  induction h with
  | empty => exact empty_wellFormed
  | store ht h ih => exact ih.updateFile h
  | append ht h ih => exact ih.updateFile h
  | makeFolder ht h ih => exact ih.makeFolder h
  | ensureFolders path ht ih => exact ih.ensureFoldersWithin path path.length
  | makeLink ht h ih => exact ih.makeLink h
  | remove ht h ih => exact ih.remove h
  | rename ht h ih => exact ih.rename h

end FileTree

end TokenAudit
