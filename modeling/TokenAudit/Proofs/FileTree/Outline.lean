import TokenAudit.Proofs.FileTree.Discovery
import TokenAudit.Proofs.FileTree.Writing

/-!
# What does not depend on the content of files

The outline of a tree is the tree with every file emptied. Paths lead to the same places in a tree
and in its outline, and the same sources are found, so nothing but the reading of a file depends on
what the file holds: two trees that differ in one file have the same outline, and a path that leads
elsewhere reads the same in both.
-/

set_option autoImplicit false

namespace TokenAudit

/-! ## Outlines -/

namespace Node

mutual

/-- An entry with every file emptied. -/
def outline : Node → Node
  | file _ => file []
  | folder entries => folder (outlineEntries entries)
  | link target => link target

/-- Entries with every file emptied. -/
def outlineEntries : List (String × Node) → List (String × Node)
  | [] => []
  | (name, node) :: rest => (name, outline node) :: outlineEntries rest

end

variable {node : Node} {name : String}

/-- A name is looked up in the outline as in the entries. -/
theorem lookup_outlineEntries (entries : List (String × Node)) :
    (outlineEntries entries).lookup name = (entries.lookup name).map outline := by
  induction entries with
  | nil => rfl
  | cons e entries ih =>
    obtain ⟨other, inner⟩ := e
    rw [outlineEntries, List.lookup_cons, List.lookup_cons]
    cases name == other with
    | true => rfl
    | false => exact ih

/-- The same for the entries of a node. -/
theorem entry?_outline (node : Node) :
    node.outline.entry? name = (node.entry? name).map outline := by
  cases node with
  | file content => rfl
  | link target => rfl
  | folder entries => exact lookup_outlineEntries entries

/-- The same for any number of names. -/
theorem at?_outline (node : Node) (names : List String) :
    node.outline.at? names = (node.at? names).map outline := by
  induction names generalizing node with
  | nil => rfl
  | cons name names ih =>
    rw [at?, at?, entry?_outline]
    cases node.entry? name with
    | none => rfl
    | some inner => exact ih inner

/-- An entry in place of one with the same outline changes no outline. -/
theorem outlineEntries_modifyEntry {f : Option Node → Option Node} {entries : List (String × Node)}
    (h : ∃ inner, entries.lookup name = some inner)
    (hf : ∀ inner, entries.lookup name = some inner →
      ∃ new, f (some inner) = some new ∧ new.outline = inner.outline) :
    outlineEntries (modifyEntry name f entries) = outlineEntries entries := by
  induction entries with
  | nil =>
    obtain ⟨inner, hinner⟩ := h
    cases hinner
  | cons e entries ih =>
    obtain ⟨other, node⟩ := e
    unfold modifyEntry
    split
    · next hsame =>
      subst hsame
      obtain ⟨new, hnew, houtline⟩ := hf node List.lookup_cons_self
      rw [hnew]
      simp [outlineEntries, houtline]
    · next hother =>
      have hbeq : (name == other) = false := beq_false_of_ne (Ne.symm hother)
      simp only [List.lookup_cons, hbeq] at h hf
      rw [outlineEntries, outlineEntries, ih h hf]

/-- A file with another content changes no outline. -/
theorem outline_modify_file {names : List String} {content other : List UInt8}
    (h : node.at? names = some (file content)) :
    (node.modify (fun _ => some (file other)) names).outline = node.outline := by
  induction names generalizing node with
  | nil => simp [modify]
  | cons name rest ih =>
    obtain ⟨entries, next, rfl, hnext, hinner⟩ := at?_cons_eq_some_iff.1 h
    cases rest with
    | nil =>
      cases hinner
      rw [modify, outline, outline, outlineEntries_modifyEntry ⟨_, hnext⟩]
      intro inner hinner
      cases hnext.symm.trans hinner
      exact ⟨_, rfl, rfl⟩
    | cons second rest =>
      rw [modify_cons (by simp), outline, outline, outlineEntries_modifyEntry ⟨_, hnext⟩]
      intro inner hlookup
      cases hnext.symm.trans hlookup
      exact ⟨_, rfl, ih hinner⟩

/-- A file with another content changes no other file. -/
theorem at?_modify_file {names others : List String} {content kept : List UInt8}
    (h : node.at? names = some (file content)) (other : List UInt8)
    (hkept : node.at? others = some (file kept)) (hne : others ≠ names) :
    (node.modify (fun _ => some (file other)) names).at? others = some (file kept) := by
  induction names generalizing node others with
  | nil => simpa [modify] using hkept
  | cons name rest ih =>
    obtain ⟨entries, next, rfl, hnext, hinner⟩ := at?_cons_eq_some_iff.1 h
    cases others with
    | nil => cases hkept
    | cons o others =>
      by_cases hsame : o = name
      · subst hsame
        obtain ⟨_, next', ⟨⟩, hnext', hinner'⟩ := at?_cons_eq_some_iff.1 hkept
        cases hnext.symm.trans hnext'
        cases rest with
        | nil =>
          -- nothing stands below the file itself
          cases hinner
          cases others with
          | nil => exact absurd rfl hne
          | cons p others => cases hinner'
        | cons second rest =>
          rw [modify_cons (by simp)]
          refine at?_cons_eq_some_iff.2
            ⟨_, _, rfl, lookup_modifyEntry_self ?_, ih hinner hinner' ?_⟩
          · rw [hnext]
            rfl
          · exact fun heq => hne (congrArg (o :: ·) heq)
      · rw [at?_modify_of_ne hsame]
        exact hkept

/-- A new entry in place of a file stands where the file stood. -/
theorem at?_modify_file_self {names : List String} {content : List UInt8} (hne : names ≠ [])
    (h : node.at? names = some (file content)) (new : Node) :
    (node.modify (fun _ => some new) names).at? names = some new := by
  induction names generalizing node with
  | nil => exact absurd rfl hne
  | cons name rest ih =>
    obtain ⟨entries, next, rfl, hnext, hinner⟩ := at?_cons_eq_some_iff.1 h
    cases rest with
    | nil => exact at?_cons_eq_some_iff.2 ⟨_, new, rfl, lookup_modifyEntry_self rfl, rfl⟩
    | cons second rest =>
      rw [modify_cons (by simp)]
      refine at?_cons_eq_some_iff.2
        ⟨_, _, rfl, lookup_modifyEntry_self ?_, ih (by simp) hinner⟩
      rw [hnext]
      rfl

end Node

/-- A place in the outline of a tree. -/
def Place.outline : Place → Place
  | present names node => present names node.outline
  | absent folder name => absent folder name

namespace FileTree

/-- A tree with every file emptied. -/
def outline (t : FileTree) : FileTree :=
  { t with root := t.root.outline }

variable {t : FileTree} {path : String}

/-! ## Paths in the outline -/

/-- A folder is looked into as in the outline. -/
theorem lookIn_outline (t : FileTree) (folder : List String) (name : String) :
    t.outline.lookIn folder name = (t.lookIn folder name).map (Option.map Node.outline) := by
  unfold lookIn
  split
  · rfl
  · exact congrArg Except.ok (Node.at?_outline t.root _)

/-- A walk comes to the same place in the outline. -/
theorem walk_outline (t : FileTree) (purpose : Purpose) (links : Nat) (folder names : List String) :
    t.outline.walk purpose links folder names =
      (t.walk purpose links folder names).map Place.outline := by
  fun_induction walk t purpose links folder names with
  | case1 links folder node hnode =>
    have houtline : t.outline.root.at? folder = some node.outline := by
      rw [outline, Node.at?_outline, hnode]
      rfl
    rw [walk, houtline]
    rfl
  | case2 links folder hnone =>
    have houtline : t.outline.root.at? folder = none := by
      rw [outline, Node.at?_outline, hnone]
      rfl
    rw [walk, houtline]
    rfl
  | case3 links folder name rest hdot ih => rw [walk, if_pos hdot, ih]
  | case4 links folder rest hdot ih => rw [walk, if_neg hdot, if_pos rfl, ih]
  | case5 links folder name rest hdot hup hslashed =>
    rw [walk, if_neg hdot, if_neg hup, if_pos hslashed]
    rfl
  | case6 links folder name rest hdot hup hslashed cause hlook =>
    rw [walk, if_neg hdot, if_neg hup, if_neg hslashed, lookIn_outline, hlook]
    rfl
  | case7 links folder name rest hdot hup hslashed hlook hrest =>
    rw [walk, if_neg hdot, if_neg hup, if_neg hslashed, lookIn_outline, hlook]
    simp only [Except.map, Option.map_none]
    rw [if_pos hrest]
    rfl
  | case8 links folder name rest hdot hup hslashed hlook hrest =>
    rw [walk, if_neg hdot, if_neg hup, if_neg hslashed, lookIn_outline, hlook]
    simp only [Except.map, Option.map_none]
    rw [if_neg hrest]
  | case9 links folder name rest hdot hup hslashed entries hlook ih =>
    rw [walk, if_neg hdot, if_neg hup, if_neg hslashed, lookIn_outline, hlook]
    exact ih
  | case10 links folder name rest hdot hup hslashed content hlook hrest =>
    rw [walk, if_neg hdot, if_neg hup, if_neg hslashed, lookIn_outline, hlook]
    simp only [Except.map, Option.map_some, Node.outline]
    rw [if_pos hrest]
    rfl
  | case11 links folder name rest hdot hup hslashed content hlook hrest =>
    rw [walk, if_neg hdot, if_neg hup, if_neg hslashed, lookIn_outline, hlook]
    simp only [Except.map, Option.map_some, Node.outline]
    rw [if_neg hrest]
  | case12 folder name rest hdot hup hslashed target hlook =>
    rw [walk, if_neg hdot, if_neg hup, if_neg hslashed, lookIn_outline, hlook]
    rfl
  | case13 folder name rest hdot hup hslashed target hlook links ih =>
    rw [walk, if_neg hdot, if_neg hup, if_neg hslashed, lookIn_outline, hlook]
    exact ih

/-- A path leads to the same place in the outline. -/
theorem entry_outline (t : FileTree) (path : String) :
    t.outline.entry path = (t.entry path).map fun found => (found.1, found.2.outline) := by
  have hlocate : t.outline.locate .reading path = (t.locate .reading path).map Place.outline := by
    unfold locate
    split
    · rfl
    · exact walk_outline t _ _ _ _
  unfold entry
  rw [hlocate]
  split
  · rfl
  · cases t.locate .reading path with
    | error cause => rfl
    | ok place => cases place <;> rfl

/-! ## Sources in the outline -/

/-- The outline has the same folders. -/
theorem isFolder_outline (t : FileTree) (path : String) :
    t.outline.isFolder path = t.isFolder path := by
  unfold isFolder
  rw [entry_outline]
  cases t.entry path with
  | error e => rfl
  | ok found =>
    obtain ⟨names, node⟩ := found
    cases node <;> rfl

/-- It lists the same entries as files. -/
theorem listsAsFile_outline (t : FileTree) (shown : String) (node : Node) :
    t.outline.listsAsFile shown node.outline = t.listsAsFile shown node := by
  cases node with
  | file content => rfl
  | folder entries => rfl
  | link target => rw [Node.outline, listsAsFile, listsAsFile, isFolder_outline]

/-- It has the same sources in a folder itself. -/
theorem ownSources_outline (t : FileTree) (scope : DiscoveryScope) (shown : String)
    (entries : List (String × Node)) :
    t.outline.ownSources scope shown (Node.outlineEntries entries) =
      t.ownSources scope shown entries := by
  have hnames : (t.outline.ownFiles scope shown (Node.outlineEntries entries)).map (·.1) =
      (t.ownFiles scope shown entries).map (·.1) := by
    unfold ownFiles
    induction entries with
    | nil => rfl
    | cons e entries ih =>
      obtain ⟨name, node⟩ := e
      simp only [Node.outlineEntries, List.filter_cons, listsAsFile_outline]
      split
      · simp only [List.map_cons, ih]
      · exact ih
  exact congrArg (fun names => (sortedNames names).map (Path.join shown)) hnames

mutual

/-- The same sources are found under an entry and under its outline. -/
theorem sourcesUnder_outline (t : FileTree) (scope : DiscoveryScope) (shown : String) :
    ∀ node : Node, t.outline.sourcesUnder scope shown node.outline = t.sourcesUnder scope shown node
  | .file _ => rfl
  | .link _ => rfl
  | .folder entries => by
    rw [Node.outline, sourcesUnder, sourcesUnder, ownSources_outline,
      sourcesOfFolders_outline t scope shown entries]

/-- It has the same sources in the folders below. -/
theorem sourcesOfFolders_outline (t : FileTree) (scope : DiscoveryScope) (shown : String) :
    ∀ entries : List (String × Node),
      t.outline.sourcesOfFolders scope shown (Node.outlineEntries entries) =
        t.sourcesOfFolders scope shown entries
  | [] => rfl
  | (_, .file _) :: rest => sourcesOfFolders_outline t scope shown rest
  | (_, .link _) :: rest => sourcesOfFolders_outline t scope shown rest
  | (name, .folder entries) :: rest => by
    have hrest := sourcesOfFolders_outline t scope shown rest
    have hinner := sourcesUnder_outline t scope (Path.join shown name) (.folder entries)
    rw [Node.outline] at hinner
    rw [Node.outlineEntries, Node.outline, sourcesOfFolders, sourcesOfFolders, hrest, hinner]

end

/-- The same sources are found in a tree and in its outline. -/
theorem discover_outline (t : FileTree) (scope : DiscoveryScope) (path : String) :
    t.outline.discover scope path = t.discover scope path := by
  unfold discover
  rw [entry_outline]
  cases t.entry path with
  | error e => cases e <;> rfl
  | ok found =>
    obtain ⟨names, node⟩ := found
    have hsources := sourcesUnder_outline t scope path node
    cases node with
    | file content => rfl
    | folder entries => exact congrArg Except.ok hsources
    | link target => rfl

/-! ## One file with another content -/

/-- Whether a path leads to a place. -/
def leadsTo (t : FileTree) (place : List String) (path : String) : Bool :=
  match t.entry path with
  | .ok (names, _) => names == place
  | .error _ => false

/-- A walk that ends at a node ends where the node is. -/
theorem at?_of_walk {purpose : Purpose} {links : Nat} {folder names found : List String}
    {node : Node} (h : t.walk purpose links folder names = .ok (.present found node)) :
    t.root.at? found = some node := by
  fun_induction walk t purpose links folder names with
  | case1 links folder node hnode =>
    cases h
    exact hnode
  | case2 | case5 | case6 | case7 | case8 | case11 | case12 => cases h
  | case3 links folder name rest hdot ih => exact ih h
  | case4 links folder rest hdot ih => exact ih h
  | case9 links folder name rest hdot hup hslashed entries hlook ih => exact ih h
  | case10 links folder name rest hdot hup hslashed content hlook hrest =>
    cases h
    exact at?_of_lookIn hlook
  | case13 folder name rest hdot hup hslashed target hlook links ih => exact ih h

/-- What a path leads to stands in the tree, well formed or not. -/
theorem at?_of_entry {names : List String} {node : Node} (h : t.entry path = .ok (names, node)) :
    t.root.at? names = some node := by
  unfold entry locate at h
  split at h
  · cases h
  · split at h
    · next found inner hplace =>
      cases h
      split at hplace
      · cases hplace
      · exact at?_of_walk hplace
    · cases h
    · cases h

section

variable {place : List String} {content : List UInt8} (h : t.root.at? place = some (.file content))
  (other : List UInt8)

include h

/-- A file with other bytes leaves the outline as it is. -/
theorem outline_put_file : (t.put place (.file other)).outline = t.outline := by
  unfold put outline
  rw [Node.outline_modify_file h]

/-- Another content changes nothing in what is found. -/
theorem discover_put_file (scope : DiscoveryScope) (path : String) :
    (t.put place (.file other)).discover scope path = t.discover scope path := by
  rw [← discover_outline, outline_put_file h, discover_outline]

/-- A path that leads elsewhere reads what it read. -/
theorem contentAt_put_file (hpath : t.leadsTo place path = false) :
    (t.put place (.file other)).contentAt path = t.contentAt path := by
  have hentry := entry_outline (t.put place (.file other)) path
  rw [outline_put_file h, entry_outline] at hentry
  unfold contentAt
  unfold leadsTo at hpath
  cases hold : t.entry path with
  | error e =>
    rw [hold] at hentry
    rw [map_eq_error_iff.1 hentry.symm]
  | ok found =>
    obtain ⟨names, node⟩ := found
    rw [hold] at hentry hpath
    obtain ⟨⟨names', node'⟩, hnew, hsame⟩ := map_eq_ok_iff.1 hentry.symm
    obtain ⟨rfl, houtline⟩ := Prod.mk.injEq _ _ _ _ ▸ hsame
    rw [hnew]
    cases node with
    | folder entries => cases node' <;> first | rfl | cases houtline
    | link target => cases node' <;> first | rfl | cases houtline
    | file kept =>
      have hne : names' ≠ place := by simpa using hpath
      have hkept := Node.at?_modify_file h other (at?_of_entry hold) hne
      cases hkept.symm.trans (at?_of_entry hnew)
      rfl

/-- A path that leads to the file reads its new content. -/
theorem contentAt_put_file_self (hne : place ≠ []) (hpath : t.leadsTo place path = true) :
    (t.put place (.file other)).contentAt path = .ok other := by
  have hentry := entry_outline (t.put place (.file other)) path
  rw [outline_put_file h, entry_outline] at hentry
  unfold contentAt
  unfold leadsTo at hpath
  cases hold : t.entry path with
  | error e =>
    rw [hold] at hpath
    cases hpath
  | ok found =>
    obtain ⟨names, node⟩ := found
    rw [hold] at hentry hpath
    obtain ⟨⟨names', node'⟩, hnew, hsame⟩ := map_eq_ok_iff.1 hentry.symm
    obtain ⟨rfl, -⟩ := Prod.mk.injEq _ _ _ _ ▸ hsame
    obtain rfl : names' = place := by simpa using hpath
    have hself := Node.at?_modify_file_self hne h (.file other)
    cases hself.symm.trans (at?_of_entry hnew)
    rw [hnew]

/-- It is not noticed under a path that does not lead to it. -/
theorem readSource_put_file (hpath : t.leadsTo place path = false) :
    (t.put place (.file other)).readSource path = t.readSource path := by
  unfold readSource
  rw [contentAt_put_file h other hpath]

end

end FileTree

end TokenAudit
