import TokenAudit.Proofs.FileTree.WellFormed

/-!
# Writing to a file

Whether a file can be written depends on its path and not on what is written. What was written can
be read under the same path: the file stands where the path led to, and a new file changes no
folder and no link on the way there.
-/

set_option autoImplicit false

namespace TokenAudit

/-- What the file at a place holds, a missing file nothing; no other entry can be written to. -/
def Place.oldContent? : Place → Option (List UInt8)
  | present _ (.file content) => some content
  | present _ _ => none
  | absent _ _ => some []

/-- Two entries that a walk cannot tell apart: two folders, or two links with one target. -/
inductive Node.Resembles : Node → Node → Prop
  | folder (entries entries' : List (String × Node)) :
      Resembles (.folder entries) (.folder entries')
  | link (target : String) : Resembles (.link target) (.link target)

/-- There is a folder at a list of names. -/
def FileTree.HasFolder (t : FileTree) (names : List String) : Prop :=
  ∃ entries, t.root.at? names = some (.folder entries)

/-! ## The tree with a new file -/

namespace Node

/-- The changed entry is found under its name. -/
theorem lookup_modifyEntry_self {name : String} {f : Option Node → Option Node} {new : Node}
    {entries : List (String × Node)} (h : f (entries.lookup name) = some new) :
    (modifyEntry name f entries).lookup name = some new := by
  induction entries with
  | nil =>
    have hnew : f none = some new := h
    simp [modifyEntry, hnew]
  | cons e entries ih =>
    obtain ⟨other, inner⟩ := e
    unfold modifyEntry
    split
    · next hsame =>
      subst hsame
      rw [List.lookup_cons_self] at h
      simp [h]
    · next hother =>
      have hbeq : (name == other) = false := beq_false_of_ne (Ne.symm hother)
      rw [List.lookup_cons, hbeq] at h ⊢
      exact ih h

/-- Under every other name the same is found as before. -/
theorem lookup_modifyEntry_of_ne {name other : String} {f : Option Node → Option Node}
    {entries : List (String × Node)} (h : other ≠ name) :
    (modifyEntry name f entries).lookup other = entries.lookup other := by
  have hbeq : (other == name) = false := beq_false_of_ne h
  induction entries with
  | nil => cases hnew : f none <;> simp [modifyEntry, hnew, List.lookup_cons, hbeq]
  | cons e entries ih =>
    obtain ⟨first, inner⟩ := e
    unfold modifyEntry
    split
    · next hsame =>
      subst hsame
      cases hnew : f (some inner) <;> simp [List.lookup_cons, hbeq]
    · rw [List.lookup_cons, List.lookup_cons, ih]

/-- A change further down is a change of the entry on the way there. -/
theorem modify_cons {name : String} {rest : List String} {f : Option Node → Option Node}
    {entries : List (String × Node)} (h : rest ≠ []) :
    (folder entries).modify f (name :: rest) =
      folder (modifyEntry name (fun node => node.map (modify f rest)) entries) := by
  cases rest with
  | nil => exact absurd rfl h
  | cons next rest => rfl

/-- What stands under names stands in a folder under the first of them. -/
theorem at?_cons_eq_some_iff {node inner : Node} {name : String} {rest : List String} :
    node.at? (name :: rest) = some inner ↔
      ∃ entries next, node = .folder entries ∧ entries.lookup name = some next ∧
        next.at? rest = some inner := by
  rw [at?, Option.bind_eq_some_iff]
  constructor
  · rintro ⟨next, hnext, hinner⟩
    cases node with
    | file content => cases hnext
    | link target => cases hnext
    | folder entries => exact ⟨entries, next, rfl, hnext, hinner⟩
  · rintro ⟨entries, next, rfl, hnext, hinner⟩
    exact ⟨next, hnext, hinner⟩

/-- What is put into a folder stands there. -/
theorem at?_modify_self {node new : Node} {names : List String} {name : String}
    {entries : List (String × Node)} (h : node.at? names = some (.folder entries)) :
    (node.modify (fun _ => some new) (names ++ [name])).at? (names ++ [name]) = some new := by
  induction names generalizing node with
  | nil =>
    cases h
    exact at?_cons_eq_some_iff.2 ⟨_, new, rfl, lookup_modifyEntry_self rfl, rfl⟩
  | cons first names ih =>
    obtain ⟨outer, next, rfl, hnext, hinner⟩ := at?_cons_eq_some_iff.1 h
    rw [List.cons_append, modify_cons (by simp)]
    refine at?_cons_eq_some_iff.2 ⟨_, _, rfl, lookup_modifyEntry_self ?_, ih hinner⟩
    rw [hnext]
    rfl

/-- Nothing is changed under another name. -/
theorem at?_modify_of_ne {first name : String} {rest others : List String}
    {f : Option Node → Option Node} {entries : List (String × Node)} (h : name ≠ first) :
    ((folder entries).modify f (first :: rest)).at? (name :: others) =
      (folder entries).at? (name :: others) := by
  cases rest with
  | nil =>
    have hlookup : (modifyEntry first f entries).lookup name = entries.lookup name :=
      lookup_modifyEntry_of_ne h
    simp only [modify, at?, entry?, hlookup]
  | cons second rest =>
    rw [modify_cons (by simp)]
    simp only [at?, entry?, lookup_modifyEntry_of_ne h]

/-- A new file in place of a file, or where nothing was, changes no link, and no folder into
something else. -/
theorem resembles_at?_modify {node new found : Node} {names other : List String}
    (hleaf : ∀ old, node.at? names = some old → ∃ content, old = .file content)
    (h : node.at? other = some found) (hfound : ∀ content, found ≠ .file content) :
    ∃ found', (node.modify (fun _ => some new) names).at? other = some found' ∧
      found.Resembles found' := by
  have hrefl : found.Resembles found := by
    cases found with
    | file content => exact absurd rfl (hfound content)
    | folder entries => exact .folder entries entries
    | link target => exact .link target
  induction names generalizing node other with
  | nil => exact ⟨found, by simpa [modify] using h, hrefl⟩
  | cons first rest ih =>
    cases node with
    | file content => exact ⟨found, by simpa [modify] using h, hrefl⟩
    | link target => exact ⟨found, by simpa [modify] using h, hrefl⟩
    | folder entries =>
      cases other with
      | nil =>
        cases h
        cases rest with
        | nil => exact ⟨_, rfl, .folder entries _⟩
        | cons next rest => exact ⟨_, rfl, .folder entries _⟩
      | cons o others =>
        obtain ⟨_, next, ⟨⟩, hnext, hinner⟩ := at?_cons_eq_some_iff.1 h
        by_cases hsame : o = first
        · subst hsame
          cases rest with
          | nil =>
            -- the file itself: nothing stands below it
            obtain ⟨content, rfl⟩ := hleaf next (at?_cons_eq_some_iff.2 ⟨_, next, rfl, hnext, rfl⟩)
            cases others with
            | nil =>
              cases hinner
              exact absurd rfl (hfound content)
            | cons p others => cases hinner
          | cons second rest =>
            have hbelow : ∀ old, next.at? (second :: rest) = some old →
                ∃ content, old = .file content := by
              intro old hold
              exact hleaf old (at?_cons_eq_some_iff.2 ⟨_, next, rfl, hnext, hold⟩)
            obtain ⟨found', hfound', hres⟩ := ih hbelow hinner
            refine ⟨found', ?_, hres⟩
            rw [modify_cons (by simp)]
            refine at?_cons_eq_some_iff.2 ⟨_, _, rfl, lookup_modifyEntry_self ?_, hfound'⟩
            rw [hnext]
            rfl
        · rw [at?_modify_of_ne hsame]
          exact ⟨found, h, hrefl⟩

/-- What stands around a folder are folders. -/
theorem exists_folder_of_append {node : Node} {names later : List String}
    {entries : List (String × Node)} (h : node.at? (names ++ later) = some (.folder entries)) :
    ∃ outer, node.at? names = some (.folder outer) := by
  induction names generalizing node with
  | nil =>
    cases later with
    | nil => exact ⟨entries, h⟩
    | cons name later =>
      obtain ⟨outer, -, rfl, -⟩ := at?_cons_eq_some_iff.1 h
      exact ⟨outer, rfl⟩
  | cons name names ih =>
    obtain ⟨outer, next, rfl, hnext, hinner⟩ := at?_cons_eq_some_iff.1 h
    obtain ⟨inner, hfolder⟩ := ih hinner
    exact ⟨inner, at?_cons_eq_some_iff.2 ⟨outer, next, rfl, hnext, hfolder⟩⟩

end Node

namespace FileTree

variable {t t' : FileTree} {path : String}

namespace HasFolder

/-- On the way to a folder there are folders. -/
theorem of_append {names later : List String} (h : t.HasFolder (names ++ later)) :
    t.HasFolder names :=
  Node.exists_folder_of_append h.choose_spec

/-- So the folder around it is one. -/
theorem dropLast {names : List String} (h : t.HasFolder names) : t.HasFolder names.dropLast := by
  rcases List.eq_nil_or_concat names with rfl | ⟨front, name, rfl⟩
  · exact h
  · rw [List.concat_eq_append] at h ⊢
    rw [List.dropLast_concat]
    exact h.of_append

/-- A walk starts in a folder. -/
theorem startOf {names : List String} (h : t.HasFolder names) (path : String) :
    t.HasFolder (startOf path names) := by
  unfold FileTree.startOf
  split
  · have hroot : t.HasFolder ([] ++ names) := h
    exact hroot.of_append
  · exact h

end HasFolder

/-! ## Where a file is written -/

/-- A file is written where its path leads to, if it can be. -/
theorem updateFile_eq_ok_iff {f : List UInt8 → List UInt8} :
    t.updateFile path f = .ok t' ↔ Path.holdsNull path = false ∧
      ∃ place old, t.locate .writing path = .ok place ∧ place.oldContent? = some old ∧
        t' = t.put place.names (.file (f old)) := by
  unfold updateFile atPath
  cases Path.holdsNull path with
  | true => simp
  | false =>
    rw [if_neg (by simp), mapError_eq_ok_iff, bind_eq_ok_iff]
    constructor
    · rintro ⟨place, hplace, h⟩
      refine ⟨rfl, place, ?_⟩
      cases place with
      | absent folder name =>
        cases h
        exact ⟨[], hplace, rfl, rfl⟩
      | present names node =>
        cases node with
        | file content =>
          cases h
          exact ⟨content, hplace, rfl, rfl⟩
        | folder entries => cases h
        | link target => cases h
    · rintro ⟨-, place, old, hplace, hold, rfl⟩
      refine ⟨place, hplace, ?_⟩
      cases place with
      | absent folder name =>
        cases hold
        rfl
      | present names node =>
        cases node with
        | file content =>
          cases hold
          rfl
        | folder entries => cases hold
        | link target => cases hold

/-- Where something can be written, anything can. -/
theorem exists_store {content : List UInt8} (h : t.store path content = .ok t')
    (other : List UInt8) : ∃ t'', t.store path other = .ok t'' := by
  obtain ⟨hnull, place, old, hplace, hold, -⟩ := updateFile_eq_ok_iff.1 h
  exact ⟨_, updateFile_eq_ok_iff.2 ⟨hnull, place, old, hplace, hold, rfl⟩⟩

/-! ## Reading what was written -/

/-- A place that can be written to: a file, or nothing yet, in a folder. -/
structure Writable (t : FileTree) (place : Place) : Prop where
  leaf : ∀ node, t.root.at? place.names = some node → ∃ content, node = .file content
  inFolder : ∃ folder name, place.names = folder ++ [name] ∧ t.HasFolder folder

/-- A name is looked up in a folder unless it is too long. -/
theorem lookIn_eq_ok_iff {folder : List String} {name : String} {found : Option Node} :
    t.lookIn folder name = .ok found ↔
      Path.isLongName name = false ∧ t.root.at? (folder ++ [name]) = found := by
  unfold lookIn
  cases Path.isLongName name with
  | true => simp
  | false => simp

/-- A file, or nothing, at the end of a walk can be written over. -/
theorem writable_of_walk {purpose : Purpose} {links : Nat} {folder names : List String}
    {place : Place} {old : List UInt8} (hfolder : t.HasFolder folder)
    (h : t.walk purpose links folder names = .ok place) (hold : place.oldContent? = some old) :
    t.Writable place := by
  fun_induction walk t purpose links folder names with
  | case1 links folder node hnode =>
    cases h
    obtain ⟨entries, hentries⟩ := hfolder
    cases hnode.symm.trans hentries
    cases hold
  | case2 | case5 | case6 | case8 | case11 | case12 => cases h
  | case3 links folder name rest hdot ih => exact ih hfolder h
  | case4 links folder rest hdot ih => exact ih hfolder.dropLast h
  | case7 links folder name rest hdot hup hslashed hlook hrest =>
    cases h
    refine ⟨?_, folder, name, rfl, hfolder⟩
    intro node hnode
    cases (lookIn_eq_ok_iff.1 hlook).2.symm.trans hnode
  | case9 links folder name rest hdot hup hslashed entries hlook ih =>
    exact ih ⟨entries, at?_of_lookIn hlook⟩ h
  | case10 links folder name rest hdot hup hslashed content hlook hrest =>
    cases h
    refine ⟨?_, folder, name, rfl, hfolder⟩
    intro node hnode
    exact ⟨content, Option.some.inj (hnode.symm.trans (at?_of_lookIn hlook))⟩
  | case13 folder name rest hdot hup hslashed target hlook links ih =>
    exact ih (hfolder.startOf target) h

/-! Where a name leads to, by what is found under it. -/

section

variable {links : Nat} {folder rest : List String} {name : String}

/-- A walk ends at a file under the last name. -/
theorem walk_of_file {content : List UInt8} (hdot : ¬ (name = "" ∨ name = ".")) (hup : name ≠ "..")
    (hlook : t.lookIn folder name = .ok (some (.file content))) (hrest : rest.isEmpty = true) :
    t.walk .reading links folder (name :: rest) =
      .ok (.present (folder ++ [name]) (.file content)) := by
  rw [walk, if_neg hdot, if_neg hup, if_neg (by simp), hlook]
  simp [hrest]

/-- It ends where nothing is under the last name. -/
theorem walk_of_absent {purpose : Purpose} (hdot : ¬ (name = "" ∨ name = ".")) (hup : name ≠ "..")
    (hlook : t.lookIn folder name = .ok none) :
    t.walk purpose links folder [name] = .ok (.absent folder name) := by
  rw [walk, if_neg hdot, if_neg hup, if_neg (by simp), hlook]
  rfl

/-- It goes on in a folder. -/
theorem walk_of_folder {entries : List (String × Node)} (hdot : ¬ (name = "" ∨ name = "."))
    (hup : name ≠ "..") (hlook : t.lookIn folder name = .ok (some (.folder entries))) :
    t.walk .reading links folder (name :: rest) =
      t.walk .reading links (folder ++ [name]) rest := by
  rw [walk, if_neg hdot, if_neg hup, if_neg (by simp), hlook]

/-- It goes on at the target of a link, and one link less may follow. -/
theorem walk_of_link {target : String} (hdot : ¬ (name = "" ∨ name = ".")) (hup : name ≠ "..")
    (hlook : t.lookIn folder name = .ok (some (.link target))) :
    t.walk .reading (links + 1) folder (name :: rest) =
      t.walk .reading links (startOf target folder) (Path.names target ++ rest) := by
  rw [walk, if_neg hdot, if_neg hup, if_neg (by simp), hlook]

end

/-- A path under which a file is written leads to that file afterwards. -/
theorem walk_put {links : Nat} {folder names : List String} {place : Place} {content : List UInt8}
    (hplace : t.Writable place) (hfolder : t.HasFolder folder)
    (h : t.walk .writing links folder names = .ok place) :
    (t.put place.names (.file content)).walk .reading links folder names =
      .ok (.present place.names (.file content)) := by
  have hself : (t.put place.names (.file content)).root.at? place.names = some (.file content) := by
    obtain ⟨outer, name, hnames, entries, hentries⟩ := hplace.inFolder
    rw [hnames]
    exact Node.at?_modify_self hentries
  have hkept : ∀ names found, t.root.at? names = some found → (∀ c, found ≠ .file c) →
      ∃ found', (t.put place.names (.file content)).root.at? names = some found' ∧
        found.Resembles found' := by
    intro names found hfound hnofile
    exact Node.resembles_at?_modify hplace.leaf hfound hnofile
  generalize hpurpose : Purpose.writing = purpose at h
  fun_induction walk t purpose links folder names with
  | case1 links folder node hnode =>
    cases h
    obtain ⟨entries, hentries⟩ := hfolder
    cases hnode.symm.trans hentries
    obtain ⟨c, hc⟩ := hplace.leaf _ hnode
    cases hc
  | case2 | case5 | case6 | case8 | case11 | case12 => cases h
  | case3 links folder name rest hdot ih =>
    rw [walk, if_pos hdot]
    exact ih hfolder h
  | case4 links folder rest hdot ih =>
    rw [walk, if_neg hdot, if_pos rfl]
    exact ih hfolder.dropLast h
  | case7 links folder name rest hdot hup hslashed hlook hrest =>
    cases h
    have hlooked : (t.put (folder ++ [name]) (.file content)).lookIn folder name =
        .ok (some (.file content)) := lookIn_eq_ok_iff.2 ⟨(lookIn_eq_ok_iff.1 hlook).1, hself⟩
    exact walk_of_file hdot hup hlooked hrest
  | case9 links folder name rest hdot hup hslashed entries hlook ih =>
    obtain ⟨hlong, hat⟩ := lookIn_eq_ok_iff.1 hlook
    obtain ⟨found', hfound', hres⟩ := hkept _ _ hat (by simp)
    cases hres with
    | folder _ entries' =>
      rw [walk_of_folder hdot hup (lookIn_eq_ok_iff.2 ⟨hlong, hfound'⟩)]
      exact ih ⟨entries, hat⟩ h
  | case10 links folder name rest hdot hup hslashed c hlook hrest =>
    cases h
    have hlooked : (t.put (folder ++ [name]) (.file content)).lookIn folder name =
        .ok (some (.file content)) := lookIn_eq_ok_iff.2 ⟨(lookIn_eq_ok_iff.1 hlook).1, hself⟩
    exact walk_of_file hdot hup hlooked hrest
  | case13 folder name rest hdot hup hslashed target hlook links ih =>
    obtain ⟨hlong, hat⟩ := lookIn_eq_ok_iff.1 hlook
    obtain ⟨found', hfound', hres⟩ := hkept _ _ hat (by simp)
    cases hres
    rw [walk_of_link hdot hup (lookIn_eq_ok_iff.2 ⟨hlong, hfound'⟩)]
    exact ih (hfolder.startOf target) h

/-- In a tree whose working folder is there, what was written to a file can be read from it. -/
theorem contentAt_of_store {content : List UInt8} (hwork : t.HasFolder t.workingFolder)
    (h : t.store path content = .ok t') : t'.contentAt path = .ok content := by
  obtain ⟨hnull, place, old, hplace, hold, rfl⟩ := updateFile_eq_ok_iff.1 h
  have hlocate : (t.put place.names (.file content)).locate .reading path =
      .ok (.present place.names (.file content)) := by
    unfold locate at hplace ⊢
    cases hfault : pathFault? path with
    | some cause =>
      rw [hfault] at hplace
      cases hplace
    | none =>
      rw [hfault] at hplace
      have hstart := hwork.startOf path
      exact walk_put (writable_of_walk hstart hplace hold) hstart hplace
  unfold contentAt entry
  rw [if_neg (by simp [hnull]), hlocate]

end FileTree

end TokenAudit
