import TokenAudit.Proofs.FileTree.Lookup
import TokenAudit.Proofs.FileTree.Writing

/-!
# A tree with one file

The smallest tree with something to read: a working folder with one file in it, which is reached by
its name.
-/

set_option autoImplicit false

namespace TokenAudit

/-- A name by which a file of the working folder can be opened. -/
def Path.IsPlain (name : String) : Prop :=
  IsName name ∧ name ≠ "." ∧ name ≠ ".." ∧ holdsNull name = false ∧ isLongName name = false

instance (name : String) : Decidable (Path.IsPlain name) :=
  inferInstanceAs (Decidable (_ ∧ _ ∧ _ ∧ _ ∧ _))

namespace FileTree

/-- A tree that holds one file, in its working folder. -/
def single (name : String) (content : List UInt8) : FileTree :=
  { root := .folder [("work", .folder [(name, .file content)])], workingFolder := ["work"] }

variable {name : String} {content : List UInt8}

/-- The working folder is there. -/
theorem single_hasFolder : (single name content).HasFolder (single name content).workingFolder :=
  ⟨_, rfl⟩

/-- The tree is well formed if the name is one. -/
theorem single_wellFormed (h : Path.IsName name) : (single name content).WellFormed := by
  have hwork : (Node.folder [(name, .file content)]).WellFormed := by
    refine .folder ?_ (by simp) ?_
    · exact List.forall_mem_singleton.2 h
    · exact List.forall_mem_singleton.2 (.file content)
  have hname : Path.IsName "work" := by decide
  refine ⟨.folder ?_ (by simp) ?_, ?_⟩
  · exact List.forall_mem_singleton.2 hname
  · exact List.forall_mem_singleton.2 hwork
  · exact List.forall_mem_singleton.2 hname

/-- A plain name is looked up in the working folder. -/
theorem locate_of_isPlain (t : FileTree) (purpose : Purpose) (h : Path.IsPlain name) :
    t.locate purpose name = t.walk purpose linkLimit t.workingFolder [name] := by
  obtain ⟨hname, -, -, -, hlong⟩ := h
  have hfault : pathFault? name = none := by
    have hsize : ¬ Path.isLong name = true := by
      unfold Path.isLongName at hlong
      unfold Path.isLong
      have hlimit : Path.nameLimit ≤ Path.sizeLimit := by decide
      simp only [decide_eq_false_iff_not, decide_eq_true_eq] at hlong ⊢
      omega
    rw [pathFault?, if_neg hname.1, if_neg hsize]
  have hstart : startOf name t.workingFolder = t.workingFolder := by
    have hrelative : ¬ Path.isAbsolute name = true := by
      unfold Path.isAbsolute
      intro habsolute
      exact hname.2 (List.mem_of_head? (of_decide_eq_true habsolute))
    rw [startOf, if_neg hrelative]
  unfold locate
  simp only [hfault, hstart, Path.names_of_isName hname]

/-- A plain name leads to the node at which the walk by it ends. -/
theorem entry_of_present {t : FileTree} {names : List String} {node : Node}
    (h : Path.IsPlain name)
    (hwalk : t.walk .reading linkLimit t.workingFolder [name] = .ok (.present names node)) :
    t.entry name = .ok (names, node) := by
  have hnull : ¬ Path.holdsNull name = true := by simp [h.2.2.2.1]
  unfold entry
  rw [if_neg hnull, locate_of_isPlain t .reading h, hwalk]

/-- It leads to nothing if the walk by it ends where nothing is. -/
theorem entry_of_absent {t : FileTree} {folder : List String} {last : String}
    (h : Path.IsPlain name)
    (hwalk : t.walk .reading linkLimit t.workingFolder [name] = .ok (.absent folder last)) :
    t.entry name = .error (.on name .noSuchEntry) := by
  have hnull : ¬ Path.holdsNull name = true := by simp [h.2.2.2.1]
  unfold entry
  rw [if_neg hnull, locate_of_isPlain t .reading h, hwalk]

/-- The name leads to the file. -/
theorem entry_single (h : Path.IsPlain name) :
    (single name content).entry name = .ok (["work", name], .file content) := by
  apply entry_of_present h
  obtain ⟨hname, hdot, hup, -, hlong⟩ := h
  have hlook : (single name content).lookIn ["work"] name = .ok (some (.file content)) := by
    apply lookIn_eq_ok_iff.2
    simp [hlong, single, Node.at?, Node.entry?]
  exact walk_of_file (by simp [hname.1, hdot]) hup hlook rfl

/-- A file of another name can be put beside the file. -/
theorem exists_store_single {other : String} (h : Path.IsPlain other) (hother : other ≠ name) :
    ∃ t, (single name content).store other [] = .ok t := by
  have hlocate := locate_of_isPlain (single name content) .writing h
  obtain ⟨hname, hdot, hup, hnull, hlong⟩ := h
  have hlook : (single name content).lookIn ["work"] other = .ok none := by
    apply lookIn_eq_ok_iff.2
    simp [hlong, single, Node.at?, Node.entry?, List.lookup_cons, beq_false_of_ne hother]
  have hwalk : (single name content).walk .writing linkLimit ["work"] [other] =
      .ok (.absent ["work"] other) :=
    walk_of_absent (by simp [hname.1, hdot]) hup hlook
  exact ⟨_, updateFile_eq_ok_iff.2 ⟨hnull, _, [], hlocate.trans hwalk, rfl, rfl⟩⟩

/-- The bytes under it are those of the file. -/
theorem contentAt_single (h : Path.IsPlain name) :
    (single name content).contentAt name = .ok content := by
  unfold contentAt
  rw [entry_single h]

/-- It is discovered itself. -/
theorem discover_single (h : Path.IsPlain name) (scope : DiscoveryScope) :
    (single name content).discover scope name = .ok [name] := by
  unfold discover
  rw [entry_single h]

/-- A file that is not too large is read as its decoded bytes. -/
theorem readSource_single (h : Path.IsPlain name) (hsize : content.length ≤ sourceSizeLimit) :
    (single name content).readSource name =
      .ok { notes := [], text := some (Text.Utf8.decodeLossy content) } := by
  rw [readSource_of_contentAt (contentAt_single h), if_neg (Nat.not_lt.2 hsize)]

end FileTree

end TokenAudit
