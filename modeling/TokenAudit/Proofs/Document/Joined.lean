import TokenAudit.Proofs.Document.Text

/-!
# Strings in a document that is read

In no string of a document that is read do the halves of a surrogate pair stand side by side. The
machine keeps this at each step: what it reads on its own is joined, and a container that it closes
holds what it has read before.
-/

set_option autoImplicit false

namespace TokenAudit

/-- The strings in a value are joined. -/
inductive Datum.IsJoined : Datum → Prop
  | null : IsJoined .null
  | bool (b : Bool) : IsJoined (.bool b)
  | int (n : Int) : IsJoined (.int n)
  | float (x : Binary64) : IsJoined (.float x)
  | text {content : RawText} (h : content.IsJoined) : IsJoined (.text content)
  | bytes (bs : List UInt8) : IsJoined (.bytes bs)
  | list {items : List Datum} (h : ∀ d ∈ items, IsJoined d) : IsJoined (.list items)
  | dict {entries : List (String × Datum)} (h : ∀ e ∈ entries, IsJoined e.2) :
      IsJoined (.dict entries)

namespace Document

/-- The items of a list become data one by one. -/
theorem itemsToData_eq_map (items : List Document) : itemsToData items = items.map toDatum := by
  induction items with
  | nil => rfl
  | cons d items ih => rw [itemsToData, ih, List.map_cons]

/-- The entries of an object become data one by one, under their keys. -/
theorem entriesToData_eq_map (entries : List (String × Document)) :
    entriesToData entries = entries.map fun e => (e.1, e.2.toDatum) := by
  induction entries with
  | nil => rfl
  | cons e entries ih => rw [entriesToData, ih, List.map_cons]

/-- The strings in what an open container holds are joined. -/
def Frame.IsJoined : Frame → Prop
  | .list items => ∀ d ∈ items, d.toDatum.IsJoined
  | .object entries _ => ∀ e ∈ entries, e.2.toDatum.IsJoined

/-- The strings in what the machine holds are joined. -/
structure Machine.IsJoined (m : Machine) : Prop where
  frames : ∀ f ∈ m.frames, f.IsJoined
  result : m.result.toDatum.IsJoined

/-- A list of joined data is joined. -/
theorem isJoined_list {items : List Document} (h : ∀ d ∈ items, d.toDatum.IsJoined) :
    (list items).toDatum.IsJoined := by
  rw [toDatum, itemsToData_eq_map]
  apply Datum.IsJoined.list
  rw [List.forall_mem_map]
  exact h

/-- An object with joined values is joined. -/
theorem isJoined_object {entries : List (String × Document)}
    (h : ∀ e ∈ entries, e.2.toDatum.IsJoined) : (object entries).toDatum.IsJoined := by
  rw [toDatum, entriesToData_eq_map]
  apply Datum.IsJoined.dict
  rw [List.forall_mem_map]
  exact h

section

variable {limit : Nat} {m m' : Machine} {input rest : List Char} {d : Document}
  {frames : List Frame}

/-- A number has no strings in it. -/
theorem isJoined_of_number {parts : NumberParts} (h : parts.document = .ok d) :
    d.toDatum.IsJoined := by
  unfold NumberParts.document at h
  split at h
  next =>
    split at h
    next => cases h
    next =>
      cases h
      exact .int _
  next =>
    cases h
    exact .float _

/-- The values of the fixed words hold no texts. -/
theorem isJoined_of_word {word : List Char} (h : (word, d) ∈ wordValues) :
    d.toDatum.IsJoined := by
  simp only [wordValues, List.mem_cons, List.not_mem_nil, or_false, Prod.mk.injEq] at h
  rcases h with ⟨-, rfl⟩ | ⟨-, rfl⟩ | ⟨-, rfl⟩ | ⟨-, rfl⟩ | ⟨-, rfl⟩ | ⟨-, rfl⟩
  · exact .null
  · exact .bool true
  · exact .bool false
  all_goals exact .float _

/-- A value that is no container is read as joined. -/
theorem isJoined_of_readScalar (h : readScalar input = .ok (d, rest)) : d.toDatum.IsJoined := by
  rcases readScalar_cases h with ⟨tail, content, -, hread, rfl⟩ | ⟨word, hword, -⟩ |
    ⟨parts, -, hnumber⟩
  · exact .text (isJoined_of_readText hread)
  · exact isJoined_of_word hword
  · exact isJoined_of_number hnumber

/-- A machine inside of joined containers is joined. -/
theorem isJoined_expecting (h : ∀ f ∈ frames, f.IsJoined) (expects : Expectation) :
    (Machine.expecting frames expects).IsJoined :=
  ⟨h, .null⟩

/-- So is the machine after a joined value in them. -/
theorem isJoined_afterValue (hd : d.toDatum.IsJoined) (h : ∀ f ∈ frames, f.IsJoined) :
    (Machine.afterValue d frames).IsJoined := by
  cases frames with
  | nil => exact ⟨nofun, hd⟩
  | cons f frames =>
    obtain ⟨hf, hframes⟩ := List.forall_mem_cons.1 h
    cases f with
    | list items =>
      exact ⟨List.forall_mem_cons.2 ⟨List.forall_mem_cons.2 ⟨hd, hf⟩, hframes⟩, .null⟩
    | object entries key =>
      exact ⟨List.forall_mem_cons.2 ⟨List.forall_mem_cons.2 ⟨hd, hf⟩, hframes⟩, .null⟩

/-- A step leaves the strings joined. -/
theorem Machine.Takes.isJoined (h : m.Takes limit input m' rest) (hm : m.IsJoined) :
    m'.IsJoined := by
  have houter : ∀ {f outer}, m.frames = f :: outer → f.IsJoined ∧ ∀ g ∈ outer, g.IsJoined := by
    intro f outer hframes
    exact List.forall_mem_cons.1 (hframes ▸ hm.frames)
  cases h with
  | openList =>
    have hnone : (Frame.list []).IsJoined := List.forall_mem_nil _
    exact isJoined_expecting (List.forall_mem_cons.2 ⟨hnone, hm.frames⟩) _
  | openObject =>
    have hnone : (Frame.object [] "").IsJoined := List.forall_mem_nil _
    exact isJoined_expecting (List.forall_mem_cons.2 ⟨hnone, hm.frames⟩) _
  | scalar h => exact isJoined_afterValue (isJoined_of_readScalar h) hm.frames
  | @key entries old outer tail rest content hframes h =>
    obtain ⟨hentries, hothers⟩ := houter hframes
    have hkey : (Frame.object entries content.asString).IsJoined := hentries
    exact isJoined_expecting (List.forall_mem_cons.2 ⟨hkey, hothers⟩) _
  | closeList rest hframes =>
    obtain ⟨hitems, hothers⟩ := houter hframes
    exact isJoined_afterValue (isJoined_list fun d hd => hitems d (List.mem_reverse.1 hd)) hothers
  | closeObject rest hframes =>
    obtain ⟨hentries, hothers⟩ := houter hframes
    exact isJoined_afterValue (isJoined_object fun e he => hentries e (List.mem_reverse.1 he))
      hothers
  | comma => exact isJoined_expecting hm.frames _
  | colon => exact isJoined_expecting hm.frames _

/-- A reading that begins with joined data stays with joined data. -/
theorem Machine.Leads.isJoined (h : Machine.Leads limit m input m' rest) (hm : m.IsJoined) :
    m'.IsJoined := by
  induction h with
  | here m input => exact hm
  | step h hlater ih => exact ih ((takes_of_step h).isJoined hm)

/-- The strings in a document that is read are joined. -/
theorem isJoined_of_read (h : read limit input = .ok d) : d.toDatum.IsJoined := by
  obtain ⟨-, hcomplete⟩ := read_eq_ok_iff.1 h
  obtain ⟨m, left, hleads, ⟨-, -, hresult⟩ | ⟨stop, -, hstop⟩⟩ :=
    exists_leads limit Machine.start input
  · cases hcomplete.symm.trans hresult
    exact (hleads.isJoined (isJoined_expecting (List.forall_mem_nil _) _)).result
  · cases hcomplete.symm.trans hstop

end

end Document

end TokenAudit
