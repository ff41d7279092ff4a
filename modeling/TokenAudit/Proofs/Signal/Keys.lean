import TokenAudit.Proofs.Signal.Reading

/-!
# Keys of a bundle

A field of a dictionary is looked up under its wire name and then under its plain name. No key names
two fields, so a key that names no field has no part in any of them. The last entry under a key is
the one that is found; where keys are distinct every entry is, whatever their order.
-/

set_option autoImplicit false

namespace TokenAudit

variable {entries entries' front back : List (String × Datum)} {key name : String} {d : Datum}
  {field field' : SignalField}

/-! ## Lookups -/

/-- A key is looked up in vain exactly when no entry has it. -/
theorem lookup?_eq_none_iff :
    Datum.lookup? key entries = none ↔ key ∉ entries.map (·.1) := by
  rw [Datum.lookup?, List.lookup_eq_none_iff, List.mem_map]
  constructor
  · rintro h ⟨entry, hentry, rfl⟩
    simpa using h entry (List.mem_reverse.2 hentry)
  · intro h entry hentry
    rw [bne_iff_ne]
    rintro rfl
    exact h ⟨entry, List.mem_reverse.1 hentry, rfl⟩

/-- Of two parts the later one is looked up first. -/
theorem lookup?_append (name : String) (front back : List (String × Datum)) :
    Datum.lookup? name (front ++ back) =
      (Datum.lookup? name back).or (Datum.lookup? name front) := by
  unfold Datum.lookup?
  rw [List.reverse_append, List.lookup_append]

/-- Of entries with one key the last one counts. -/
theorem lookup?_cons (name key : String) (d : Datum) (back : List (String × Datum)) :
    Datum.lookup? name ((key, d) :: back) =
      (Datum.lookup? name back).or (if name = key then some d else none) := by
  rw [← List.singleton_append, lookup?_append]
  congr 1
  by_cases h : name = key
  · simp [Datum.lookup?, h]
  · simp [Datum.lookup?, List.lookup_cons, beq_eq_false_iff_ne.2 h, h]

/-- An entry under another key is passed over. -/
theorem lookup?_insert (h : key ≠ name) :
    Datum.lookup? name (front ++ (key, d) :: back) = Datum.lookup? name (front ++ back) := by
  rw [lookup?_append, lookup?_append, lookup?_cons, if_neg (Ne.symm h), Option.or_none]

/-- An entry is found if its key does not come again behind it. -/
theorem lookup?_insert_self (h : key ∉ back.map (·.1)) :
    Datum.lookup? key (front ++ (key, d) :: back) = some d := by
  rw [lookup?_append, lookup?_cons, lookup?_eq_none_iff.2 h, if_pos rfl]
  rfl

/-- Where keys are distinct every entry is found. -/
theorem lookup?_eq_some_iff_mem (hkeys : (entries.map (·.1)).Nodup) :
    Datum.lookup? key entries = some d ↔ (key, d) ∈ entries := by
  refine ⟨Datum.mem_of_lookup?, fun hmem => ?_⟩
  obtain ⟨front, back, rfl⟩ := List.append_of_mem hmem
  rw [List.map_append, List.map_cons, List.nodup_append] at hkeys
  exact lookup?_insert_self (List.nodup_cons.1 hkeys.2.1).1

/-- The order of distinct keys does not matter. -/
theorem lookup?_perm (hkeys : (entries.map (·.1)).Nodup) (h : entries.Perm entries')
    (key : String) : Datum.lookup? key entries' = Datum.lookup? key entries := by
  have hkeys' : (entries'.map (·.1)).Nodup := (h.map (·.1)).nodup_iff.1 hkeys
  ext d
  rw [lookup?_eq_some_iff_mem hkeys', lookup?_eq_some_iff_mem hkeys, h.mem_iff]

/-- What is under one key does not matter to the others. -/
theorem lookup?_filter (h : name ≠ key) (entries : List (String × Datum)) :
    Datum.lookup? name (entries.filter fun e => e.1 ≠ key) = Datum.lookup? name entries := by
  induction entries with
  | nil => rfl
  | cons e entries ih =>
    obtain ⟨k, d⟩ := e
    by_cases hk : k = key
    · rw [List.filter_cons_of_neg (by simpa using hk), ih, lookup?_cons, if_neg (hk ▸ h),
        Option.or_none]
    · rw [List.filter_cons_of_pos (by simpa using hk), lookup?_cons, lookup?_cons, ih]

/-! ## Names of fields -/

/-- A key names a field by its wire name or by its plain name. -/
def SignalField.Named (field : SignalField) (key : String) : Prop :=
  key = field.wireName ∨ key = field.plainName

/-- No key names two fields. -/
theorem SignalField.Named.unique (h : field.Named key) (h' : field'.Named key) :
    field = field' := by
  revert h h'
  rintro (rfl | rfl) (h | h) <;> revert h <;> cases field <;> cases field' <;> decide

/-- A key that names no field can be put anywhere without changing what the fields hold. -/
theorem dictionarySource_insert (h : ∀ field : SignalField, ¬ field.Named key) :
    dictionarySource (front ++ (key, d) :: back) = dictionarySource (front ++ back) := by
  funext field
  have hnames := h field
  rw [SignalField.Named, not_or] at hnames
  unfold dictionarySource foundAt?
  rw [lookup?_insert hnames.1, lookup?_insert hnames.2]

/-- The order of the entries makes no difference if their keys are all different. -/
theorem dictionarySource_perm (hkeys : (entries.map (·.1)).Nodup) (h : entries.Perm entries') :
    dictionarySource entries' = dictionarySource entries := by
  funext field
  unfold dictionarySource foundAt?
  rw [lookup?_perm hkeys h, lookup?_perm hkeys h]

/-- The value of a field is that under its wire name, or else that under its plain name. -/
theorem value_dictionarySource (entries : List (String × Datum)) (field : SignalField) :
    (dictionarySource entries field).map (·.value) =
      (Datum.lookup? field.wireName entries).or (Datum.lookup? field.plainName entries) := by
  unfold dictionarySource foundAt?
  cases Datum.lookup? field.wireName entries with
  | some d => rfl
  | none => cases Datum.lookup? field.plainName entries <;> rfl

/-- What is under the plain name of a field does not matter if the wire name is there. -/
theorem dictionarySource_eq_of_wireName (hnames : field.wireName ≠ field.plainName)
    (hwire : field.wireName ∈ entries.map (·.1))
    (h : (entries'.filter fun e => e.1 ≠ field.plainName) =
      entries.filter fun e => e.1 ≠ field.plainName) :
    dictionarySource entries' = dictionarySource entries := by
  have hlookup {name : String} (hname : name ≠ field.plainName) :
      Datum.lookup? name entries' = Datum.lookup? name entries := by
    rw [← lookup?_filter hname, h, lookup?_filter hname]
  funext other
  unfold dictionarySource foundAt?
  by_cases hother : other = field
  · subst hother
    obtain ⟨d, hd⟩ := Option.ne_none_iff_exists'.1 (mt lookup?_eq_none_iff.1 (not_not.2 hwire))
    rw [hlookup hnames, hd]
    rfl
  · have hne {name : String} (hname : other.Named name) : name ≠ field.plainName := by
      rintro rfl
      exact hother (hname.unique (.inr rfl))
    rw [hlookup (hne (.inl rfl)), hlookup (hne (.inr rfl))]

end TokenAudit
