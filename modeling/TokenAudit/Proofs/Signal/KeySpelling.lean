import Mathlib.Logic.Relation
import TokenAudit.Proofs.Signal.EntryPaths
import TokenAudit.Proofs.Signal.Keys
import TokenAudit.Signal.Rating

/-!
# Bundles with other keys

Reordering the keys of a dictionary, or adding one that names no field, changes nothing of what is
found for a field. Writing the plain name of a field for its wire name changes where its value is
found, and not the value. So after any number of such steps the rating is the same, or the class of
the fault that stands in its place. A value under the plain name beside one under the wire name is
not looked at.
-/

set_option autoImplicit false

namespace TokenAudit

variable {entries entries' front back : List (String × Datum)} {key : String} {d : Datum}
  {field : SignalField}

/-! ## The same values -/

/-- Warnings read the same wherever they are found. -/
theorem warningList_of_value_eq {found found' : Option Found}
    (h : found'.map (·.value) = found.map (·.value)) (w : List RawText) :
    warningList found' = .ok w ↔ warningList found = .ok w := by
  cases found with
  | none => rw [Option.map_eq_none_iff.1 h]
  | some f =>
    obtain ⟨f', rfl, hvalue⟩ := Option.map_eq_some_iff.1 h
    obtain ⟨location, value⟩ := f
    obtain ⟨location', value'⟩ := f'
    cases hvalue
    cases value with
    | null => rfl
    | list items => exact warningList_list_iff.trans warningList_list_iff.symm
    | _ => exact ⟨nofun, nofun⟩

namespace SameValues

/-- Sources with the same value for each field hold the same values. -/
theorem of_value_eq {source source' : FieldSource}
    (h : ∀ field, (source' field).map (·.value) = (source field).map (·.value)) :
    SameValues source source' where
  values field _ := h field
  warnings := warningList_of_value_eq (h .warnings)

/-- Equal sources do. -/
theorem of_eq {source source' : FieldSource} (h : source' = source) :
    SameValues source source' :=
  .of_value_eq fun field => congrArg (Option.map (·.value)) (congrFun h field)

/-- What holds the same values as a second source holds the same as a third that does. -/
theorem trans {a b c : FieldSource} (h : SameValues a b) (h' : SameValues b c) :
    SameValues a c where
  values field hfield := (h'.values field hfield).trans (h.values field hfield)
  warnings w := (h'.warnings w).trans (h.warnings w)

end SameValues

/-! ## Respelling a dictionary -/

/-- One way of writing a dictionary differently: its keys in another order, one more key that names
no field, or the plain name of a field, if it is not taken, for its wire name. -/
inductive Respelling : List (String × Datum) → List (String × Datum) → Prop
  | reordered {entries entries' : List (String × Datum)} (perm : entries.Perm entries') :
      Respelling entries entries'
  | added {front back : List (String × Datum)} {key : String} (d : Datum)
      (foreign : ∀ field : SignalField, ¬ field.Named key)
      (unused : key ∉ (front ++ back).map (·.1)) :
      Respelling (front ++ back) (front ++ (key, d) :: back)
  | renamed {front back : List (String × Datum)} (field : SignalField) (d : Datum)
      (unused : field.plainName ∉ (front ++ back).map (·.1)) :
      Respelling (front ++ (field.wireName, d) :: back) (front ++ (field.plainName, d) :: back)

/-- Keys are all different exactly when the one is not among the others, and these are different. -/
theorem nodup_insert_iff :
    ((front ++ (key, d) :: back).map (·.1)).Nodup ↔
      key ∉ (front ++ back).map (·.1) ∧ ((front ++ back).map (·.1)).Nodup := by
  rw [(List.perm_middle.map _).nodup_iff, List.map_cons, List.nodup_cons]

/-- The only value of a field is found under either name. -/
theorem value_insert (hwire : field.wireName ∉ (front ++ back).map (·.1))
    (hplain : field.plainName ∉ (front ++ back).map (·.1)) (hkey : field.Named key) :
    (dictionarySource (front ++ (key, d) :: back) field).map (·.value) = some d := by
  have hbehind {name : String} (h : name ∉ (front ++ back).map (·.1)) :
      name ∉ back.map (·.1) := by
    rw [List.map_append, List.mem_append, not_or] at h
    exact h.2
  rw [value_dictionarySource]
  by_cases hfirst : key = field.wireName
  · subst hfirst
    rw [lookup?_insert_self (hbehind hwire)]
    rfl
  · obtain rfl := hkey.resolve_left hfirst
    rw [lookup?_insert hfirst, lookup?_eq_none_iff.2 hwire, lookup?_insert_self (hbehind hplain)]
    rfl

/-- An entry under a name of one field is passed over for the others. -/
theorem value_insert_of_ne {other : SignalField} (hother : other ≠ field)
    (hkey : field.Named key) :
    (dictionarySource (front ++ (key, d) :: back) other).map (·.value) =
      (dictionarySource (front ++ back) other).map (·.value) := by
  have hne {name : String} (hname : other.Named name) : key ≠ name := by
    rintro rfl
    exact hother (hname.unique hkey)
  rw [value_dictionarySource, value_dictionarySource, lookup?_insert (hne (.inl rfl)),
    lookup?_insert (hne (.inr rfl))]

namespace Respelling

/-- After a respelling the keys are still all different. -/
theorem nodup_keys (h : Respelling entries entries') (hkeys : (entries.map (·.1)).Nodup) :
    (entries'.map (·.1)).Nodup := by
  cases h with
  | reordered perm => exact (perm.map (·.1)).nodup_iff.1 hkeys
  | added d foreign unused => exact nodup_insert_iff.2 ⟨unused, hkeys⟩
  | renamed field d unused => exact nodup_insert_iff.2 ⟨unused, (nodup_insert_iff.1 hkeys).2⟩

/-- A dictionary that is written differently holds the same values. -/
theorem sameValues (h : Respelling entries entries') (hkeys : (entries.map (·.1)).Nodup) :
    SameValues (dictionarySource entries) (dictionarySource entries') := by
  cases h with
  | reordered perm => exact .of_eq (dictionarySource_perm hkeys perm)
  | added d foreign unused => exact .of_eq (dictionarySource_insert foreign)
  | renamed field d unused =>
    have hwire := (nodup_insert_iff.1 hkeys).1
    apply SameValues.of_value_eq
    intro other
    by_cases hother : other = field
    · subst hother
      rw [value_insert hwire unused (.inr rfl), value_insert hwire unused (.inl rfl)]
    · rw [value_insert_of_ne hother (.inr rfl), value_insert_of_ne hother (.inl rfl)]

/-- However often a dictionary is written differently, it holds the same values. -/
theorem sameValues_run (h : Relation.ReflTransGen Respelling entries entries')
    (hkeys : (entries.map (·.1)).Nodup) :
    SameValues (dictionarySource entries) (dictionarySource entries') ∧
      (entries'.map (·.1)).Nodup := by
  induction h with
  | refl => exact ⟨.of_eq rfl, hkeys⟩
  | tail _ hstep ih =>
    obtain ⟨hsame, hdistinct⟩ := ih
    exact ⟨hsame.trans (hstep.sameValues hdistinct), hstep.nodup_keys hdistinct⟩

end Respelling

/-! ## Ratings -/

/-- Dictionaries of the same values have the same rating, or fail by faults of one class. -/
theorem SameValues.rating_eq
    (h : SameValues (dictionarySource entries) (dictionarySource entries')) :
    (Datum.dict entries').rating.mapError SignalFault.faultClass =
      (Datum.dict entries).rating.mapError SignalFault.faultClass := by
  have hclass (x : Except SignalFault Signals) :
      (x.map Signals.rating).mapError SignalFault.faultClass =
        (x.mapError SignalFault.faultClass).map Signals.rating := by
    cases x <;> rfl
  unfold Datum.rating Signals.ofDatum
  rw [hclass, hclass, h.outcome_eq]

/-- A dictionary that is written differently, in any number of steps, has the same rating, or fails
by a fault of the same class. And where a field is there under its wire name, whatever is under its
plain name, or nothing, makes no difference at all. -/
theorem key_spelling_does_not_matter (hkeys : (entries.map (·.1)).Nodup) :
    (∀ respelled, Relation.ReflTransGen Respelling entries respelled →
      (Datum.dict respelled).rating.mapError SignalFault.faultClass =
        (Datum.dict entries).rating.mapError SignalFault.faultClass) ∧
    ∀ field : SignalField, field.wireName ≠ field.plainName →
      field.wireName ∈ entries.map (·.1) → ∀ others : List (String × Datum),
        (others.filter fun e => e.1 ≠ field.plainName) =
          (entries.filter fun e => e.1 ≠ field.plainName) →
        (Datum.dict others).rating = (Datum.dict entries).rating := by
  constructor
  · intro respelled h
    exact (Respelling.sameValues_run h hkeys).1.rating_eq
  · intro field hnames hwire others hothers
    have hsource := dictionarySource_eq_of_wireName hnames hwire hothers
    simp only [Datum.rating, Signals.ofDatum, hsource]

/-- The answers of a bundle, in front of its percentages. -/
def spelledAnswers : List (String × Datum) :=
  [("honeypot", .bool false), ("liquidityLocked", .bool true), ("verified", .bool true)]

/-- The percentages of a bundle but for the sell tax, one of them under both of its names. -/
def spelledShares : List (String × Datum) :=
  [("buyTax", .text "1%"), ("top_holder_share", .text "30%"), ("liquidityLockShare", .text "90%"),
    ("liquidity_lock_share", .text "no number")]

/-- The rating of the bundle with a sell tax of twelve percent. -/
def spelledRating : Rating where
  level := .medium
  reasons := [("High sell tax (12%)" : String), ("Top holder owns 30% of supply" : String)]

/-- With the sell tax under its plain name, a key of no field and the keys in reverse, the bundle is
rated the same, and so it is without the value under the other name of the locked share. -/
theorem key_spelling_does_not_matter_reversed :
    let entries := spelledAnswers ++ ("sellTax", .text "12%") :: spelledShares
    let renamed := spelledAnswers ++ ("sell_tax", .text "12%") :: spelledShares
    (entries.map (·.1)).Nodup ∧ (Datum.dict entries).rating = .ok spelledRating ∧
      (Datum.dict (("note", .null) :: renamed).reverse).rating = .ok spelledRating ∧
      (Datum.dict (entries.filter fun e => e.1 ≠ "liquidity_lock_share")).rating =
        .ok spelledRating := by
  intro entries renamed
  have hkeys : (entries.map (·.1)).Nodup := by decide
  have hrating : (Datum.dict entries).rating = .ok spelledRating := by decide +kernel
  have hrenamed : Respelling entries renamed := .renamed .sellTax (.text "12%") (by decide)
  have hforeign : ∀ field : SignalField, ¬ field.Named "note" := by
    intro field
    cases field <;> simp [SignalField.Named, SignalField.wireName, SignalField.plainName]
  have hadded : Respelling ([] ++ renamed) ([] ++ ("note", .null) :: renamed) :=
    .added .null hforeign (by decide)
  have hreversed := Respelling.reordered (List.reverse_perm (("note", .null) :: renamed)).symm
  obtain ⟨hrespelled, hboth⟩ := key_spelling_does_not_matter hkeys
  refine ⟨hkeys, hrating, ?_, ?_⟩
  · have hsame := hrespelled _
      (((Relation.ReflTransGen.single hrenamed).tail hadded).tail hreversed)
    rw [hrating] at hsame
    exact mapError_eq_ok_iff.1 hsame
  · rw [hboth .liquidityLockShare (by decide) (by decide), hrating]
    exact (List.filter_filter ..).trans (List.filter_congr fun _ _ => Bool.and_self _)

end TokenAudit
