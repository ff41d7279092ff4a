import TokenAudit.Proofs.Scan.Constructs
import TokenAudit.Proofs.Scan.Roles

/-!
# The lines behind the roles

A capability's name and the owner's gate are clear of one another: neither stands in the other, and
no end of either is a beginning of the other. Two such words never overlap, so a line that holds
both holds one after the other, which is what the capability's pattern looks for in either order.
The pattern stays on its line, so a text has the role exactly when one of its lines holds both
words. Roles therefore depend on which lines a text has, and on nothing else: their order does not
matter, and two joined texts have the roles of either.
-/

set_option autoImplicit false

namespace TokenAudit

/-- No end of the first text is a beginning of the second, or begins with it. -/
def ClearOf (a b : List Char) : Prop :=
  ∀ i < a.length, ¬ a.drop i <+: b ∧ ¬ b <+: a.drop i

instance (a b : List Char) : Decidable (ClearOf a b) :=
  inferInstanceAs (Decidable (∀ i < a.length, ¬ a.drop i <+: b ∧ ¬ b <+: a.drop i))

/-- One of the text's lines holds both words. -/
def ShareLine (v w : String) (text : List Char) : Prop :=
  ∃ line ∈ Text.lines text, HoldsWord v line ∧ HoldsWord w line

instance (v w : String) (text : List Char) : Decidable (ShareLine v w text) :=
  inferInstanceAs (Decidable (∃ line ∈ Text.lines text, HoldsWord v line ∧ HoldsWord w line))

variable {text : List Char}

/-! ## Words that are clear of one another -/

/-- Words whose images do not overlap do not overlap. -/
theorem ClearOf.of_map {f : Char → Char} {a b : List Char} (h : ClearOf (a.map f) (b.map f)) :
    ClearOf a b := by
  intro i hi
  have hends := h i (by simpa using hi)
  rw [← List.map_drop] at hends
  exact ⟨fun hbegins => hends.1 (hbegins.map f), fun hbegins => hends.2 (hbegins.map f)⟩

/-- A text that begins at or after the beginning of one that is clear of it begins after its end. -/
theorem ClearOf.exists_between {a b gap after rest : List Char} (hab : ClearOf a b)
    (h : a ++ after = gap ++ (b ++ rest)) : ∃ between, gap = a ++ between := by
  rcases List.append_eq_append_iff.1 h with ⟨between, hgap, -⟩ | ⟨common, ha, hb⟩
  · exact ⟨between, hgap⟩
  · cases common with
    | nil => exact ⟨[], by simp [ha]⟩
    | cons c common =>
      exfalso
      have hends := hab gap.length (by simp [ha])
      have hdrop : a.drop gap.length = c :: common := by simp [ha]
      rw [hdrop] at hends
      -- what the two share is a beginning of the same text as the second
      rcases List.prefix_or_prefix_of_prefix (List.prefix_append b rest)
        (hb ▸ List.prefix_append (c :: common) after) with hbegins | hbegins
      · exact hends.2 hbegins
      · exact hends.1 hbegins

/-- Of two segments of a text that are clear of one another, one stands before the other. -/
theorem exists_between_of_clearOf {a b before after start rest : List Char} (hab : ClearOf a b)
    (hba : ClearOf b a) (h : before ++ a ++ after = start ++ b ++ rest) :
    (∃ between, start = before ++ a ++ between) ∨ ∃ between, before = start ++ b ++ between := by
  rw [List.append_assoc, List.append_assoc] at h
  rcases List.append_eq_append_iff.1 h with ⟨gap, rfl, hrest⟩ | ⟨gap, rfl, hrest⟩
  · obtain ⟨between, rfl⟩ := hab.exists_between hrest
    exact .inl ⟨between, by simp⟩
  · obtain ⟨between, rfl⟩ := hba.exists_between hrest
    exact .inr ⟨between, by simp⟩

/-! ## Words of a capability on one line -/

/-- No name of a capability overlaps the word that gates, in any letter case. -/
theorem capabilities_clear : ∀ c ∈ capabilities,
    ClearOf (c.name.toList.map Text.fold) (ownerGate.toList.map Text.fold) ∧
      ClearOf (ownerGate.toList.map Text.fold) (c.name.toList.map Text.fold) := by
  decide

/-- The patterns by which roles are recognised stay on a line. -/
theorem capabilities_stayOnLine : ∀ c ∈ capabilities, ∀ p ∈ c.ownerGated,
    ∀ step ∈ p.body, step.staysOnLine = true := by
  decide

/-- Two words are found with anything of a line between them exactly when they stand in the text in
that order, with no line feed between. -/
theorem occursIn_inOrder_iff {v w : String} :
    (Phrase.plain (Step.word v ++ Step.sameLine ++ Step.word w)).occursIn text = true ↔
      ∃ before first between second after,
        text = before ++ (first ++ between ++ second) ++ after ∧ SameWord v first ∧
          '\n' ∉ between ∧ SameWord w second := by
  have hkind (segment : List Char) :
      Spells (Step.word v ++ Step.sameLine ++ Step.word w) segment ↔
        ∃ first between second, segment = first ++ between ++ second ∧ SameWord v first ∧
          '\n' ∉ between ∧ SameWord w second := by
    simp only [Spells.append_iff, spells_word_iff, spells_sameLine_iff]
    constructor
    · rintro ⟨_, second, rfl, ⟨first, between, rfl, hfirst, hbetween⟩, hsecond⟩
      exact ⟨first, between, second, rfl, hfirst, hbetween, hsecond⟩
    · rintro ⟨first, between, second, rfl, hfirst, hbetween, hsecond⟩
      exact ⟨_, second, rfl, ⟨first, between, rfl, hfirst, hbetween⟩, hsecond⟩
  rw [Phrase.occursIn_plain_iff hkind]
  constructor
  · rintro ⟨before, _, after, rfl, first, between, second, rfl, hwords⟩
    exact ⟨before, first, between, second, after, rfl, hwords⟩
  · rintro ⟨before, first, between, second, after, rfl, hwords⟩
    exact ⟨before, _, after, rfl, first, between, second, rfl, hwords⟩

/-- A single line has a capability exactly when it holds the capability's name and the gate. -/
theorem Capability.occursIn_line_iff {c : Capability} (hc : c ∈ capabilities) {line : List Char}
    (hline : '\n' ∉ line) :
    c.ownerGated.occursIn line = true ↔ HoldsWord c.name line ∧ HoldsWord ownerGate line := by
  constructor
  · exact Capability.holdsWords
  · rintro ⟨⟨before, name, after, rfl, hname⟩, start, gate, rest, hsplit, hgate⟩
    obtain ⟨hclear, hclear'⟩ := capabilities_clear c hc
    rw [← hname, ← hgate] at hclear hclear'
    unfold Capability.ownerGated
    rw [Pattern.occursIn_cons_iff, Pattern.occursIn_cons_iff, occursIn_inOrder_iff,
      occursIn_inOrder_iff]
    rcases exists_between_of_clearOf hclear.of_map hclear'.of_map hsplit with
      ⟨between, rfl⟩ | ⟨between, rfl⟩
    · left
      rw [hsplit] at hline ⊢
      have hbetween : '\n' ∉ between := fun hmem => hline (by simp [hmem])
      exact ⟨before, name, between, gate, rest, by simp, hname, hbetween, hgate⟩
    · right
      left
      have hbetween : '\n' ∉ between := fun hmem => hline (by simp [hmem])
      exact ⟨start, gate, between, name, after, by simp, hgate, hbetween, hname⟩

/-- A text has a capability exactly when one of its lines holds the capability's name and the
gate. -/
theorem Capability.occursIn_iff_shareLine {c : Capability} (hc : c ∈ capabilities) :
    c.ownerGated.occursIn text = true ↔ ShareLine c.name ownerGate text := by
  constructor
  · intro h
    obtain ⟨p, hp, hoccurs⟩ := List.any_eq_true.1 h
    obtain ⟨line, hline, hfound⟩ :=
      p.exists_line_of_occursIn (capabilities_stayOnLine c hc p hp) hoccurs
    have hhit : c.ownerGated.occursIn line = true := List.any_eq_true.2 ⟨p, hp, hfound⟩
    exact ⟨line, hline, Capability.holdsWords hhit⟩
  · rintro ⟨line, hline, hwords⟩
    have hguards : ∀ p ∈ c.ownerGated, p.guardsStayOnLine = true := by
      intro p hp
      rcases List.mem_pair.1 hp with rfl | rfl <;> rfl
    have hhit := (Capability.occursIn_line_iff hc (Text.not_mem_of_mem_cut hline)).2 hwords
    exact Pattern.occursIn_of_mem_lines hguards hline hhit

/-! ## Roles -/

/-- A role is privileged exactly when its name shares a line with the word that gates. -/
theorem mem_privilegedRoles_iff_shareLine {role : String} : role ∈ privilegedRoles text ↔
    ∃ c ∈ capabilities, ShareLine c.name ownerGate text ∧ c.description = role := by
  rw [mem_privilegedRoles_iff]
  constructor
  · rintro ⟨c, hc, hoccurs, rfl⟩
    exact ⟨c, hc, (Capability.occursIn_iff_shareLine hc).1 hoccurs, rfl⟩
  · rintro ⟨c, hc, hshare, rfl⟩
    exact ⟨c, hc, (Capability.occursIn_iff_shareLine hc).2 hshare, rfl⟩

/-- Texts with the same lines, in whatever order and number, have the same roles. -/
theorem privilegedRoles_congr {other : List Char}
    (h : ∀ line, line ∈ Text.lines other ↔ line ∈ Text.lines text) :
    privilegedRoles other = privilegedRoles text := by
  unfold privilegedRoles
  congr 1
  apply List.filter_congr
  intro c hc
  rw [Bool.eq_iff_iff, Capability.occursIn_iff_shareLine hc, Capability.occursIn_iff_shareLine hc]
  unfold ShareLine
  simp only [h]

/-- A line of either of two joined texts holds both words exactly when one of the whole does. -/
theorem shareLine_joined_iff {v w : String} {later : List Char} :
    ShareLine v w (text ++ '\n' :: later) ↔ ShareLine v w text ∨ ShareLine v w later := by
  have hlines : Text.lines (text ++ '\n' :: later) = Text.lines text ++ Text.lines later :=
    Text.cut_append_cons '\n' text later
  simp only [ShareLine, hlines, List.mem_append, or_and_right, exists_or]

/-- The role of a capability is described exactly when some line of the text holds the capability's
name and the owner's gate. Roles come in the order of the capabilities, each once. They do not
depend on the order of the lines, and two joined texts have the roles of either. -/
theorem roles_are_shared_lines (text : List Char) :
    (∀ c ∈ capabilities, c.description ∈ privilegedRoles text ↔
        ∃ line ∈ Text.lines text, HoldsWord c.name line ∧ HoldsWord ownerGate line) ∧
      (privilegedRoles text).Sublist (capabilities.map (·.description)) ∧
      (privilegedRoles text).Nodup ∧
      (∀ other, (Text.lines other).Perm (Text.lines text) →
        privilegedRoles other = privilegedRoles text) ∧
      ∀ later role, role ∈ privilegedRoles (text ++ '\n' :: later) ↔
        role ∈ privilegedRoles text ∨ role ∈ privilegedRoles later := by
  have horder : (privilegedRoles text).Sublist (capabilities.map (·.description)) :=
    List.filter_sublist.map _
  have hdistinct : (capabilities.map (·.description)).Nodup := by
    decide
  refine ⟨?_, horder, hdistinct.sublist horder, ?_, ?_⟩
  · intro c hc
    rw [mem_privilegedRoles_iff_shareLine]
    constructor
    · rintro ⟨c', hc', hshare, hsame⟩
      rwa [eq_of_description_eq c' hc' c hc hsame] at hshare
    · intro hshare
      exact ⟨c, hc, hshare, rfl⟩
  · intro other hperm
    exact privilegedRoles_congr fun line => hperm.mem_iff
  · intro later role
    simp only [mem_privilegedRoles_iff_shareLine, shareLine_joined_iff, or_and_right, and_or_left,
      exists_or]

/-- Three lines: a capability and the gate, a capability without it, and the gate in front of a
capability. -/
def scatteredGates : List Char :=
  "MINT() onlyowner;\npause();\nonlyOwner \x7b setFee(); \x7d".toList

/-- The same lines, from the last to the first. -/
def scatteredGatesReversed : List Char :=
  "onlyOwner \x7b setFee(); \x7d\npause();\nMINT() onlyowner;".toList

/-- Both orders of the lines have two roles: the second line does not hold the gate. -/
theorem roles_are_shared_lines_scatteredGates :
    (Text.lines scatteredGatesReversed).Perm (Text.lines scatteredGates) ∧
      privilegedRoles scatteredGatesReversed = privilegedRoles scatteredGates ∧
      "Owner can mint new tokens" ∈ privilegedRoles scatteredGates ∧
      "Owner can modify fees" ∈ privilegedRoles scatteredGates ∧
      "Owner can pause trading" ∉ privilegedRoles scatteredGates := by
  have hperm : (Text.lines scatteredGatesReversed).Perm (Text.lines scatteredGates) := by
    decide +kernel
  obtain ⟨hroles, -, -, horder, -⟩ := roles_are_shared_lines scatteredGates
  have hmint := hroles ⟨"mint", "Owner can mint new tokens"⟩ (by decide)
  have hfee := hroles ⟨"setFee", "Owner can modify fees"⟩ (by decide)
  have hpause := hroles ⟨"pause", "Owner can pause trading"⟩ (by decide)
  refine ⟨hperm, horder _ hperm, hmint.2 ?_, hfee.2 ?_, fun h => ?_⟩
  · decide +kernel
  · decide +kernel
  · revert h
    rw [hpause]
    decide +kernel

end TokenAudit
