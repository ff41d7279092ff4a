import TokenAudit.Pattern.Spelling

/-!
# Steps that stay on a line

Where no step takes a line feed, what the steps spell stays on its line, so that searching the line
alone and searching the text from there see the same.
-/

set_option autoImplicit false

namespace TokenAudit

/-- Whether a step takes no line feed. -/
def Step.staysOnLine : Step → Bool
  | .one set => !set.has '\n'
  | .many set => !set.has '\n'

/-- Whether the guards of a phrase take no line feed. -/
def Phrase.guardsStayOnLine (p : Phrase) : Bool :=
  p.guards.all fun guard => guard.all Step.staysOnLine

/-- Steps that stay on a line spell no line feed. -/
theorem Spells.newline_not_mem {steps : List Step} {text : List Char} (h : Spells steps text)
    (hsteps : ∀ step ∈ steps, step.staysOnLine = true) : '\n' ∉ text := by
  induction h with
  | done => simp
  | one hc _ ih =>
    have hset := hsteps _ List.mem_cons_self
    have hrest := ih fun step hmem => hsteps step (List.mem_cons_of_mem _ hmem)
    intro hmem
    rcases List.mem_cons.1 hmem with rfl | hmem
    · simp [Step.staysOnLine, hc] at hset
    · exact hrest hmem
  | stop _ ih => exact ih fun step hmem => hsteps step (List.mem_cons_of_mem _ hmem)
  | more hc _ ih =>
    have hset := hsteps _ List.mem_cons_self
    have hrest := ih hsteps
    intro hmem
    rcases List.mem_cons.1 hmem with rfl | hmem
    · simp [Step.staysOnLine, hc] at hset
    · exact hrest hmem

/-- What follows the end of a line has no bearing on steps that stay on it. -/
theorem startsWith_append_of_staysOnLine {steps : List Step} {rest after : List Char}
    (hsteps : ∀ step ∈ steps, step.staysOnLine = true)
    (hafter : after = [] ∨ after.head? = some '\n') :
    startsWith steps (rest ++ after) = startsWith steps rest := by
  rw [Bool.eq_iff_iff, startsWith_iff, startsWith_iff]
  constructor
  · rintro ⟨segment, tail, hsplit, hspells⟩
    have hsegment := hspells.newline_not_mem hsteps
    rcases List.append_eq_append_iff.1 hsplit with ⟨past, rfl, hpast⟩ | ⟨left, rfl, -⟩
    · -- a segment that went past the end of the line would hold the line feed
      cases past with
      | nil => exact ⟨rest, [], by simp, by simpa using hspells⟩
      | cons c past =>
        exfalso
        rw [hpast] at hafter
        rcases hafter with hnil | hhead
        · cases hnil
        · cases hhead
          exact hsegment (by simp)
    · exact ⟨segment, left, rfl, hspells⟩
  · rintro ⟨segment, tail, rfl, hspells⟩
    exact ⟨segment, tail ++ after, by simp, hspells⟩

/-- A guard that stays on its line is spelled in the text exactly when the line alone spells it. -/
theorem Phrase.startsWith_append_of_guardsStayOnLine {p : Phrase} {guard : List Step}
    {rest after : List Char} (hp : p.guardsStayOnLine = true) (hguard : guard ∈ p.guards)
    (hafter : after = [] ∨ after.head? = some '\n') :
    startsWith guard (rest ++ after) = startsWith guard rest :=
  startsWith_append_of_staysOnLine (List.all_eq_true.1 (List.all_eq_true.1 hp guard hguard)) hafter

/-- A guard looks ahead only, so text in front of an occurrence does not take it away. -/
theorem Phrase.occursIn_append_left {p : Phrase} {text : List Char} (before : List Char)
    (h : p.occursIn text = true) : p.occursIn (before ++ text) = true := by
  obtain ⟨start, segment, rest, rfl, hspells, hguards⟩ := Phrase.occursIn_iff.1 h
  apply Phrase.occursIn_iff.2
  exact ⟨before ++ start, segment, rest, by simp, hspells, hguards⟩

/-- Text below the last line of an occurrence does not take it away either, when the guards stay on
their line. -/
theorem Phrase.occursIn_append_right {p : Phrase} {text after : List Char}
    (hp : p.guardsStayOnLine = true) (hafter : after = [] ∨ after.head? = some '\n')
    (h : p.occursIn text = true) : p.occursIn (text ++ after) = true := by
  obtain ⟨start, segment, rest, rfl, hspells, hguards⟩ := Phrase.occursIn_iff.1 h
  apply Phrase.occursIn_iff.2
  refine ⟨start, segment, rest ++ after, by simp, hspells, ?_⟩
  intro guard hguard
  rw [p.startsWith_append_of_guardsStayOnLine hp hguard hafter]
  exact hguards guard hguard

end TokenAudit
