import TokenAudit.Text.Lines

/-!
# Where the lines of a text stand

A text that is cut at a line feed has the lines of both parts, and a text without one is its only
line. So each line stands in the text between two line feeds or its ends, and its number counts the
line feeds before it.
-/

set_option autoImplicit false

namespace TokenAudit.Text

/-- A text without the separator is one piece. -/
theorem cut_eq_singleton {separator : Char} {text : List Char} (h : separator ∉ text) :
    cut separator text = [text] := by
  induction text with
  | nil => rfl
  | cons c text ih =>
    rw [List.mem_cons, not_or] at h
    rw [cut_cons, if_neg (Ne.symm h.1), ih h.2]
    rfl

/-- A character in front of the first piece leaves the later ones as they are. -/
theorem consFirst_append (c : Char) {pieces : List (List Char)} (later : List (List Char))
    (h : pieces ≠ []) : consFirst c (pieces ++ later) = consFirst c pieces ++ later := by
  cases pieces with
  | nil => exact absurd rfl h
  | cons piece rest => rfl

/-- A text cut at a separator has the pieces of both parts. -/
theorem cut_append_cons (separator : Char) (text later : List Char) :
    cut separator (text ++ separator :: later) = cut separator text ++ cut separator later := by
  induction text with
  | nil => simp
  | cons c text ih =>
    rw [List.cons_append, cut_cons, cut_cons, ih]
    split
    · rfl
    · exact consFirst_append c _ (cut_ne_nil separator text)

/-- No piece holds the separator. -/
theorem not_mem_of_mem_cut {separator : Char} {text piece : List Char}
    (h : piece ∈ cut separator text) : separator ∉ piece := by
  induction text generalizing piece with
  | nil =>
    rw [cut_nil, List.mem_singleton] at h
    simp [h]
  | cons c text ih =>
    rw [cut_cons] at h
    split at h
    · rcases List.mem_cons.1 h with rfl | hrest
      · simp
      · exact ih hrest
    · next hc =>
      cases hpieces : cut separator text with
      | nil => exact absurd hpieces (cut_ne_nil separator text)
      | cons first rest =>
        rw [hpieces, consFirst] at h
        rw [hpieces] at ih
        rcases List.mem_cons.1 h with rfl | hrest
        · rw [List.mem_cons, not_or]
          exact ⟨Ne.symm hc, ih List.mem_cons_self⟩
        · exact ih (List.mem_cons_of_mem first hrest)

/-- The line of a number stands in the text after `before` and in front of `after`. -/
structure LineAt (text : List Char) (number : Nat) (before line after : List Char) : Prop where
  split : text = before ++ line ++ after
  number : lineCount before = number
  begins : before = [] ∨ before.getLast? = some '\n'
  unbroken : '\n' ∉ line
  ends : after = [] ∨ after.head? = some '\n'

/-- A line after a first line stands in the text as it stands in what follows the first. -/
theorem LineAt.cons_line {first text before line after : List Char} {number : Nat}
    (hfirst : '\n' ∉ first) (h : LineAt text number before line after) :
    LineAt (first ++ '\n' :: text) (number + 1) (first ++ '\n' :: before) line after where
  split := by
    rw [h.split]
    simp
  number := by
    have hcount := h.number
    unfold lineCount at hcount ⊢
    rw [List.count_append, List.count_cons_self, List.count_eq_zero_of_not_mem hfirst]
    omega
  begins := by
    right
    rcases h.begins with hnil | hlast
    · simp [hnil]
    · simp [List.getLast?_cons, hlast]
  unbroken := h.unbroken
  ends := h.ends

/-- Every line of a text stands at its place in it. -/
theorem exists_lineAt {text line : List Char} {i : Nat} (h : (lines text)[i]? = some line) :
    ∃ before after, LineAt text (i + 1) before line after := by
  induction i generalizing text with
  | zero =>
    by_cases hmem : '\n' ∈ text
    · obtain ⟨first, rest, rfl, hfirst⟩ := List.eq_append_cons_of_mem hmem
      rw [lines, cut_append_cons, cut_eq_singleton hfirst] at h
      cases h
      exact ⟨[], '\n' :: rest, by simp, rfl, .inl rfl, hfirst, .inr rfl⟩
    · rw [lines, cut_eq_singleton hmem] at h
      cases h
      exact ⟨[], [], by simp, rfl, .inl rfl, hmem, .inl rfl⟩
  | succ i ih =>
    by_cases hmem : '\n' ∈ text
    · obtain ⟨first, rest, rfl, hfirst⟩ := List.eq_append_cons_of_mem hmem
      rw [lines, cut_append_cons, cut_eq_singleton hfirst] at h
      obtain ⟨before, after, hline⟩ := ih h
      exact ⟨first ++ '\n' :: before, after, hline.cons_line hfirst⟩
    · rw [lines, cut_eq_singleton hmem] at h
      simp at h

/-- What holds no line feed stands in one line, whose number counts the line feeds before it, and
the rest of that line follows it in the text. -/
theorem exists_line_around {segment : List Char} (hsegment : '\n' ∉ segment)
    (before after : List Char) : ∃ start rest, rest <+: after ∧
      (lines (before ++ segment ++ after))[before.count '\n']? =
        some (start ++ segment ++ rest) := by
  -- on the number of the line, the lines before it being split off one by one
  induction hcount : before.count '\n' generalizing before with
  | zero =>
    have hbefore : '\n' ∉ before ++ segment := by
      rw [List.mem_append, not_or]
      exact ⟨List.count_eq_zero.1 hcount, hsegment⟩
    by_cases hmem : '\n' ∈ after
    · obtain ⟨rest, later, rfl, hrest⟩ := List.eq_append_cons_of_mem hmem
      have hfirst : '\n' ∉ before ++ segment ++ rest := by
        rw [List.mem_append, not_or]
        exact ⟨hbefore, hrest⟩
      rw [← List.append_assoc, lines, cut_append_cons, cut_eq_singleton hfirst]
      exact ⟨before, rest, List.prefix_append _ _, rfl⟩
    · have hall : '\n' ∉ before ++ segment ++ after := by
        rw [List.mem_append, not_or]
        exact ⟨hbefore, hmem⟩
      rw [lines, cut_eq_singleton hall]
      exact ⟨before, after, List.prefix_rfl, rfl⟩
  | succ i ih =>
    have hmem : '\n' ∈ before := by
      apply List.count_pos_iff.1
      omega
    obtain ⟨first, later, rfl, hfirst⟩ := List.eq_append_cons_of_mem hmem
    have hlater : later.count '\n' = i := by
      rw [List.count_append, List.count_cons_self, List.count_eq_zero_of_not_mem hfirst] at hcount
      omega
    obtain ⟨start, rest, hrest, hline⟩ := ih later hlater
    refine ⟨start, rest, hrest, ?_⟩
    rw [List.append_assoc, List.append_assoc, List.cons_append, lines, cut_append_cons,
      cut_eq_singleton hfirst, List.singleton_append, List.getElem?_cons_succ,
      ← List.append_assoc]
    exact hline

end TokenAudit.Text
