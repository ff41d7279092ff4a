import Mathlib.Tactic.SplitIfs
import TokenAudit.Proofs.Text.Decoding
import TokenAudit.Text.Case

/-!
# Lower case

The lower-case form of a text is its own lower-case form: no shift of the table leads to a code
point that a shift moves, to one of the two capitals that are mapped in their own way, or to a
capital of ASCII. A dot before a text changes nothing in its lower-case form, as a dot is skipped
where the end of a word is looked for.
-/

set_option autoImplicit false

namespace TokenAudit.Text

/-- The shift moves the code point. -/
def Shift.Moves (s : Shift) (n : Nat) : Prop :=
  s.first ≤ n ∧ n ≤ s.last ∧ (n - s.first) % s.stride = 0

/-- Where the shift moves a code point to. -/
def Shift.target (s : Shift) (n : Nat) : Nat :=
  (n + s.offset).toNat

/-- No shift leads into the span. -/
def Shift.avoids (s : Shift) (first last : Nat) : Bool :=
  Nat.blt (s.target s.last) first || Nat.blt last (s.target s.first)

/-- What a shift leads to is not moved by the other: it lies outside of its span, or between the
code points of every other one that it moves. -/
def Shift.spares (s other : Shift) : Bool :=
  s.avoids other.first other.last ||
    ((Nat.beq s.stride 2 || Nat.beq s.first s.last) && Nat.beq other.stride 2 &&
      Nat.beq ((s.target s.first - other.first) % 2) 1)

/-- What a shift leads to is a character, and is in lower case. -/
def Shift.settles (s : Shift) : Bool :=
  Nat.blt (s.target s.last) 0x110000 && s.avoids 0xd800 0xdfff && s.avoids 0x41 0x5a &&
    s.avoids 0x130 0x130 && s.avoids 0x3a3 0x3a3 && lowerShifts.toList.all s.spares

/-- A character that is its own lower-case form wherever it stands. -/
structure IsSettled (c : Char) : Prop where
  ascii : c.toLower = c
  sigma : c ≠ 'Σ'
  dotted : c ≠ 'İ'
  unmoved : moved lowerShifts c.toNat = c.toNat

instance (c : Char) : Decidable (IsSettled c) :=
  decidable_of_iff (c.toLower = c ∧ c ≠ 'Σ' ∧ c ≠ 'İ' ∧ moved lowerShifts c.toNat = c.toNat)
    ⟨fun ⟨ascii, sigma, dotted, unmoved⟩ => ⟨ascii, sigma, dotted, unmoved⟩,
      fun h => ⟨h.ascii, h.sigma, h.dotted, h.unmoved⟩⟩

/-- A character that is no capital of ASCII is its own lower case there. -/
theorem toLower_eq_of_not_capital {c : Char} (h : c.toNat < 0x41 ∨ 0x5a < c.toNat) :
    c.toLower = c := by
  have hcapital : ¬ (c.val ≥ 'A'.val ∧ c.val ≤ 'Z'.val) := by
    rintro ⟨hfirst, hlast⟩
    have hfirst : 0x41 ≤ c.toNat := hfirst
    have hlast : c.toNat ≤ 0x5a := hlast
    omega
  unfold Char.toLower
  rw [dif_neg hcapital]

/-! ## The table -/

/-- Whatever a shift into lower case leads to is in lower case. -/
theorem lowerShifts_settle : ∀ s ∈ lowerShifts, s.settles = true := by
  have h : lowerShifts.toList.all Shift.settles = true := by decide +kernel
  intro s hs
  exact List.all_eq_true.1 h s (Array.mem_toList_iff.2 hs)

/-- A code point stays, or is moved by a shift. -/
theorem moved_cases (shifts : Array Shift) (n : Nat) :
    moved shifts n = n ∨
      ∃ s ∈ shifts, s.Moves n ∧ moved shifts n = s.target n := by
  unfold moved
  split
  next s hs =>
    split
    next h =>
      simp only [Bool.and_eq_true, decide_eq_true_eq, beq_iff_eq] at h
      exact .inr ⟨s, Array.mem_of_getElem? hs, ⟨h.1.1, h.1.2, h.2⟩, rfl⟩
    next => exact .inl rfl
  next => exact .inl rfl

section

variable {s : Shift} {n : Nat}

/-- What a shift leads to lies between its two ends. -/
theorem Shift.Moves.target_le (h : s.Moves n) :
    s.target s.first ≤ s.target n ∧ s.target n ≤ s.target s.last := by
  obtain ⟨hfirst, hlast, -⟩ := h
  unfold Shift.target
  omega

/-- It lies outside of a span that the shift avoids. -/
theorem Shift.Moves.lt_or_lt_of_avoids (h : s.Moves n) {first last : Nat}
    (havoids : s.avoids first last = true) :
    s.target n < first ∨ last < s.target n := by
  have htarget := h.target_le
  simp only [Shift.avoids, Bool.or_eq_true, Nat.blt_eq] at havoids
  omega

/-- It is not moved by a shift that is spared. -/
theorem Shift.Moves.not_moves_of_spares (h : s.Moves n) {other : Shift}
    (hspares : s.spares other = true) : ¬ other.Moves (s.target n) := by
  rintro ⟨hfirst, hlast, hstride⟩
  simp only [Shift.spares, Bool.or_eq_true, Bool.and_eq_true, Nat.beq_eq] at hspares
  rcases hspares with havoids | ⟨⟨hstep, htwo⟩, hodd⟩
  · have houtside := h.lt_or_lt_of_avoids havoids
    omega
  · obtain ⟨hfirst', hlast', hstride'⟩ := h
    rw [htwo] at hstride
    unfold Shift.target at hodd hstride hfirst
    rcases hstep with hstep | hone
    · rw [hstep] at hstride'
      omega
    · omega

end

/-- What a shift of the table leads to is settled. -/
theorem isSettled_of_moves {s : Shift} (hs : s ∈ lowerShifts) {n : Nat} (h : s.Moves n) :
    IsSettled (Char.ofNat (s.target n)) := by
  have hsettles := lowerShifts_settle s hs
  simp only [Shift.settles, Bool.and_eq_true, Nat.blt_eq,
    List.all_eq_true, Array.mem_toList_iff] at hsettles
  obtain ⟨⟨⟨⟨⟨hlimit, hsurrogate⟩, hcapital⟩, hdotted⟩, hsigma⟩, hspares⟩ := hsettles
  have hlast := (h.target_le).2
  have hsurrogate := h.lt_or_lt_of_avoids hsurrogate
  have hcapital := h.lt_or_lt_of_avoids hcapital
  have hdotted := h.lt_or_lt_of_avoids hdotted
  have hsigma := h.lt_or_lt_of_avoids hsigma
  have hpoint : (Char.ofNat (s.target n)).toNat = s.target n := by
    apply Utf8.toNat_ofNat_of_isValidChar
    unfold Nat.isValidChar
    omega
  refine ⟨?_, ?_, ?_, ?_⟩
  · apply toLower_eq_of_not_capital
    omega
  · intro heq
    rw [heq] at hpoint
    change 0x3a3 = s.target n at hpoint
    omega
  · intro heq
    rw [heq] at hpoint
    change 0x130 = s.target n at hpoint
    omega
  · rw [hpoint]
    rcases moved_cases lowerShifts (s.target n) with hstays | ⟨other, hother, hmoves, -⟩
    · exact hstays
    · exact absurd hmoves (h.not_moves_of_spares (hspares other hother))

/-! ## Characters -/

/-- Every character of a lower-case form is settled. -/
theorem isSettled_of_mem_lowerAt {before after : List Char} {c d : Char}
    (h : d ∈ lowerAt before c after) : IsSettled d := by
  have hascii : ∀ n < 128, IsSettled (Char.ofNat n).toLower := by decide +kernel
  have hspecial : ∀ d ∈ ['ς', 'σ', 'i', Char.ofNat 0x307], IsSettled d := by
    simp only [List.forall_mem_cons]
    exact ⟨by decide +kernel, by decide +kernel, by decide +kernel, by decide +kernel, nofun⟩
  unfold lowerAt at h
  split_ifs at h with hlow hsigma hfinal hdotted
  · rw [List.mem_singleton.1 h, ← Char.ofNat_toNat c]
    exact hascii c.toNat hlow
  · exact hspecial d (by simp [List.mem_singleton.1 h])
  · exact hspecial d (by simp [List.mem_singleton.1 h])
  · exact hspecial d (List.mem_cons_of_mem _ (List.mem_cons_of_mem _ h))
  · rw [List.mem_singleton.1 h]
    rcases moved_cases lowerShifts c.toNat with hstays | ⟨s, hs, hmoves, hmoved⟩
    · rw [hstays, Char.ofNat_toNat]
      refine ⟨?_, hsigma, hdotted, hstays⟩
      apply toLower_eq_of_not_capital
      omega
    · rw [hmoved]
      exact isSettled_of_moves hs hmoves

/-- A settled character is lowered to itself wherever it stands. -/
theorem lowerAt_of_isSettled {c : Char} (h : IsSettled c) (before after : List Char) :
    lowerAt before c after = [c] := by
  unfold lowerAt
  rw [h.ascii, if_neg h.sigma, if_neg h.dotted, h.unmoved, Char.ofNat_toNat, ite_self]

/-! ## Texts -/

/-- So is a text of such characters. -/
theorem lowerAfter_of_isSettled {text : List Char} (h : ∀ c ∈ text, IsSettled c)
    (before : List Char) : lowerAfter before text = text := by
  induction text generalizing before with
  | nil => rfl
  | cons c text ih =>
    obtain ⟨hc, htext⟩ := List.forall_mem_cons.1 h
    rw [lowerAfter, lowerAt_of_isSettled hc, ih htext]
    rfl

/-- A lowered text is made of settled characters. -/
theorem isSettled_of_mem_lowerAfter {before text : List Char} {d : Char}
    (h : d ∈ lowerAfter before text) : IsSettled d := by
  induction text generalizing before with
  | nil => cases h
  | cons c text ih =>
    rw [lowerAfter] at h
    rcases List.mem_append.1 h with h | h
    · exact isSettled_of_mem_lowerAt h
    · exact ih h

/-- A lower-case form is its own lower-case form. -/
theorem lower_lower (text : List Char) : lower (lower text) = lower text := by
  apply lowerAfter_of_isSettled
  intro d hd
  exact isSettled_of_mem_lowerAfter hd

/-! ## After a dot -/

/-- A dot at the end is passed over in the search for a letter. -/
theorem meetsCased_append_dot (text : List Char) :
    meetsCased (text ++ ['.']) = meetsCased text := by
  have hdot : (['.'].dropWhile isCaseIgnorable).head? = none := by decide +kernel
  unfold meetsCased
  rw [List.dropWhile_append]
  split
  next hempty =>
    rw [List.isEmpty_iff.1 hempty, hdot]
    rfl
  next hrest =>
    cases hskip : text.dropWhile isCaseIgnorable with
    | nil => exact absurd (List.isEmpty_iff.2 hskip) hrest
    | cons c rest => rfl

/-- So is a dot in front. -/
theorem lowerAfter_append_dot (before text : List Char) :
    lowerAfter (before ++ ['.']) text = lowerAfter before text := by
  induction text generalizing before with
  | nil => rfl
  | cons c text ih =>
    have hhead : lowerAt (before ++ ['.']) c text = lowerAt before c text := by
      unfold lowerAt
      rw [meetsCased_append_dot]
    rw [lowerAfter, lowerAfter, hhead, ← List.cons_append, ih]

/-- A text is lowered behind a dot as it is alone. -/
theorem lower_dot_cons (text : List Char) : lower ('.' :: text) = '.' :: lower text := by
  have hdot : lowerAt [] '.' text = ['.'] := by rfl
  unfold lower
  rw [lowerAfter, hdot]
  exact congrArg ('.' :: ·) (lowerAfter_append_dot [] text)

end TokenAudit.Text
