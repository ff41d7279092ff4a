import TokenAudit.Proofs.Document.Numbers

/-!
# Texts beyond the limits of the reader

Two things stop a reading without being flaws of the text: a whole number of too many digits, and a
container inside of too many others. A text without a long run of digits and with few brackets holds
neither.
-/

set_option autoImplicit false

namespace TokenAudit.Document

variable {limit : Nat}

/-- Whether a character opens a container. -/
def isOpening (c : Char) : Bool :=
  c == '[' || c == '\x7b'

/-- What stops a reading without being a flaw. -/
def Stop.IsLimit : Stop → Prop
  | .flaw _ _ => False
  | .tooManyDigits _ => True
  | .tooDeep _ => True

/-- A reading error that is no flaw. -/
def ReadError.IsLimit : ReadError → Prop
  | .flaw _ _ _ _ => False
  | .tooManyDigits _ => True
  | .tooDeep _ => True

/-- The text begins with a whole number of too many digits, or with a container too many. -/
inductive Exceeds (limit : Nat) (frames : List Frame) (input : List Char) : Prop
  | digits {parts : NumberParts} {rest : List Char} (h : splitNumber? input = some (parts, rest))
      (hfraction : parts.fraction = none) (hexponent : parts.exponent = none)
      (hlimit : digitLimit < parts.whole.length)
  | depth {c : Char} {rest : List Char} (h : input = c :: rest) (hc : isOpening c = true)
      (hlimit : limit ≤ frames.length)

/-- The reading of a text comes to where a value may begin, and to one that is beyond the limits. -/
def Overruns (limit : Nat) (text : List Char) : Prop :=
  text.head? ≠ some '\ufeff' ∧ ∃ m rest, Machine.start.Leads limit text m rest ∧
    (m.expects = .value ∨ m.expects = .firstItem) ∧ Exceeds limit m.frames (skipSpacing rest)

/-- The text holds a number of digits one after the other. -/
def HasDigitRun (count : Nat) (text : List Char) : Prop :=
  ∃ before digits after, text = before ++ digits ++ after ∧ digits.length = count ∧
    ∀ c ∈ digits, c.isDigit = true

/-! ## One step -/

section

variable {m m' : Machine} {frames : List Frame} {input rest : List Char} {stop : Stop}

/-- A number is refused for its length only, and then it is a whole number. -/
theorem document_eq_error_iff {parts : NumberParts} :
    parts.document = .error stop ↔
      parts.fraction = none ∧ parts.exponent = none ∧ digitLimit < parts.whole.length ∧
        stop = .tooManyDigits parts.whole.length := by
  unfold NumberParts.document
  split
  next hfraction hexponent =>
    split
    next hlimit => simp [hfraction, hexponent, hlimit, eq_comm]
    next hlimit => simp [hlimit]
  next hnone =>
    constructor
    · nofun
    · rintro ⟨hfraction, hexponent, -⟩
      exact absurd hexponent (hnone hfraction)

/-- Whether a word begins in another way than a number. -/
def beginsApart : List Char → Bool
  | a :: b :: _ => !a.isDigit && (a != '-' || !b.isDigit)
  | _ => false

/-- What begins with a number begins with no word. -/
theorem find_word_of_splitNumber {parts : NumberParts}
    (h : splitNumber? input = some (parts, rest)) :
    (wordValues.find? fun (word, _) => word.isPrefixOf input) = none := by
  have hwords : ∀ entry ∈ wordValues, beginsApart entry.1 = true := by decide
  obtain ⟨sign, tail, hsign, hinput, hne, hdigits⟩ := splitNumber_spec h
  obtain ⟨digit, whole, hwhole⟩ := List.exists_cons_of_ne_nil hne
  have hdigit : digit.isDigit = true := hdigits digit (by simp [hwhole])
  rw [List.find?_eq_none]
  rintro ⟨word, d⟩ hmem hprefix
  have hapart := hwords _ hmem
  obtain ⟨left, hleft⟩ := List.isPrefixOf_iff_prefix.1 hprefix
  simp only at hleft hapart
  unfold beginsApart at hapart
  split at hapart
  next a b later =>
    rw [Bool.and_eq_true, Bool.or_eq_true, Bool.not_eq_true', bne_iff_ne, Bool.not_eq_true']
      at hapart
    obtain ⟨hfirst, hsecond⟩ := hapart
    rcases hsign with rfl | rfl
    · simp only [hwhole, List.nil_append, List.cons_append, ← hleft, List.cons.injEq] at hinput
      rw [hinput.1, hdigit] at hfirst
      cases hfirst
    · simp only [hwhole, List.nil_append, List.cons_append, ← hleft, List.cons.injEq] at hinput
      rcases hsecond with hminus | hletter
      · exact hminus hinput.1
      · rw [hinput.2.1, hdigit] at hletter
        cases hletter
  next => cases hapart

/-- A value that is no container is beyond the limits when it is too long a whole number. -/
theorem exceeds_of_readScalar (h : readScalar input = .error stop) (hlimit : stop.IsLimit) :
    Exceeds limit frames input := by
  by_cases hquote : input.head? = some '\x22'
  · obtain ⟨tail, rfl⟩ := List.head?_eq_some_iff.1 hquote
    rw [readScalar_text, map_eq_error_iff, readText_eq_error_iff] at h
    obtain ⟨f, left, rfl⟩ := exists_flaw_of_readPoints h
    exact hlimit.elim
  · rw [readScalar_of_ne_quote hquote] at h
    split at h
    next => cases h
    next =>
      split at h
      next parts left hnumber =>
        obtain ⟨hfraction, hexponent, hlong, -⟩ := document_eq_error_iff.1 (map_eq_error_iff.1 h)
        exact .digits hnumber hfraction hexponent hlong
      next =>
        cases h
        exact hlimit.elim

/-- A container is not entered only where too many are open. -/
theorem exceeds_of_enter {container : Container} (h : enter limit container frames = .error stop) :
    limit ≤ frames.length := by
  unfold enter at h
  split at h
  next hdepth => exact hdepth
  next => cases container <;> cases h

/-- A value that stops the reading without a flaw is beyond the limits. -/
theorem exceeds_of_stepValue (h : stepValue limit frames input = .error stop)
    (hlimit : stop.IsLimit) : Exceeds limit frames input := by
  unfold stepValue at h
  split at h
  next tail =>
    rcases bind_eq_error_iff.1 h with h | ⟨_, _, h⟩
    · exact .depth rfl rfl (exceeds_of_enter h)
    · cases h
  next tail =>
    rcases bind_eq_error_iff.1 h with h | ⟨_, _, h⟩
    · exact .depth rfl rfl (exceeds_of_enter h)
    · cases h
  next =>
    rcases bind_eq_error_iff.1 h with h | ⟨_, _, h⟩
    · exact exceeds_of_readScalar h hlimit
    · cases h

/-- A key stops the reading at a flaw only. -/
theorem exists_flaw_of_stepKey (h : stepKey frames input = .error stop) :
    ∃ f left, stop = .flaw f left := by
  unfold stepKey at h
  split at h
  next tail entries old outer =>
    rcases bind_eq_error_iff.1 h with h | ⟨_, _, h⟩
    · exact exists_flaw_of_readPoints (readText_eq_error_iff.1 h)
    · cases h
  next => exact ⟨_, _, (Except.error.inj h).symm⟩

/-- So does what stands between values. -/
theorem exists_flaw_of_stepDelimiter (h : stepDelimiter frames input = .error stop) :
    ∃ f left, stop = .flaw f left := by
  unfold stepDelimiter at h
  split at h
  next => cases h
  next => cases h
  next => cases h
  next => cases h
  next => exact ⟨_, _, (Except.error.inj h).symm⟩

/-- A step that does not stop at a flaw stops at a value. -/
theorem stop_of_step (h : m.step limit input = .error stop) :
    (∃ f left, stop = .flaw f left) ∨
      (m.expects = .value ∨ m.expects = .firstItem) ∧
        stepValue limit m.frames input = .error stop := by
  unfold Machine.step at h
  split at h
  next hexpects => exact .inr ⟨.inl hexpects, h⟩
  next => exact .inl (exists_flaw_of_stepDelimiter h)
  next hexpects => exact .inr ⟨.inr ‹_›, h⟩
  next => exact .inl (exists_flaw_of_stepDelimiter h)
  next => exact .inl (exists_flaw_of_stepKey h)
  next => exact .inl (exists_flaw_of_stepKey h)
  next => cases h
  next => exact .inl ⟨_, _, (Except.error.inj h).symm⟩
  next => exact .inl (exists_flaw_of_stepDelimiter h)
  next => exact .inl ⟨_, _, (Except.error.inj h).symm⟩

/-- A step that stops without a flaw stops at a value beyond the limits. -/
theorem exceeds_of_step (h : m.step limit input = .error stop) (hlimit : stop.IsLimit) :
    (m.expects = .value ∨ m.expects = .firstItem) ∧ Exceeds limit m.frames input := by
  rcases stop_of_step h with ⟨f, left, rfl⟩ | ⟨hexpects, hvalue⟩
  · exact hlimit.elim
  · exact ⟨hexpects, exceeds_of_stepValue hvalue hlimit⟩

/-- A number begins with a minus sign or a digit. -/
theorem head_of_splitNumber {parts : NumberParts} (h : splitNumber? input = some (parts, rest)) :
    ∃ c tail, input = c :: tail ∧ (c = '-' ∨ c.isDigit = true) := by
  obtain ⟨sign, tail, hsign, hinput, hne, hdigits⟩ := splitNumber_spec h
  obtain ⟨digit, whole, hwhole⟩ := List.exists_cons_of_ne_nil hne
  have hdigit : digit.isDigit = true := hdigits digit (by simp [hwhole])
  rcases hsign with rfl | rfl
  · refine ⟨digit, whole ++ tail ++ rest, ?_, .inr hdigit⟩
    simp [hinput, hwhole]
  · refine ⟨'-', parts.whole ++ tail ++ rest, ?_, .inl rfl⟩
    simp [hinput]

/-- A step stops without a flaw where a value beyond the limits begins. -/
theorem exists_stop_of_exceeds (hexpects : m.expects = .value ∨ m.expects = .firstItem)
    (h : Exceeds limit m.frames input) :
    ∃ stop, m.step limit input = .error stop ∧ stop.IsLimit := by
  cases h with
  | @digits parts left hnumber hfraction hexponent hlong =>
    obtain ⟨c, tail, rfl, hc⟩ := head_of_splitNumber hnumber
    have hother : ∀ d, d ≠ '-' → d.isDigit = false → (c :: tail).head? ≠ some d := by
      intro d hminus hdigit heq
      obtain rfl := Option.some.inj heq
      rcases hc with rfl | hc
      · exact hminus rfl
      · rw [hc] at hdigit
        cases hdigit
    refine ⟨.tooManyDigits parts.whole.length, ?_, trivial⟩
    rw [step_of_value hexpects (hother _ (by decide) (by decide)),
      stepValue_of_scalar (hother _ (by decide) (by decide)) (hother _ (by decide) (by decide)),
      readScalar_of_ne_quote (hother _ (by decide) (by decide)),
      find_word_of_splitNumber hnumber]
    simp only [hnumber, document_eq_error_iff.2 ⟨hfraction, hexponent, hlong, rfl⟩]
    rfl
  | @depth c left hinput hc hdepth =>
    subst hinput
    have hopening : c = '[' ∨ c = '\x7b' := by simpa [isOpening] using hc
    rcases hopening with rfl | rfl
    · refine ⟨.tooDeep .list, ?_, trivial⟩
      rw [step_of_value hexpects (by simp)]
      simp [stepValue, enter, hdepth, bind, Except.bind]
    · refine ⟨.tooDeep .object, ?_, trivial⟩
      rw [step_of_value hexpects (by simp)]
      simp [stepValue, enter, hdepth, bind, Except.bind]

end

/-! ## The whole text -/

/-- An error tells whether the reading stopped at a flaw. -/
theorem isLimit_toError_iff {text : List Char} {stop : Stop} :
    (stop.toError text).IsLimit ↔ stop.IsLimit := by
  cases stop <;> rfl

/-- A text is refused without a flaw exactly when it is beyond the limits. -/
theorem overruns_iff {text : List Char} :
    Overruns limit text ↔ ∃ e, read limit text = .error e ∧ e.IsLimit := by
  unfold read
  constructor
  · rintro ⟨hmark, m, rest, hleads, hexpects, hexceeds⟩
    obtain ⟨stop, hstep, hlimit⟩ := exists_stop_of_exceeds hexpects hexceeds
    have hcomplete : Machine.start.complete limit text = .error stop := by
      rw [complete_of_leads hleads]
      apply run_of_stop hstep
      intro hnothing
      simp [hnothing] at hexpects
    refine ⟨stop.toError text, ?_, isLimit_toError_iff.2 hlimit⟩
    rw [if_neg hmark]
    exact mapError_eq_error_iff.2 ⟨stop, hcomplete, rfl⟩
  · rintro ⟨e, h, hlimit⟩
    split at h
    next =>
      cases h
      exact hlimit.elim
    next hmark =>
      obtain ⟨stop, hstop, rfl⟩ := mapError_eq_error_iff.1 h
      obtain ⟨m, rest, hleads, ⟨-, -, hok⟩ | ⟨stop', hstep, herror⟩⟩ :=
        exists_leads limit Machine.start text
      · cases hstop.symm.trans hok
      · cases hstop.symm.trans herror
        exact ⟨hmark, m, rest, hleads, exceeds_of_step hstep (isLimit_toError_iff.1 hlimit)⟩

/-- A whole number of too many digits, alone in its text, is beyond the limits. -/
theorem overruns_of_digits {digits : List Char} (hdigits : ∀ c ∈ digits, c.isDigit = true)
    (hzero : digits.head? ≠ some '0') (hlong : digitLimit < digits.length) :
    Overruns limit digits := by
  have hne : digits ≠ [] := by
    rintro rfl
    simp at hlong
  have hfirst : ∀ c, digits.head? = some c → c.isDigit = true :=
    fun c hc => hdigits c (List.mem_of_head? hc)
  have hskip : skipSpacing digits = digits := by
    obtain ⟨c, more, rfl⟩ := List.exists_cons_of_ne_nil hne
    have hc := hfirst c rfl
    refine List.dropWhile_cons_of_neg ?_
    intro hspacing
    have hblank : c = ' ' ∨ c = '\t' ∨ c = '\n' ∨ c = '\r' := by
      simpa [isSpacing, or_assoc] using hspacing
    rcases hblank with rfl | rfl | rfl | rfl
    all_goals exact absurd hc (by decide)
  have hnumber : splitNumber? digits = some (⟨false, digits, none, none⟩, []) := by
    have hwritten : NumberParts.AreWritten ⟨false, digits, none, none⟩ :=
      ⟨⟨hne, hdigits, fun h => absurd h hzero⟩, nofun⟩
    have hsplit : splitNumber? (NumberParts.chars ⟨false, digits, none, none⟩ ++ []) = _ :=
      splitNumber_chars hwritten nofun
    simpa [NumberParts.chars, Binary64.signText, fractionChars, exponentChars] using hsplit
  refine ⟨?_, Machine.start, digits, .here _ _, .inl rfl, ?_⟩
  · intro hmark
    exact absurd (hfirst _ hmark) (by decide)
  · rw [hskip]
    exact .digits hnumber rfl rfl hlong

/-! ## What such a text holds -/

section

variable {m m' : Machine} {input rest : List Char}

/-- The end of a text has no more opening brackets than the text. -/
theorem EndsIn.openings_le (h : EndsIn input rest) :
    rest.countP isOpening ≤ input.countP isOpening := by
  obtain ⟨taken, -, rfl⟩ := h
  rw [List.countP_append]
  omega

/-- A value neither opens nor closes a container. -/
theorem length_frames_afterValue (d : Document) (frames : List Frame) :
    (Machine.afterValue d frames).frames.length = frames.length := by
  cases frames with
  | nil => rfl
  | cons frame outer => cases frame <;> rfl

/-- A step opens no more containers than it takes opening brackets. -/
theorem Machine.Takes.openings_le (h : m.Takes limit input m' rest) :
    m'.frames.length + rest.countP isOpening ≤ m.frames.length + input.countP isOpening := by
  have hrest := h.endsIn.openings_le
  cases h with
  | openList rest hdepth =>
    rw [List.countP_cons_of_pos rfl]
    simp only [Machine.expecting, List.length_cons]
    omega
  | openObject rest hdepth =>
    rw [List.countP_cons_of_pos rfl]
    simp only [Machine.expecting, List.length_cons]
    omega
  | scalar h =>
    rw [length_frames_afterValue]
    omega
  | key hframes h =>
    rw [hframes]
    simp only [Machine.expecting, List.length_cons]
    omega
  | closeList rest hframes =>
    rw [length_frames_afterValue, hframes, List.length_cons]
    omega
  | closeObject rest hframes =>
    rw [length_frames_afterValue, hframes, List.length_cons]
    omega
  | comma rest expects => exact Nat.add_le_add_left hrest _
  | colon rest => exact Nat.add_le_add_left hrest _

/-- What is skipped stands at the beginning. -/
theorem exists_append_skipSpacing (input : List Char) :
    ∃ blanks, input = blanks ++ skipSpacing input :=
  ⟨_, List.takeWhile_append_dropWhile.symm⟩

/-- Nothing is won by skipping blanks. -/
theorem openings_skipSpacing_le (input : List Char) :
    (skipSpacing input).countP isOpening ≤ input.countP isOpening :=
  (List.dropWhile_sublist _).countP_le

/-- The reading opens no more containers than it passes opening brackets, and leaves the end of the
text as it is. -/
theorem Machine.Leads.openings_le (h : Machine.Leads limit m input m' rest) :
    (∃ before, input = before ++ rest) ∧
      m'.frames.length + rest.countP isOpening ≤ m.frames.length + input.countP isOpening := by
  induction h with
  | here m input => exact ⟨⟨[], rfl⟩, Nat.le_refl _⟩
  | @step m m' m'' input rest rest' hstep hlater ih =>
    obtain ⟨⟨before, hbefore⟩, hle⟩ := ih
    have htakes := takes_of_step hstep
    obtain ⟨taken, -, htaken⟩ := htakes.endsIn
    obtain ⟨blanks, hblanks⟩ := exists_append_skipSpacing input
    have hstepLe := htakes.openings_le
    have hblanksLe := openings_skipSpacing_le input
    refine ⟨⟨blanks ++ taken ++ before, ?_⟩, by omega⟩
    rw [hblanks, htaken, hbefore]
    simp

/-- A text beyond the limits holds a run of too many digits, or too many opening brackets. -/
theorem limits_of_overruns {text : List Char} (h : Overruns limit text) :
    (∃ count, digitLimit < count ∧ HasDigitRun count text) ∨
      limit < text.countP isOpening := by
  obtain ⟨-, m, rest, hleads, -, hexceeds⟩ := h
  obtain ⟨⟨before, rfl⟩, hle⟩ := hleads.openings_le
  obtain ⟨blanks, hblanks⟩ := exists_append_skipSpacing rest
  cases hexceeds with
  | @digits parts left hnumber hfraction hexponent hlong =>
    obtain ⟨sign, tail, -, hinput, -, hdigits⟩ := splitNumber_spec hnumber
    refine .inl ⟨_, hlong, before ++ blanks ++ sign, parts.whole, tail ++ left, ?_, rfl, hdigits⟩
    rw [hblanks, hinput]
    simp
  | @depth c left hinput hc hdepth =>
    right
    have hopening : 0 < (skipSpacing rest).countP isOpening := by
      rw [hinput, List.countP_cons_of_pos hc]
      omega
    have hskip := openings_skipSpacing_le rest
    have hstart : Machine.start.frames.length = 0 := rfl
    omega

end

end TokenAudit.Document
