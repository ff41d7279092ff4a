import Mathlib.Data.List.TakeDrop
import Mathlib.Data.List.TakeWhile
import TokenAudit.Document.Reader
import TokenAudit.Proofs.Outcome

/-!
# What the reading machine takes

Each step of the machine takes something off the front of the text and leaves the rest as it is. So
the machine never runs out of steps, and its run can be followed from step to step without counting
them.
-/

set_option autoImplicit false

namespace TokenAudit.Document

/-- The text ends in `rest`, and has something before. -/
def EndsIn (input rest : List Char) : Prop :=
  ∃ taken, taken ≠ [] ∧ input = taken ++ rest

/-- A text ends in what follows its first character. -/
theorem endsIn_cons (c : Char) (rest : List Char) : EndsIn (c :: rest) rest :=
  ⟨[c], by simp, rfl⟩

/-- Whatever is put in front, the end is the same. -/
theorem EndsIn.append_left {input rest : List Char} (h : EndsIn input rest)
    (before : List Char) : EndsIn (before ++ input) rest := by
  obtain ⟨taken, hne, rfl⟩ := h
  refine ⟨before ++ taken, ?_, ?_⟩
  · simp [hne]
  · rw [List.append_assoc]

/-- So it is for one more character. -/
theorem EndsIn.cons {input rest : List Char} (h : EndsIn input rest) (c : Char) :
    EndsIn (c :: input) rest :=
  h.append_left [c]

/-- The end of a text is shorter than the text. -/
theorem EndsIn.length_lt {input rest : List Char} (h : EndsIn input rest) :
    rest.length < input.length := by
  obtain ⟨taken, hne, rfl⟩ := h
  rw [List.length_append]
  have hpos := List.length_pos_iff.2 hne
  omega

/-! ## Strings -/

section

variable {opening input rest : List Char} {acc points : List Nat} {stop : Stop}

/-- Reading a string leaves an end of the text. -/
theorem endsIn_of_readPoints (h : readPoints opening acc input = .ok (points, rest)) :
    EndsIn input rest := by
  fun_induction readPoints opening acc input with
  | case1 => cases h
  | case2 acc tail =>
    cases h
    exact endsIn_cons _ _
  | case3 => cases h
  | case4 acc a b c d next tail n hunit ih =>
    exact (ih h).append_left ['\\', 'u', a, b, c, d]
  | case5 => cases h
  | case6 => cases h
  | case7 acc c tail _ _ n hletter ih => exact (ih h).append_left ['\\', c]
  | case8 => cases h
  | case9 => cases h
  | case10 acc c tail _ _ _ _ _ _ ih => exact (ih h).cons c

/-- What is wrong with a string has a place. -/
theorem exists_flaw_of_readPoints (h : readPoints opening acc input = .error stop) :
    ∃ f left, stop = .flaw f left := by
  fun_induction readPoints opening acc input with
  | case1 => exact ⟨_, _, (Except.error.inj h).symm⟩
  | case2 => cases h
  | case3 => exact ⟨_, _, (Except.error.inj h).symm⟩
  | case4 acc a b c d next tail n hunit ih => exact ih h
  | case5 => exact ⟨_, _, (Except.error.inj h).symm⟩
  | case6 => exact ⟨_, _, (Except.error.inj h).symm⟩
  | case7 acc c tail _ _ n hletter ih => exact ih h
  | case8 => exact ⟨_, _, (Except.error.inj h).symm⟩
  | case9 => exact ⟨_, _, (Except.error.inj h).symm⟩
  | case10 acc c tail _ _ _ _ _ _ ih => exact ih h

/-- A string is read as its code points, of which surrogates in pairs are joined. -/
theorem readText_eq_ok_iff {content : RawText} :
    readText opening input = .ok (content, rest) ↔
      ∃ points, readPoints opening [] input = .ok (points, rest) ∧
        ⟨joinPairs points⟩ = content := by
  unfold readText
  rw [bind_eq_ok_iff]
  simp [pure, Except.pure, and_comm]

/-- It stops where its code points cannot be read. -/
theorem readText_eq_error_iff :
    readText opening input = .error stop ↔ readPoints opening [] input = .error stop := by
  unfold readText
  cases readPoints opening [] input <;> simp [bind, Except.bind, pure, Except.pure]

end

/-! ## Numbers -/

/-- What is taken off a text are digits, and the text is these and what is left. -/
theorem splitDigits_spec {input digits rest : List Char} (h : splitDigits input = (digits, rest)) :
    input = digits ++ rest ∧ ∀ c ∈ digits, c.isDigit = true := by
  rw [splitDigits, List.span_eq_takeWhile_dropWhile, Prod.mk.injEq] at h
  obtain ⟨rfl, rfl⟩ := h
  refine ⟨List.takeWhile_append_dropWhile.symm, ?_⟩
  intro c hc
  exact List.mem_takeWhile_imp hc

/-- The same for whole digits. -/
theorem splitWhole_spec {input digits rest : List Char} (h : splitWhole input = (digits, rest)) :
    input = digits ++ rest ∧ ∀ c ∈ digits, c.isDigit = true := by
  unfold splitWhole at h
  split at h
  next tail =>
    cases h
    exact ⟨rfl, List.forall_mem_singleton.2 (by decide)⟩
  next => exact splitDigits_spec h

/-- A fraction is taken off the beginning of a text. -/
theorem exists_append_splitFraction (input : List Char) :
    ∃ taken, input = taken ++ (splitFraction input).2 := by
  fun_cases splitFraction input with
  | case1 => exact ⟨[], rfl⟩
  | case2 tail digits rest _ hdigits =>
    obtain ⟨rfl, -⟩ := splitDigits_spec hdigits
    exact ⟨'.' :: digits, rfl⟩
  | case3 => exact ⟨[], rfl⟩

/-- So is an exponent. -/
theorem exists_append_splitExponent (input : List Char) :
    ∃ taken, input = taken ++ (splitExponent input).2 := by
  fun_cases splitExponent input with
  | case1 => exact ⟨[], rfl⟩
  | case2 mark tail _ negative digits hsign found rest _ hfound =>
    have htail : ∃ sign, tail = sign ++ digits := by
      split at hsign
      next => exact ⟨['-'], by cases hsign; rfl⟩
      next => exact ⟨['+'], by cases hsign; rfl⟩
      next => exact ⟨[], by cases hsign; rfl⟩
    obtain ⟨sign, rfl⟩ := htail
    obtain ⟨rfl, -⟩ := splitDigits_spec hfound
    refine ⟨mark :: sign ++ found, ?_⟩
    simp
  | case3 => exact ⟨[], rfl⟩
  | case4 => exact ⟨[], rfl⟩

/-- A number is a sign, if there is one, digits, and what follows these. -/
theorem splitNumber_spec {input rest : List Char} {parts : NumberParts}
    (h : splitNumber? input = some (parts, rest)) :
    ∃ sign tail, (sign = [] ∨ sign = ['-']) ∧ input = sign ++ parts.whole ++ tail ++ rest ∧
      parts.whole ≠ [] ∧ ∀ c ∈ parts.whole, c.isDigit = true := by
  revert h
  fun_cases splitNumber? input with
  | case1 => nofun
  | case2 negative unsigned hsign whole afterWhole hne hwhole fraction afterFraction hfraction
      exponent afterExponent hexponent =>
    intro h
    have hinput : ∃ sign, (sign = [] ∨ sign = ['-']) ∧ input = sign ++ unsigned := by
      split at hsign
      next => exact ⟨['-'], .inr rfl, by cases hsign; rfl⟩
      next => exact ⟨[], .inl rfl, by cases hsign; rfl⟩
    obtain ⟨sign, hminus, rfl⟩ := hinput
    obtain ⟨rfl, hdigits⟩ := splitWhole_spec hwhole
    obtain ⟨point, hpoint⟩ := exists_append_splitFraction afterWhole
    obtain ⟨mark, hmark⟩ := exists_append_splitExponent afterFraction
    rw [hfraction] at hpoint
    rw [hexponent] at hmark
    cases h
    refine ⟨sign, point ++ mark, hminus, ?_, hne, hdigits⟩
    simp [hpoint, hmark]

/-! ## Values that are no containers -/

/-- A value that begins with a quote is a string. -/
theorem readScalar_text (rest : List Char) :
    readScalar ('\x22' :: rest) =
      (readText ('\x22' :: rest) rest).map fun read => (.text read.1, read.2) := by
  have h : readScalar ('\x22' :: rest) =
      readText ('\x22' :: rest) rest >>= fun read => .ok (.text read.1, read.2) := rfl
  rw [h]
  cases readText ('\x22' :: rest) rest <;> rfl

/-- A value that begins with no quote is a word or a number. -/
theorem readScalar_of_ne_quote {input : List Char} (h : input.head? ≠ some '\x22') :
    readScalar input =
      match wordValues.find? fun (word, _) => word.isPrefixOf input with
      | some (word, d) => .ok (d, input.drop word.length)
      | none =>
        match splitNumber? input with
        | some (parts, rest) => parts.document.map fun d => (d, rest)
        | none => .error (.flaw .expectedValue input) := by
  unfold readScalar
  split
  next => exact absurd rfl h
  next =>
    cases wordValues.find? fun (word, _) => word.isPrefixOf input with
    | some found => rfl
    | none =>
      cases splitNumber? input with
      | none => rfl
      | some number =>
        obtain ⟨parts, rest⟩ := number
        cases hparts : parts.document <;> simp [hparts, Except.map, bind, Except.bind, pure,
          Except.pure]

/-- A word that is found is one of the fixed words, and the text begins with it. -/
theorem exists_append_of_word {input word : List Char} {d : Document}
    (h : (wordValues.find? fun (word, _) => word.isPrefixOf input) = some (word, d)) :
    (word, d) ∈ wordValues ∧ input = word ++ input.drop word.length := by
  refine ⟨List.mem_of_find?_eq_some h, ?_⟩
  have hprefix : word.isPrefixOf input = true := by simpa using List.find?_some h
  obtain ⟨rest, rfl⟩ := List.isPrefixOf_iff_prefix.1 hprefix
  rw [List.drop_left]

/-- A value that is no container is read from a string, a word or a number. -/
theorem readScalar_cases {input rest : List Char} {d : Document}
    (h : readScalar input = .ok (d, rest)) :
    (∃ tail content, input = '\x22' :: tail ∧ readText input tail = .ok (content, rest) ∧
      d = .text content) ∨
    (∃ word, (word, d) ∈ wordValues ∧ input = word ++ rest) ∨
    ∃ parts, splitNumber? input = some (parts, rest) ∧ parts.document = .ok d := by
  by_cases hquote : input.head? = some '\x22'
  · obtain ⟨tail, rfl⟩ := List.head?_eq_some_iff.1 hquote
    rw [readScalar_text, map_eq_ok_iff] at h
    obtain ⟨⟨content, left⟩, hread, heq⟩ := h
    cases heq
    exact .inl ⟨tail, content, rfl, hread, rfl⟩
  · rw [readScalar_of_ne_quote hquote] at h
    split at h
    next word d hword =>
      cases h
      exact .inr (.inl ⟨word, exists_append_of_word hword⟩)
    next =>
      split at h
      next parts left hnumber =>
        obtain ⟨d, hparts, heq⟩ := map_eq_ok_iff.1 h
        cases heq
        exact .inr (.inr ⟨parts, hnumber, hparts⟩)
      next => cases h

/-- Reading a value that is no container leaves an end of the text. -/
theorem endsIn_of_readScalar {input rest : List Char} {d : Document}
    (h : readScalar input = .ok (d, rest)) : EndsIn input rest := by
  rcases readScalar_cases h with ⟨tail, content, rfl, hread, -⟩ | ⟨word, hword, rfl⟩ |
    ⟨parts, hnumber, -⟩
  · obtain ⟨points, hpoints, -⟩ := readText_eq_ok_iff.1 hread
    exact (endsIn_of_readPoints hpoints).cons _
  · have hne : ∀ entry ∈ wordValues, entry.1 ≠ [] := by decide
    exact ⟨word, hne _ hword, rfl⟩
  · obtain ⟨sign, tail, -, rfl, hne, -⟩ := splitNumber_spec hnumber
    refine ⟨sign ++ parts.whole ++ tail, ?_, rfl⟩
    simp [hne]

/-! ## One step -/

/-- What one step can do. -/
inductive Machine.Takes (limit : Nat) (m : Machine) : List Char → Machine → List Char → Prop
  | openList (rest : List Char) (h : m.frames.length < limit) :
      Takes limit m ('[' :: rest) (.expecting (.list [] :: m.frames) .firstItem) rest
  | openObject (rest : List Char) (h : m.frames.length < limit) :
      Takes limit m ('\x7b' :: rest) (.expecting (.object [] "" :: m.frames) .firstKey) rest
  | scalar {input rest : List Char} {d : Document} (h : readScalar input = .ok (d, rest)) :
      Takes limit m input (.afterValue d m.frames) rest
  | key {entries : List (String × Document)} {old : String} {outer : List Frame}
      {tail rest : List Char} {content : RawText}
      (hframes : m.frames = .object entries old :: outer)
      (h : readText ('\x22' :: tail) tail = .ok (content, rest)) :
      Takes limit m ('\x22' :: tail)
        (.expecting (.object entries content.asString :: outer) .colon) rest
  | closeList {items : List Document} {outer : List Frame} (rest : List Char)
      (hframes : m.frames = .list items :: outer) :
      Takes limit m (']' :: rest) (.afterValue (.list items.reverse) outer) rest
  | closeObject {entries : List (String × Document)} {key : String} {outer : List Frame}
      (rest : List Char) (hframes : m.frames = .object entries key :: outer) :
      Takes limit m ('\x7d' :: rest) (.afterValue (.object entries.reverse) outer) rest
  | comma (rest : List Char) (expects : Expectation) :
      Takes limit m (',' :: rest) (.expecting m.frames expects) rest
  | colon (rest : List Char) : Takes limit m (':' :: rest) (.expecting m.frames .value) rest

section

variable {limit : Nat} {m m' : Machine} {input rest : List Char}

/-- A container is entered exactly when fewer than the limit are open, and then it is empty. -/
theorem enter_eq_ok_iff {container : Container} {frames : List Frame} :
    enter limit container frames = .ok m ↔ frames.length < limit ∧
      m = match container with
        | .list => .expecting (.list [] :: frames) .firstItem
        | .object => .expecting (.object [] "" :: frames) .firstKey := by
  unfold enter
  split
  next hlimit => simp [Nat.not_lt.2 hlimit]
  next hlimit => cases container <;> simp [Nat.not_le.1 hlimit, eq_comm]

/-- Where a value is expected, one is read, unless a list ends before its first item. -/
theorem step_of_value (hexpects : m.expects = .value ∨ m.expects = .firstItem)
    (hclose : input.head? ≠ some ']') : m.step limit input = stepValue limit m.frames input := by
  unfold Machine.step
  rcases hexpects with hexpects | hexpects
  · rw [hexpects]
  · rw [hexpects]
    split
    case h_2 => exact absurd rfl hclose
    case h_3 => rfl
    all_goals contradiction

/-- Where a key is expected, one is read, unless an object ends before its first entry. -/
theorem step_of_key (hexpects : m.expects = .firstKey ∨ m.expects = .key)
    (hclose : input.head? ≠ some '\x7d') : m.step limit input = stepKey m.frames input := by
  unfold Machine.step
  rcases hexpects with hexpects | hexpects
  · rw [hexpects]
    split
    case h_4 => exact absurd rfl hclose
    case h_5 => rfl
    all_goals contradiction
  · rw [hexpects]

/-- A value that begins with no opening bracket is read at once. -/
theorem stepValue_of_scalar {frames : List Frame} (hlist : input.head? ≠ some '[')
    (hobject : input.head? ≠ some '\x7b') :
    stepValue limit frames input =
      (readScalar input).map fun read => (.afterValue read.1 frames, read.2) := by
  unfold stepValue
  split
  next => exact absurd rfl hlist
  next => exact absurd rfl hobject
  next => cases readScalar input <;> rfl

/-- Reading the beginning of a value is one of the things that a step can do. -/
theorem takes_of_stepValue (h : stepValue limit m.frames input = .ok (m', rest)) :
    m.Takes limit input m' rest := by
  unfold stepValue at h
  split at h
  next tail =>
    obtain ⟨entered, hentered, heq⟩ := bind_eq_ok_iff.1 h
    cases heq
    obtain ⟨hdepth, rfl⟩ := enter_eq_ok_iff.1 hentered
    exact .openList _ hdepth
  next tail =>
    obtain ⟨entered, hentered, heq⟩ := bind_eq_ok_iff.1 h
    cases heq
    obtain ⟨hdepth, rfl⟩ := enter_eq_ok_iff.1 hentered
    exact .openObject _ hdepth
  next =>
    obtain ⟨⟨d, left⟩, hread, heq⟩ := bind_eq_ok_iff.1 h
    cases heq
    exact .scalar hread

/-- So is reading a key. -/
theorem takes_of_stepKey (h : stepKey m.frames input = .ok (m', rest)) :
    m.Takes limit input m' rest := by
  unfold stepKey at h
  split at h
  next tail entries old outer hframes =>
    obtain ⟨⟨content, left⟩, hread, heq⟩ := bind_eq_ok_iff.1 h
    cases heq
    exact .key hframes hread
  next => cases h

/-- So is reading what stands between values. -/
theorem takes_of_stepDelimiter (h : stepDelimiter m.frames input = .ok (m', rest)) :
    m.Takes limit input m' rest := by
  unfold stepDelimiter at h
  split at h
  next hframes =>
    cases h
    exact .closeList _ hframes
  next hframes =>
    cases h
    rw [← hframes]
    exact .comma _ _
  next hframes =>
    cases h
    exact .closeObject _ hframes
  next hframes =>
    cases h
    rw [← hframes]
    exact .comma _ _
  next => cases h

/-- There is nothing else that a step can do. -/
theorem takes_of_step (h : m.step limit input = .ok (m', rest)) : m.Takes limit input m' rest := by
  unfold Machine.step at h
  split at h
  · exact takes_of_stepValue h
  · exact takes_of_stepDelimiter h
  · exact takes_of_stepValue h
  · exact takes_of_stepDelimiter h
  · exact takes_of_stepKey h
  · exact takes_of_stepKey h
  · cases h
    exact .colon _
  · cases h
  · exact takes_of_stepDelimiter h
  · cases h

/-- Each of them leaves an end of the text. -/
theorem Machine.Takes.endsIn (h : m.Takes limit input m' rest) : EndsIn input rest := by
  cases h with
  | openList => exact endsIn_cons _ _
  | openObject => exact endsIn_cons _ _
  | scalar h => exact endsIn_of_readScalar h
  | key hframes h =>
    obtain ⟨points, hpoints, -⟩ := readText_eq_ok_iff.1 h
    exact (endsIn_of_readPoints hpoints).cons _
  | closeList => exact endsIn_cons _ _
  | closeObject => exact endsIn_cons _ _
  | comma => exact endsIn_cons _ _
  | colon => exact endsIn_cons _ _

end

/-! ## The run -/

/-- The document that the machine reads from the text, however many steps that takes. -/
def Machine.complete (limit : Nat) (m : Machine) (input : List Char) : Except Stop Document :=
  m.run limit input (input.length + 1)

/-- From one machine and text the reading comes to the other. -/
inductive Machine.Leads (limit : Nat) : Machine → List Char → Machine → List Char → Prop
  | here (m : Machine) (input : List Char) : Leads limit m input m input
  | step {m m' m'' : Machine} {input rest rest' : List Char}
      (h : m.step limit (skipSpacing input) = .ok (m', rest))
      (hlater : Leads limit m' rest m'' rest') : Leads limit m input m'' rest'

section

variable {limit : Nat} {m m' : Machine} {input rest : List Char} {stop : Stop} {d : Document}

/-- Without the blanks at its beginning no text is longer. -/
theorem length_skipSpacing_le (input : List Char) : (skipSpacing input).length ≤ input.length :=
  List.length_dropWhile_le _ _

/-- A step makes the text shorter. -/
theorem length_lt_of_step (h : m.step limit (skipSpacing input) = .ok (m', rest)) :
    rest.length < input.length :=
  Nat.lt_of_lt_of_le (takes_of_step h).endsIn.length_lt (length_skipSpacing_le input)

/-- A run goes on behind its first step. -/
theorem run_of_step {steps : Nat} (h : m.step limit (skipSpacing input) = .ok (m', rest)) :
    m.run limit input (steps + 1) = m'.run limit rest steps := by
  rw [Machine.run]
  split
  next hexpects hnone =>
    rw [hnone] at h
    unfold Machine.step at h
    simp [hexpects] at h
  next hother => simp only [h]

/-- A run stops where its first step stops. -/
theorem run_of_stop {steps : Nat} (h : m.step limit (skipSpacing input) = .error stop)
    (hgoes : m.expects = .nothing → skipSpacing input ≠ []) :
    m.run limit input (steps + 1) = .error stop := by
  rw [Machine.run]
  split
  next hexpects hnone => exact absurd hnone (hgoes hexpects)
  next => simp only [h]

/-- A run ends with its result where nothing more is expected and only blanks are left. -/
theorem run_of_end {steps : Nat} (hexpects : m.expects = .nothing)
    (hnone : skipSpacing input = []) : m.run limit input (steps + 1) = .ok m.result := by
  rw [Machine.run, hexpects, hnone]

/-- Steps beyond the length of the text make no difference. -/
theorem run_eq_run {steps steps' : Nat} (h : input.length < steps) (h' : input.length < steps') :
    m.run limit input steps = m.run limit input steps' := by
  induction steps generalizing m input steps' with
  | zero => omega
  | succ steps ih =>
    obtain ⟨steps', rfl⟩ : ∃ more, steps' = more + 1 := ⟨steps' - 1, by omega⟩
    by_cases hend : m.expects = .nothing ∧ skipSpacing input = []
    · rw [run_of_end hend.1 hend.2, run_of_end hend.1 hend.2]
    · cases hstep : m.step limit (skipSpacing input) with
      | error stop =>
        have hgoes : m.expects = .nothing → skipSpacing input ≠ [] :=
          fun hexpects hnone => hend ⟨hexpects, hnone⟩
        rw [run_of_stop hstep hgoes, run_of_stop hstep hgoes]
      | ok next =>
        obtain ⟨m', rest⟩ := next
        have hlength := length_lt_of_step hstep
        rw [run_of_step hstep, run_of_step hstep]
        apply ih <;> omega

/-- One step leaves what is read in the end as it is. -/
theorem complete_of_step (h : m.step limit (skipSpacing input) = .ok (m', rest)) :
    m.complete limit input = m'.complete limit rest := by
  have hlength := length_lt_of_step h
  unfold Machine.complete
  rw [run_of_step h]
  exact run_eq_run hlength (Nat.lt_succ_self _)

/-- So does any number of steps. -/
theorem complete_of_leads (h : Machine.Leads limit m input m' rest) :
    m.complete limit input = m'.complete limit rest := by
  induction h with
  | here m input => rfl
  | step h hlater ih => rw [complete_of_step h, ih]

/-- The reading ends in a document where nothing more is expected and only blanks are left, and in a
stop where a step stops. -/
theorem exists_leads (limit : Nat) (m : Machine) (input : List Char) :
    ∃ m' rest, Machine.Leads limit m input m' rest ∧
      ((m'.expects = .nothing ∧ skipSpacing rest = [] ∧ m.complete limit input = .ok m'.result) ∨
        ∃ stop, m'.step limit (skipSpacing rest) = .error stop ∧
          m.complete limit input = .error stop) := by
  -- each step leaves less of the text than there was
  induction hlength : input.length using Nat.strong_induction_on generalizing m input with
  | _ length ih =>
    by_cases hend : m.expects = .nothing ∧ skipSpacing input = []
    · exact ⟨m, input, .here _ _, .inl ⟨hend.1, hend.2, run_of_end hend.1 hend.2⟩⟩
    · cases hstep : m.step limit (skipSpacing input) with
      | error stop =>
        have hgoes : m.expects = .nothing → skipSpacing input ≠ [] :=
          fun hexpects hnone => hend ⟨hexpects, hnone⟩
        exact ⟨m, input, .here _ _, .inr ⟨stop, hstep, run_of_stop hstep hgoes⟩⟩
      | ok next =>
        obtain ⟨m', rest⟩ := next
        have hshorter := length_lt_of_step hstep
        obtain ⟨m'', rest', hleads, hends⟩ := ih rest.length (by omega) m' rest rfl
        rw [complete_of_step hstep]
        exact ⟨m'', rest', .step hstep hleads, hends⟩

end

/-! ## The document of a text -/

/-- The machine that a reading begins with. -/
def Machine.start : Machine :=
  .expecting [] .value

/-- A text is read as a document exactly when it begins with no byte order mark and the machine
reads the document from it. -/
theorem read_eq_ok_iff {limit : Nat} {input : List Char} {d : Document} :
    read limit input = .ok d ↔
      input.head? ≠ some '\ufeff' ∧ Machine.start.complete limit input = .ok d := by
  unfold read
  split
  next hmark => simp [hmark]
  next hmark =>
    rw [mapError_eq_ok_iff]
    exact (and_iff_right hmark).symm

end TokenAudit.Document
