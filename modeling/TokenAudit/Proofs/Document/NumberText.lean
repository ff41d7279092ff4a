import TokenAudit.Proofs.Binary64.Shortest
import TokenAudit.Proofs.Document.Limits
import TokenAudit.Proofs.Document.RoundTrip

/-!
# Reading a printed number

A whole number is read back from its digits if there are not too many of them, and every number of
double width is read back from its text: a word, or the digits of the shortest decimal that rounds
to it, with a point somewhere among them and zeros where the point lies beyond them.
-/

set_option autoImplicit false

namespace TokenAudit.Document

open Binary64 (Decimal trimZeros digitText)

/-! ## Numbers in place -/

/-- What may follow a value may follow a number. -/
theorem EndsToken.endsNumber {rest : List Char} (h : EndsToken rest) : EndsNumber rest := by
  intro c hc
  rcases h c hc with rfl | rfl
  all_goals decide

/-- A number is read from its parts. -/
theorem readScalar_chars {p : NumberParts} {d : Document} {rest : List Char} (h : p.AreWritten)
    (hd : p.document = .ok d) (hrest : EndsNumber rest) :
    readScalar (p.chars ++ rest) = .ok (d, rest) := by
  have hnumber := splitNumber_chars h hrest
  obtain ⟨c, tail, hinput, hc⟩ := head_of_splitNumber hnumber
  have hquote : (p.chars ++ rest).head? ≠ some '\x22' := by
    rw [hinput, List.head?_cons, ne_eq, Option.some.injEq]
    rintro rfl
    exact absurd hc (by decide)
  rw [readScalar_of_ne_quote hquote, find_word_of_splitNumber hnumber]
  simp only [hnumber, hd]
  rfl

/-- Digits are plain characters. -/
theorem isPlain_of_isDigit {c : Char} (h : c.isDigit = true) : IsPlain c := by
  rw [Char.isDigit, Bool.and_eq_true, decide_eq_true_eq, decide_eq_true_eq] at h
  have hge : '0'.toNat ≤ c.toNat := h.1
  have hle : c.toNat ≤ '9'.toNat := h.2
  change 48 ≤ c.toNat at hge
  change c.toNat ≤ 57 at hle
  unfold IsPlain
  omega

/-- A number is written in plain characters. -/
theorem isPlain_chars {p : NumberParts} (h : p.AreWritten) : ∀ c ∈ p.chars, IsPlain c := by
  obtain ⟨negative, whole, fraction, exponent⟩ := p
  simp only [NumberParts.chars, List.forall_mem_append]
  refine ⟨⟨⟨?_, fun c hc => isPlain_of_isDigit (h.whole.isDigit c hc)⟩, ?_⟩, ?_⟩
  · cases negative with
    | true => exact isPlain_of_all (by decide)
    | false => exact List.forall_mem_nil _
  · cases fraction with
    | none => exact List.forall_mem_nil _
    | some digits =>
      have hdigits := (h.fraction digits rfl).2
      exact List.forall_mem_cons.2 ⟨by decide, fun c hc => isPlain_of_isDigit (hdigits c hc)⟩
  · cases exponent with
    | none => exact List.forall_mem_nil _
    | some e =>
      rw [exponentChars, toList_exponentText]
      refine List.forall_mem_cons.2 ⟨by decide, List.forall_mem_cons.2 ⟨?_, ?_⟩⟩
      · split <;> decide
      · exact fun c hc => isPlain_of_isDigit (isDigit_of_mem_exponentDigits e c hc)

/-- What is printed by the parts of a number is read back if the number of these parts is that. -/
theorem readsBack_of_chars {p : NumberParts} {d : Document} (h : p.AreWritten)
    (hd : p.document = .ok d) (hprint : ∀ level, d.printAt level = p.chars) : d.ReadsBack := by
  constructor
  case reads =>
    intro level rest hrest
    rw [hprint]
    exact readScalar_chars h hd hrest.endsNumber
  case plain =>
    intro level
    rw [hprint]
    exact isPlain_chars h

/-- The word for no value is read back. -/
theorem readsBack_null : null.ReadsBack := by
  constructor
  case reads =>
    intro level rest _
    rw [printAt]
    rfl
  case plain =>
    intro level
    rw [printAt]
    exact isPlain_of_all (by decide)

/-! ## Whole numbers -/

/-- A whole number has as many digits as are read at most. -/
def IsShort (n : Int) : Prop :=
  (Nat.toDigits 10 n.natAbs).length ≤ digitLimit

instance (n : Int) : Decidable (IsShort n) :=
  inferInstanceAs (Decidable (_ ≤ _))

/-- A whole number is written as its sign and the digits of its magnitude. -/
theorem toList_toString_int (n : Int) :
    (toString n).toList = (Binary64.signText (n < 0)).toList ++ Nat.toDigits 10 n.natAbs := by
  cases n with
  | ofNat m =>
    have htext : toString (Int.ofNat m) = m.repr := rfl
    have hsign : decide (Int.ofNat m < 0) = false :=
      decide_eq_false (Int.not_lt.2 (Int.natCast_nonneg m))
    rw [htext, Nat.toList_repr, hsign]
    rfl
  | negSucc m =>
    have htext : toString (Int.negSucc m) = "-" ++ (m + 1).repr := rfl
    have hsign : decide (Int.negSucc m < 0) = true := decide_eq_true (Int.negSucc_lt_zero m)
    rw [htext, String.toList_append, Nat.toList_repr, hsign]
    rfl

/-- A whole number is read back if it is short. -/
theorem readsBack_int {n : Int} (h : IsShort n) : (int n).ReadsBack := by
  have hwritten : NumberParts.AreWritten ⟨n < 0, Nat.toDigits 10 n.natAbs, none, none⟩ :=
    ⟨areWhole_toDigits _, nofun⟩
  apply readsBack_of_chars hwritten
  · have hlimit : ¬ digitLimit < (Nat.toDigits 10 n.natAbs).length := Nat.not_lt.2 h
    simp only [NumberParts.document, if_neg hlimit, decimalValue_toDigits, Except.ok.injEq,
      int.injEq, decide_eq_true_eq]
    split <;> omega
  · intro level
    rw [printAt, toList_toString_int]
    simp [NumberParts.chars, fractionChars, exponentChars]

/-! ## Numbers with a point or a mark -/

/-- The decimal number that the digits of a number stand for. -/
def NumberParts.decimal (p : NumberParts) : Decimal :=
  ⟨decimalValue (p.whole ++ p.fraction.getD []),
    p.exponent.getD 0 - (p.fraction.getD []).length⟩

/-- A number with a fraction or an exponent is read as the floating-point number nearest to it. -/
theorem document_of_marked {p : NumberParts} (h : p.fraction ≠ none ∨ p.exponent ≠ none) :
    p.document =
      .ok (.float (.ofDecimal p.negative p.decimal.coefficient p.decimal.exponent)) := by
  unfold NumberParts.document
  split
  next hfraction hexponent => exact absurd h (by simp [hfraction, hexponent])
  next => rfl

/-- What is trimmed off the digits is a row of zeros. -/
theorem exists_append_trimZeros (digits : List Char) :
    ∃ zeros, digits = trimZeros digits ++ List.replicate zeros '0' := by
  have hzeros : digits.reverse.takeWhile (· == '0') =
      List.replicate (digits.reverse.takeWhile (· == '0')).length '0' := by
    apply List.eq_replicate_of_mem
    intro c hc
    have hzero : (c == '0') = true := List.mem_takeWhile_imp (p := (· == '0')) hc
    exact eq_of_beq hzero
  have hsplit := congrArg List.reverse
    (List.takeWhile_append_dropWhile (p := (· == '0')) (l := digits.reverse)).symm
  rw [List.reverse_reverse, List.reverse_append, hzeros, List.reverse_replicate] at hsplit
  exact ⟨_, hsplit⟩

/-- The parts that digits are written by, when the point stands after so many of them. -/
def partsAt (negative : Bool) (digits : List Char) (point : Int) : NumberParts :=
  if -4 < point ∧ point ≤ 16 then
    if point ≤ 0 then
      ⟨negative, ['0'], some (List.replicate (-point).toNat '0' ++ digits), none⟩
    else
      ⟨negative, digits.take point.toNat ++ List.replicate (point.toNat - digits.length) '0',
        some (if (digits.drop point.toNat).isEmpty then ['0'] else digits.drop point.toNat), none⟩
  else
    ⟨negative, digits.take 1,
      if (digits.drop 1).isEmpty then none else some (digits.drop 1), some (point - 1)⟩

section

variable {digits : List Char}

/-- The point stands behind the first digit, if there are more. -/
theorem withPoint_eq (digits : List Char) :
    Binary64.withPoint digits = digits.take 1 ++
      fractionChars (if (digits.drop 1).isEmpty then none else some (digits.drop 1)) := by
  fun_cases Binary64.withPoint digits with
  | case1 => rfl
  | case2 => rfl
  | case3 d rest hne =>
    cases rest with
    | nil => exact absurd rfl hne
    | cons d' rest => rfl

/-- The text of a decimal is that of its parts. -/
theorem chars_partsAt (negative : Bool) (d : Decimal) :
    (Binary64.signText negative ++ d.text).toList =
      (partsAt negative (trimZeros (digitText d.coefficient))
        ((digitText d.coefficient).length + d.exponent)).chars := by
  unfold Decimal.text
  generalize trimZeros (digitText d.coefficient) = digits
  generalize ((digitText d.coefficient).length : Int) + d.exponent = point
  simp only
  unfold partsAt
  rw [String.toList_append]
  split
  next =>
    split
    next =>
      simp [NumberParts.chars, fractionChars, exponentChars]
    next =>
      have hlength : point.toNat - (digits.take point.toNat).length =
          point.toNat - digits.length := by
        rw [List.length_take]
        omega
      simp only [hlength, NumberParts.chars, fractionChars, exponentChars, String.toList_append,
        String.toList_ofList, List.append_assoc, List.append_nil]
      split
      next => rfl
      next => simp
  next =>
    rw [String.toList_append, String.toList_ofList, withPoint_eq]
    simp [NumberParts.chars, exponentChars]

/-- The first digits of a number that begins with no zero are whole digits, with zeros after them or
without. -/
theorem areWhole_take (hne : digits ≠ []) (hdigits : ∀ c ∈ digits, c.isDigit = true)
    (hzero : digits.head? ≠ some '0') {count : Nat} (hcount : 0 < count) (zeros : Nat) :
    AreWhole (digits.take count ++ List.replicate zeros '0') := by
  obtain ⟨d, more, rfl⟩ := List.exists_cons_of_ne_nil hne
  obtain ⟨count, rfl⟩ : ∃ n, count = n + 1 := ⟨count - 1, by omega⟩
  rw [List.take_succ_cons, List.cons_append]
  refine ⟨by simp, ?_, fun hhead => absurd hhead hzero⟩
  rw [← List.cons_append, ← List.take_succ_cons]
  exact List.forall_mem_append.2
    ⟨fun c hc => hdigits c (List.mem_of_mem_take hc), isDigit_of_mem_zeros⟩

/-- The parts are such as a number is written by, if the digits do not begin with a zero. -/
theorem areWritten_partsAt (negative : Bool) (hne : digits ≠ [])
    (hdigits : ∀ c ∈ digits, c.isDigit = true) (hzero : digits.head? ≠ some '0') (point : Int) :
    (partsAt negative digits point).AreWritten := by
  have hdrop : ∀ count, ∀ c ∈ digits.drop count, c.isDigit = true :=
    fun count c hc => hdigits c (List.mem_of_mem_drop hc)
  unfold partsAt
  split
  next =>
    split
    next =>
      refine ⟨areWhole_zero, ?_⟩
      intro fraction hfraction
      cases hfraction
      exact ⟨by simp [hne], List.forall_mem_append.2 ⟨isDigit_of_mem_zeros, hdigits⟩⟩
    next hpoint =>
      refine ⟨areWhole_take hne hdigits hzero (by omega) _, ?_⟩
      intro fraction hfraction
      cases hfraction
      split
      next => exact ⟨areWhole_zero.nonempty, areWhole_zero.isDigit⟩
      next hmore => exact ⟨by simpa using hmore, hdrop _⟩
  next =>
    have hwhole := areWhole_take hne hdigits hzero Nat.one_pos 0
    rw [List.replicate_zero, List.append_nil] at hwhole
    refine ⟨hwhole, ?_⟩
    intro fraction hfraction
    simp only at hfraction
    split at hfraction
    next => cases hfraction
    next hmore =>
      cases hfraction
      exact ⟨by simpa using hmore, hdrop 1⟩

/-- Parts whose digits are the given ones with zeros before or after them stand for these, if the
point is where it was. -/
theorem extends_of_digits {p : NumberParts} {point : Int} (before after : Nat)
    (hparts : p.whole ++ p.fraction.getD [] =
      List.replicate before '0' ++ (digits ++ List.replicate after '0'))
    (hexponent : p.exponent.getD 0 - (p.fraction.getD []).length =
      point - digits.length - after) :
    p.decimal.Extends ⟨decimalValue digits, point - digits.length⟩ := by
  refine ⟨after, ?_, hexponent⟩
  rw [NumberParts.decimal, hparts, decimalValue_zeros_append, decimalValue_append_zeros]

/-- The parts stand for the digits, with zeros after them if need be. -/
theorem extends_partsAt (negative : Bool) (hne : digits ≠ []) (point : Int) :
    (partsAt negative digits point).decimal.Extends
      ⟨decimalValue digits, point - digits.length⟩ := by
  have hpos : 0 < digits.length := List.length_pos_iff.2 hne
  unfold partsAt
  split
  next =>
    split
    next hpoint =>
      -- the zeros before the digits are those behind the point and the one in front of it
      apply extends_of_digits ((-point).toNat + 1) 0
      · simp [List.replicate_succ]
      · simp only [Option.getD_some, Option.getD_none, List.length_append, List.length_replicate]
        omega
    next hpoint =>
      by_cases hmore : (digits.drop point.toNat).isEmpty = true
      · have hlength : digits.length ≤ point.toNat := by simpa using hmore
        -- the zeros after the digits reach up to the point, and one more stands behind it
        apply extends_of_digits 0 (point.toNat - digits.length + 1)
        · simp [hmore, List.take_of_length_le hlength, List.replicate_succ']
        · simp only [hmore, if_true, Option.getD_some, Option.getD_none, List.length_singleton]
          omega
      · have hlength : point.toNat < digits.length := by simpa using hmore
        have hnone : point.toNat - digits.length = 0 := by omega
        apply extends_of_digits 0 0
        · simp [hmore, hnone]
        · simp only [hmore, Bool.false_eq_true, if_false, Option.getD_some, Option.getD_none,
            List.length_drop]
          omega
  next =>
    obtain ⟨d, more, rfl⟩ := List.exists_cons_of_ne_nil hne
    apply extends_of_digits 0 0
    · cases more <;> simp
    · cases more with
      | nil => simp
      | cons d' more =>
        simp only [List.drop_succ_cons, List.drop_zero, List.isEmpty_cons, Bool.false_eq_true,
          if_false, Option.getD_some, List.length_cons]
        omega

/-- A decimal stands for its digits without the zeros at their end. -/
theorem extends_trimZeros (d : Decimal) :
    d.Extends ⟨decimalValue (trimZeros (digitText d.coefficient)),
      (digitText d.coefficient).length + d.exponent -
        (trimZeros (digitText d.coefficient)).length⟩ := by
  obtain ⟨zeros, hzeros⟩ := exists_append_trimZeros (digitText d.coefficient)
  refine ⟨zeros, ?_, ?_⟩
  · have hvalue : decimalValue (digitText d.coefficient) = d.coefficient :=
      decimalValue_toDigits d.coefficient
    rw [← decimalValue_append_zeros, ← hzeros, hvalue]
  · have hlength := congrArg List.length hzeros
    rw [List.length_append, List.length_replicate] at hlength
    simp only
    omega

/-- The digits of a number other than zero, without the zeros at their end, are digits that begin
with no zero, and there are some. -/
theorem trimZeros_digitText {n : Nat} (h : n ≠ 0) :
    trimZeros (digitText n) ≠ [] ∧ (∀ c ∈ trimZeros (digitText n), c.isDigit = true) ∧
      (trimZeros (digitText n)).head? ≠ some '0' := by
  obtain ⟨zeros, hzeros⟩ := exists_append_trimZeros (digitText n)
  have hne : trimZeros (digitText n) ≠ [] := by
    intro hnone
    have hvalue : decimalValue (digitText n) = n := decimalValue_toDigits n
    rw [hzeros, hnone, List.nil_append, decimalValue_zeros] at hvalue
    exact h hvalue.symm
  refine ⟨hne, ?_, ?_⟩
  · intro c hc
    apply isDigit_of_mem_toDigits (n := n)
    have hmem := List.mem_append_left (List.replicate zeros '0') hc
    rwa [← hzeros] at hmem
  · have hhead : (digitText n).head? ≠ some '0' := head_toDigits_ne_zero h
    rwa [hzeros, List.head?_append_of_ne_nil _ hne] at hhead

/-- Parts that are written around a point keep the sign, and have a fraction or an exponent. -/
theorem marked_partsAt (negative : Bool) (digits : List Char) (point : Int) :
    (partsAt negative digits point).negative = negative ∧
      ((partsAt negative digits point).fraction ≠ none ∨
        (partsAt negative digits point).exponent ≠ none) := by
  unfold partsAt
  split
  next => split <;> simp
  next => simp

/-- The text of a decimal that rounds to a rank other than zero is that of parts which are read as
the number of that rank. -/
theorem exists_parts {d : Decimal} (negative : Bool) (hpos : d.nearestRank ≠ 0)
    (hrank : d.nearestRank < overflowRank) :
    ∃ p : NumberParts, p.AreWritten ∧ (Binary64.signText negative ++ d.text).toList = p.chars ∧
      p.document = .ok (.float (.finite negative ⟨d.nearestRank, hrank⟩)) := by
  obtain ⟨hne, hdigits, hzero⟩ := trimZeros_digitText (Binary64.Decimal.coefficient_ne_zero hpos)
  refine ⟨_, areWritten_partsAt negative hne hdigits hzero _, chars_partsAt negative d, ?_⟩
  obtain ⟨hsign, hmarked⟩ := marked_partsAt negative (trimZeros (digitText d.coefficient))
    ((digitText d.coefficient).length + d.exponent)
  have hsame := (extends_partsAt negative hne
    ((digitText d.coefficient).length + d.exponent)).nearestRank_eq.trans
      (extends_trimZeros d).nearestRank_eq.symm
  rw [document_of_marked hmarked, hsign,
    Binary64.Decimal.ofDecimal_eq negative (by rwa [hsame]) (by rwa [hsame])]
  simp only [hsame]

end

/-- Either zero is read back from its text. -/
theorem readsBack_zero (negative : Bool) (h : 0 < overflowRank) :
    (float (.finite negative ⟨0, h⟩)).ReadsBack := by
  have hwritten : NumberParts.AreWritten ⟨negative, ['0'], some ['0'], none⟩ := by
    refine ⟨areWhole_zero, ?_⟩
    intro fraction hfraction
    cases hfraction
    exact ⟨areWhole_zero.nonempty, areWhole_zero.isDigit⟩
  apply readsBack_of_chars hwritten
  · rw [document_of_marked (.inl (by simp))]
    have hvalue : decimalValue ['0', '0'] = 0 := decimalValue_zeros 2
    have hzero : NumberParts.decimal ⟨negative, ['0'], some ['0'], none⟩ = ⟨0, -1⟩ := by
      simp [NumberParts.decimal, hvalue]
    rw [hzero]
    simp [Binary64.ofDecimal, Binary64.ofRank, h]
  · intro level
    rw [printAt]
    simp [Binary64.text, NumberParts.chars, fractionChars, exponentChars]

/-- A number of double width is read back from its text. -/
theorem readsBack_float (x : Binary64) : (float x).ReadsBack := by
  cases x with
  | nan =>
    constructor
    case reads =>
      intro level rest _
      rw [printAt]
      rfl
    case plain =>
      intro level
      rw [printAt]
      exact isPlain_of_all (by decide)
  | infinite negative =>
    constructor
    case reads =>
      intro level rest _
      rw [printAt]
      cases negative with
      | true => rfl
      | false => rfl
    case plain =>
      intro level
      rw [printAt]
      cases negative with
      | true => exact isPlain_of_all (by decide)
      | false => exact isPlain_of_all (by decide)
  | finite negative rank =>
    obtain ⟨rank, hrank⟩ := rank
    by_cases hzero : rank = 0
    · subst hzero
      exact readsBack_zero negative hrank
    · have hshortest := Binary64.nearestRank_shortest hzero
      obtain ⟨p, hwritten, hchars, hdocument⟩ :=
        exists_parts (d := Binary64.shortest rank) negative (by rwa [hshortest])
          (by rwa [hshortest])
      apply readsBack_of_chars hwritten
      · rw [hdocument]
        simp only [hshortest]
      · intro level
        rw [printAt, ← hchars, Binary64.text]
        simp only [hzero, if_false]

end TokenAudit.Document
