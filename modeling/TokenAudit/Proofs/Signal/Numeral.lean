import Mathlib.Data.List.TakeWhile
import Mathlib.Tactic.ByContra
import TokenAudit.Signal.Percentage

/-!
# The number at the beginning of a text

A numeral is a sign or none and then digits, with a point and further digits or without, or a point
and digits. What is read of a text, after its leading white space, is the longest numeral that it
begins with; there is none exactly when what follows the sign starts neither with a digit nor with a
point and a digit. A suffix that goes on with neither a digit nor a point is not read.
-/

set_option autoImplicit false

namespace TokenAudit

/-! ## Numerals -/

/-- Each character of a text is a decimal digit of some script. -/
def AllDigits (text : List Char) : Prop :=
  ∀ c ∈ text, Text.isDigit c = true

/-- A text writes a number without a sign by the digits of its whole part and its fraction. -/
inductive WritesMagnitude : (text whole fraction : List Char) → Prop
  | whole {digits : List Char} (nonempty : digits ≠ []) (isDigit : AllDigits digits) :
      WritesMagnitude digits digits []
  | pointed {whole fraction : List Char} (nonempty : whole ≠ []) (isDigit : AllDigits whole)
      (fraction_isDigit : AllDigits fraction) :
      WritesMagnitude (whole ++ '.' :: fraction) whole fraction
  | fraction {digits : List Char} (nonempty : digits ≠ []) (isDigit : AllDigits digits) :
      WritesMagnitude ('.' :: digits) [] digits

/-- A text writes a sign, which may be left out. -/
inductive WritesSign : (text : List Char) → (negative : Bool) → Prop
  | absent : WritesSign [] false
  | plus : WritesSign ['+'] false
  | minus : WritesSign ['-'] true

/-- A text is a numeral of a number: a sign and the number without it. -/
def NumericPrefix.WrittenBy (p : NumericPrefix) (text : List Char) : Prop :=
  ∃ sign magnitude, text = sign ++ magnitude ∧ WritesSign sign p.negative ∧
    WritesMagnitude magnitude p.whole p.fraction

/-- The longest numeral that a text begins with, and its number. -/
structure LongestNumeral (text numeral : List Char) (p : NumericPrefix) : Prop where
  begins : numeral <+: text
  written : p.WrittenBy numeral
  longest : ∀ (other : List Char) (q : NumericPrefix), other <+: text → q.WrittenBy other →
    other.length ≤ numeral.length

/-- The text starts with a digit, or with a point and a digit. -/
def StartsNumber (text : List Char) : Prop :=
  ∃ c rest, Text.isDigit c = true ∧ (text = c :: rest ∨ text = '.' :: c :: rest)

/-- The text without the sign that it may begin with. -/
def dropSign (text : List Char) : List Char :=
  if text.head? = some '+' ∨ text.head? = some '-' then text.tail else text

/-- The text goes on with neither a digit nor a point. -/
def EndsNumeral (suffix : List Char) : Prop :=
  ∀ c, suffix.head? = some c → Text.isDigit c = false ∧ c ≠ '.'

/-- The number that decimal digits of any script write, the first of them counting most. -/
def writtenNumber (digits : List Char) : Nat :=
  digits.foldl (fun n c => (Text.digitValue? c).getD 0 + 10 * n) 0

/-- Digits are read as the number that they write. -/
theorem digitsValue_eq (digits : List Char) : digitsValue digits = writtenNumber digits := by
  rw [digitsValue, Text.numeralValue_eq_foldl, List.foldl_map, writtenNumber]

/-- A point is no digit. -/
theorem isDigit_point : Text.isDigit '.' = false := by decide

/-- A plus sign is none. -/
theorem isDigit_plus : Text.isDigit '+' = false := by decide

/-- A minus sign is none. -/
theorem isDigit_minus : Text.isDigit '-' = false := by decide

/-! ## Runs of characters -/

section

variable {p : Char → Bool} {text suffix : List Char}

/-- A run of characters does not go on into a suffix that begins with another kind. -/
theorem takeWhile_append_suffix (h : ∀ c, suffix.head? = some c → p c = false) (text : List Char) :
    (text ++ suffix).takeWhile p = text.takeWhile p := by
  induction text with
  | nil =>
    cases suffix with
    | nil => rfl
    | cons c suffix => simp [h c rfl]
  | cons c text ih =>
    rw [List.cons_append, List.takeWhile_cons, List.takeWhile_cons, ih]

/-- What follows a run of characters keeps a suffix that begins with another kind. -/
theorem dropWhile_append_suffix (h : ∀ c, suffix.head? = some c → p c = false) (text : List Char) :
    (text ++ suffix).dropWhile p = text.dropWhile p ++ suffix := by
  induction text with
  | nil =>
    cases suffix with
    | nil => rfl
    | cons c suffix => simp [h c rfl]
  | cons c text ih =>
    rw [List.cons_append, List.dropWhile_cons, List.dropWhile_cons, ih]
    split
    · rfl
    · rfl

/-- A run of characters reaches at least over those of its kind that the text begins with. -/
theorem length_le_takeWhile (h : ∀ c ∈ text, p c = true) (suffix : List Char) :
    text.length ≤ ((text ++ suffix).takeWhile p).length := by
  rw [List.takeWhile_append_of_pos h, List.length_append]
  omega

/-- What is left behind the leading digits is the text without them. -/
theorem drop_length_leadingDigits (text : List Char) :
    text.drop (leadingDigits text).length = text.dropWhile Text.isDigit := by
  have hsplit : leadingDigits text ++ text.dropWhile Text.isDigit = text :=
    List.takeWhile_append_dropWhile
  calc text.drop (leadingDigits text).length
      = (leadingDigits text ++ text.dropWhile Text.isDigit).drop (leadingDigits text).length := by
        rw [hsplit]
    _ = text.dropWhile Text.isDigit := List.drop_left

/-- The leading digits of a text are digits. -/
theorem allDigits_leadingDigits (text : List Char) : AllDigits (leadingDigits text) :=
  fun _ hc => List.all_eq_true.1 List.all_takeWhile _ hc

/-- No digit comes first in what begins with a point. -/
theorem isDigit_of_head_point {rest : List Char} :
    ∀ c, ('.' :: rest).head? = some c → Text.isDigit c = false := by
  rintro c hc
  cases hc
  exact isDigit_point

end

/-- Of a text of digits all lead. -/
theorem AllDigits.leadingDigits {digits : List Char} (h : AllDigits digits) :
    leadingDigits digits = digits :=
  List.takeWhile_eq_self_iff.2 h

/-- Digits end before a point. -/
theorem AllDigits.before_point {digits : List Char} (h : AllDigits digits) (rest : List Char) :
    TokenAudit.leadingDigits (digits ++ '.' :: rest) = digits ∧
      (digits ++ '.' :: rest).dropWhile Text.isDigit = '.' :: rest := by
  rw [TokenAudit.leadingDigits, takeWhile_append_suffix isDigit_of_head_point,
    dropWhile_append_suffix isDigit_of_head_point, List.takeWhile_eq_self_iff.2 h,
    List.dropWhile_eq_nil_iff.2 h]
  exact ⟨rfl, rfl⟩

/-- No digits stand before a point that a text begins with. -/
theorem leadingDigits_cons_point (rest : List Char) :
    leadingDigits ('.' :: rest) = [] ∧ ('.' :: rest).dropWhile Text.isDigit = '.' :: rest := by
  simp [leadingDigits, isDigit_point]

/-! ## What is read of a magnitude -/

/-- The point at the beginning of a text and the digits after it. -/
def pointChars : List Char → List Char
  | '.' :: rest => '.' :: leadingDigits rest
  | _ => []

/-- The characters at the beginning of a text that are read as a number without a sign. -/
def magnitudeChars (text : List Char) : List Char :=
  leadingDigits text ++ pointChars (text.dropWhile Text.isDigit)

variable {text magnitude whole fraction other numeral : List Char} {p : NumericPrefix}

/-- A text that begins with no point has no fraction. -/
theorem pointChars_of_ne (h : text.head? ≠ some '.') :
    pointChars text = [] ∧ pointDigits text = [] := by
  cases text with
  | nil => exact ⟨rfl, rfl⟩
  | cons c text =>
    have hc : c ≠ '.' := by
      rintro rfl
      exact h rfl
    simp [pointChars, pointDigits, hc]

/-- The characters of a fraction stand at the beginning. -/
theorem pointChars_isPrefix (text : List Char) : pointChars text <+: text := by
  by_cases h : text.head? = some '.'
  · obtain ⟨rest, rfl⟩ := List.head?_eq_some_iff.1 h
    exact List.prefix_cons_inj _ |>.2 (List.takeWhile_prefix _)
  · rw [(pointChars_of_ne h).1]
    exact List.nil_prefix

/-- What is read as a magnitude stands at the beginning of the text. -/
theorem magnitudeChars_isPrefix (text : List Char) : magnitudeChars text <+: text := by
  have hpoint := (List.prefix_append_right_inj (leadingDigits text)).2
    (pointChars_isPrefix (text.dropWhile Text.isDigit))
  have hsplit : leadingDigits text ++ text.dropWhile Text.isDigit = text :=
    List.takeWhile_append_dropWhile
  rwa [hsplit] at hpoint

/-- A text starts a number exactly when digits are read before a point or after it. -/
theorem startsNumber_iff :
    StartsNumber text ↔
      leadingDigits text ≠ [] ∨ pointDigits (text.dropWhile Text.isDigit) ≠ [] := by
  constructor
  · rintro ⟨c, rest, hc, rfl | rfl⟩
    · left
      simp [leadingDigits, hc]
    · right
      simp [isDigit_point, pointDigits, leadingDigits, hc]
  · intro h
    cases text with
    | nil => simp [leadingDigits, pointDigits] at h
    | cons c text =>
      by_cases hc : Text.isDigit c = true
      · exact ⟨c, text, hc, .inl rfl⟩
      · have hnone : leadingDigits (c :: text) = [] ∧
            (c :: text).dropWhile Text.isDigit = c :: text := by simp [leadingDigits, hc]
        rw [hnone.1, hnone.2] at h
        have hpoint : pointDigits (c :: text) ≠ [] := h.resolve_left fun hne => hne rfl
        have hdot : (c :: text).head? = some '.' := by
          by_contra hne
          exact hpoint (pointChars_of_ne hne).2
        cases hdot
        cases text with
        | nil => exact absurd rfl hpoint
        | cons d text =>
          have hd : Text.isDigit d = true := by
            by_contra hd
            exact hpoint (by simp [pointDigits, leadingDigits, hd])
          exact ⟨d, text, hd, .inr rfl⟩

/-- What is read of a text that starts a number is a magnitude. -/
theorem writesMagnitude_magnitudeChars (h : StartsNumber text) :
    WritesMagnitude (magnitudeChars text) (leadingDigits text)
      (pointDigits (text.dropWhile Text.isDigit)) := by
  have hdigits := allDigits_leadingDigits text
  have hstarts := startsNumber_iff.1 h
  unfold magnitudeChars
  generalize leadingDigits text = digits at hdigits hstarts ⊢
  generalize text.dropWhile Text.isDigit = rest at hstarts ⊢
  by_cases hdot : rest.head? = some '.'
  · obtain ⟨tail, rfl⟩ := List.head?_eq_some_iff.1 hdot
    have htail := allDigits_leadingDigits tail
    by_cases hne : digits = []
    · subst hne
      exact .fraction (hstarts.resolve_left fun hnil => hnil rfl) htail
    · exact .pointed hne hdigits htail
  · obtain ⟨hchars, hnone⟩ := pointChars_of_ne hdot
    rw [hnone] at hstarts ⊢
    rw [hchars, List.append_nil]
    exact .whole (hstarts.resolve_right fun hnil => hnil rfl) hdigits

/-- A magnitude has the digits that are read of it. -/
theorem WritesMagnitude.parts (h : WritesMagnitude magnitude whole fraction) :
    leadingDigits magnitude = whole ∧
      pointDigits (magnitude.dropWhile Text.isDigit) = fraction := by
  cases h with
  | whole nonempty isDigit =>
    rw [isDigit.leadingDigits, List.dropWhile_eq_nil_iff.2 isDigit]
    exact ⟨rfl, rfl⟩
  | pointed nonempty isDigit fraction_isDigit =>
    obtain ⟨hbefore, hpoint⟩ := isDigit.before_point fraction
    rw [hbefore, hpoint]
    exact ⟨rfl, fraction_isDigit.leadingDigits⟩
  | fraction nonempty isDigit =>
    obtain ⟨hbefore, hpoint⟩ := leadingDigits_cons_point fraction
    rw [hbefore, hpoint]
    exact ⟨rfl, isDigit.leadingDigits⟩

/-- No magnitude that a text begins with is longer than what is read of it. -/
theorem WritesMagnitude.length_le (h : WritesMagnitude magnitude whole fraction)
    (rest : List Char) : magnitude.length ≤ (magnitudeChars (magnitude ++ rest)).length := by
  unfold magnitudeChars
  rw [List.length_append]
  cases h with
  | whole nonempty isDigit =>
    have hle := length_le_takeWhile isDigit rest
    unfold leadingDigits
    omega
  | pointed nonempty isDigit fraction_isDigit =>
    have hle := length_le_takeWhile fraction_isDigit rest
    obtain ⟨hbefore, hpoint⟩ := isDigit.before_point (fraction ++ rest)
    rw [List.append_assoc, List.cons_append, hbefore, hpoint, pointChars]
    simp only [List.length_append, List.length_cons, leadingDigits]
    omega
  | fraction nonempty isDigit =>
    have hle := length_le_takeWhile isDigit rest
    obtain ⟨hbefore, hpoint⟩ := leadingDigits_cons_point (fraction ++ rest)
    rw [List.cons_append, hbefore, hpoint, pointChars]
    simp only [List.length_cons, List.length_nil, leadingDigits]
    omega

/-- A text that begins with a magnitude starts a number. -/
theorem WritesMagnitude.startsNumber (h : WritesMagnitude magnitude whole fraction)
    (rest : List Char) : StartsNumber (magnitude ++ rest) := by
  cases h with
  | whole nonempty isDigit =>
    obtain ⟨c, more, rfl⟩ := List.exists_cons_of_ne_nil nonempty
    exact ⟨c, more ++ rest, isDigit c List.mem_cons_self, .inl rfl⟩
  | pointed nonempty isDigit fraction_isDigit =>
    obtain ⟨c, more, rfl⟩ := List.exists_cons_of_ne_nil nonempty
    refine ⟨c, (more ++ '.' :: fraction) ++ rest, isDigit c List.mem_cons_self, .inl ?_⟩
    simp only [List.cons_append]
  | fraction nonempty isDigit =>
    obtain ⟨c, more, rfl⟩ := List.exists_cons_of_ne_nil nonempty
    exact ⟨c, more ++ rest, isDigit c List.mem_cons_self, .inr rfl⟩

/-! ## Signs -/

/-- A sign is dropped as it is split off. -/
theorem dropSign_eq (text : List Char) : dropSign text = (splitSign text).2 := by
  unfold dropSign
  cases text with
  | nil => rfl
  | cons c text =>
    simp only [List.head?_cons, Option.some.injEq, List.tail_cons]
    by_cases hminus : c = '-'
    · simp [hminus, splitSign]
    · by_cases hplus : c = '+'
      · simp [hplus, splitSign]
      · simp [hminus, hplus, splitSign]

/-- A text is the sign that is split off and what is left. -/
theorem exists_sign (text : List Char) :
    ∃ sign, WritesSign sign (splitSign text).1 ∧ text = sign ++ (splitSign text).2 := by
  unfold splitSign
  split
  · exact ⟨_, .minus, rfl⟩
  · exact ⟨_, .plus, rfl⟩
  · exact ⟨_, .absent, rfl⟩

/-- A sign before a number is split off. -/
theorem splitSign_append {sign : List Char} {negative : Bool} (hsign : WritesSign sign negative)
    (h : StartsNumber text) : splitSign (sign ++ text) = (negative, text) := by
  cases hsign with
  | plus => rfl
  | minus => rfl
  | absent =>
    obtain ⟨c, rest, hc, rfl | rfl⟩ := h
    · have hplus : c ≠ '+' := by
        rintro rfl
        rw [isDigit_plus] at hc
        cases hc
      have hminus : c ≠ '-' := by
        rintro rfl
        rw [isDigit_minus] at hc
        cases hc
      simp [splitSign, hplus, hminus]
    · rfl

/-! ## The longest numeral -/

/-- Neither digits nor a fraction are read exactly when the text starts no number. -/
theorem nothingRead_iff : ((leadingDigits text).isEmpty &&
    (pointDigits (text.dropWhile Text.isDigit)).isEmpty) = true ↔ ¬ StartsNumber text := by
  rw [startsNumber_iff, not_or, not_not, not_not, Bool.and_eq_true, List.isEmpty_iff,
    List.isEmpty_iff]

/-- The number that is read of what is left of a text after white space and sign. -/
def readMagnitude (negative : Bool) (rest : List Char) : Option NumericPrefix :=
  if (leadingDigits rest).isEmpty && (pointDigits (rest.dropWhile Text.isDigit)).isEmpty then none
  else some ⟨negative, leadingDigits rest, pointDigits (rest.dropWhile Text.isDigit)⟩

/-- A numeral is read behind blanks and a sign. -/
theorem numericPrefix?_eq (text : List Char) :
    numericPrefix? text = readMagnitude (splitSign (text.dropWhile Text.isBlank)).1
      (splitSign (text.dropWhile Text.isBlank)).2 := by
  unfold readMagnitude
  rw [← drop_length_leadingDigits]
  rfl

/-- A number without its sign is read exactly when the text starts one, by its digits and those of
its fraction. -/
theorem readMagnitude_eq_some_iff {negative : Bool} {rest : List Char} :
    readMagnitude negative rest = some p ↔ StartsNumber rest ∧
      p = ⟨negative, leadingDigits rest, pointDigits (rest.dropWhile Text.isDigit)⟩ := by
  unfold readMagnitude
  by_cases hstarts : StartsNumber rest
  · rw [if_neg fun hnone => nothingRead_iff.1 hnone hstarts]
    simp [hstarts, eq_comm]
  · rw [if_pos (nothingRead_iff.2 hstarts)]
    simp [hstarts]

/-- What it takes for a number to be read of a text. -/
theorem numericPrefix?_eq_some_iff :
    numericPrefix? text = some p ↔ ∃ rest, splitSign (text.dropWhile Text.isBlank) =
      (p.negative, rest) ∧ StartsNumber rest ∧ leadingDigits rest = p.whole ∧
        pointDigits (rest.dropWhile Text.isDigit) = p.fraction := by
  rw [numericPrefix?_eq, readMagnitude_eq_some_iff]
  obtain ⟨negative, whole, fraction⟩ := p
  simp only [NumericPrefix.mk.injEq]
  constructor
  · rintro ⟨hstarts, rfl, rfl, rfl⟩
    exact ⟨_, rfl, hstarts, rfl, rfl⟩
  · rintro ⟨rest, hsplit, hstarts, rfl, rfl⟩
    rw [hsplit]
    exact ⟨hstarts, rfl, rfl, rfl⟩

/-- No number is read of a text exactly when what follows its white space and its sign starts
none. -/
theorem numericPrefix?_eq_none_iff :
    numericPrefix? text = none ↔ ¬ StartsNumber (dropSign (text.dropWhile Text.isBlank)) := by
  rw [dropSign_eq, ← Option.not_isSome_iff_eq_none, not_iff_not, Option.isSome_iff_exists]
  constructor
  · rintro ⟨p, hp⟩
    obtain ⟨rest, hrest, hstarts, -⟩ := numericPrefix?_eq_some_iff.1 hp
    rwa [hrest]
  · intro hstarts
    exact ⟨⟨_, _, _⟩, numericPrefix?_eq_some_iff.2 ⟨_, rfl, hstarts, rfl, rfl⟩⟩

/-- A numeral that a text begins with takes off the same sign as the text. -/
theorem splitSign_of_writtenBy (h : p.WrittenBy numeral) (rest : List Char) :
    ∃ sign magnitude, numeral = sign ++ magnitude ∧ WritesSign sign p.negative ∧
      WritesMagnitude magnitude p.whole p.fraction ∧
      splitSign (numeral ++ rest) = (p.negative, magnitude ++ rest) := by
  obtain ⟨sign, magnitude, rfl, hsign, hmagnitude⟩ := h
  refine ⟨sign, magnitude, rfl, hsign, hmagnitude, ?_⟩
  rw [List.append_assoc]
  exact splitSign_append hsign (hmagnitude.startsNumber rest)

/-- What is read of a text that starts a number after its sign is the longest numeral. -/
theorem exists_longestNumeral {rest : List Char} (hsplit : splitSign text = (p.negative, rest))
    (hstarts : StartsNumber rest) (hwhole : leadingDigits rest = p.whole)
    (hfraction : pointDigits (rest.dropWhile Text.isDigit) = p.fraction) :
    ∃ sign, WritesSign sign p.negative ∧ text = sign ++ rest ∧
      LongestNumeral text (sign ++ magnitudeChars rest) p := by
  obtain ⟨sign, hsign, htext⟩ := exists_sign text
  rw [hsplit] at hsign htext
  simp only at hsign htext
  refine ⟨sign, hsign, htext, ?_, ?_, ?_⟩
  · rw [htext]
    exact (List.prefix_append_right_inj sign).2 (magnitudeChars_isPrefix rest)
  · refine ⟨sign, magnitudeChars rest, rfl, hsign, ?_⟩
    rw [← hwhole, ← hfraction]
    exact writesMagnitude_magnitudeChars hstarts
  · rintro other q ⟨more, hmore⟩ hother
    obtain ⟨sign', magnitude, rfl, hsign', hmagnitude, hsplit'⟩ := splitSign_of_writtenBy
      hother more
    rw [hmore, hsplit, Prod.mk.injEq] at hsplit'
    have hle := hmagnitude.length_le more
    have hlength := congrArg List.length hmore
    have hlength' := congrArg List.length htext
    rw [← hsplit'.2] at hle
    simp only [List.length_append, hsplit'.2] at hlength hlength' hle ⊢
    omega

/-- Two numerals of one text that are both longest are one, and write one number. -/
theorem LongestNumeral.unique {numeral' : List Char} {p' : NumericPrefix}
    (h : LongestNumeral text numeral p) (h' : LongestNumeral text numeral' p') :
    numeral = numeral' ∧ p = p' := by
  have hlength : numeral.length = numeral'.length :=
    Nat.le_antisymm (h'.longest _ _ h.begins h.written) (h.longest _ _ h'.begins h'.written)
  have hsame : numeral = numeral' :=
    (List.prefix_of_prefix_length_le h.begins h'.begins hlength.le).eq_of_length hlength
  refine ⟨hsame, ?_⟩
  obtain ⟨_, magnitude, -, -, hmagnitude, hsplit⟩ := splitSign_of_writtenBy h.written []
  obtain ⟨_, magnitude', -, -, hmagnitude', hsplit'⟩ :=
    splitSign_of_writtenBy h'.written []
  rw [hsame, hsplit', Prod.mk.injEq, List.append_nil, List.append_nil] at hsplit
  obtain ⟨hnegative, rfl⟩ := hsplit
  have hwhole := hmagnitude.parts.1.symm.trans hmagnitude'.parts.1
  have hfraction := hmagnitude.parts.2.symm.trans hmagnitude'.parts.2
  obtain ⟨negative, whole, fraction⟩ := p
  obtain ⟨negative', whole', fraction'⟩ := p'
  simp only at hnegative hwhole hfraction
  rw [hnegative, hwhole, hfraction]

/-- A number is read of a text exactly when it is that of the longest numeral after the white
space. -/
theorem numericPrefix?_eq_some_iff_longest :
    numericPrefix? text = some p ↔
      ∃ numeral, LongestNumeral (text.dropWhile Text.isBlank) numeral p := by
  constructor
  · intro h
    obtain ⟨rest, hsplit, hstarts, hwhole, hfraction⟩ := numericPrefix?_eq_some_iff.1 h
    obtain ⟨sign, -, -, hlongest⟩ := exists_longestNumeral hsplit hstarts hwhole hfraction
    exact ⟨_, hlongest⟩
  · rintro ⟨numeral, h⟩
    obtain ⟨more, hmore⟩ := h.begins
    obtain ⟨_, magnitude, -, -, hmagnitude, hsplit⟩ := splitSign_of_writtenBy h.written more
    rw [hmore] at hsplit
    have hstarts := hmagnitude.startsNumber more
    -- what is read is a longest numeral too, and so it is this one
    have hread : numericPrefix? text = some ⟨p.negative, leadingDigits (magnitude ++ more),
        pointDigits ((magnitude ++ more).dropWhile Text.isDigit)⟩ :=
      numericPrefix?_eq_some_iff.2 ⟨_, hsplit, hstarts, rfl, rfl⟩
    obtain ⟨sign, -, -, hlongest⟩ := exists_longestNumeral
      (p := ⟨p.negative, leadingDigits (magnitude ++ more),
        pointDigits ((magnitude ++ more).dropWhile Text.isDigit)⟩) hsplit hstarts rfl rfl
    rw [hread, (hlongest.unique h).2]

/-! ## Suffixes -/

/-- What ends a numeral adds nothing to its fraction. -/
theorem pointDigits_append {suffix : List Char} (h : EndsNumeral suffix) (text : List Char) :
    pointDigits (text ++ suffix) = pointDigits text := by
  by_cases hdot : text.head? = some '.'
  · obtain ⟨rest, rfl⟩ := List.head?_eq_some_iff.1 hdot
    exact takeWhile_append_suffix (fun c hc => (h c hc).1) rest
  · have hnone : (text ++ suffix).head? ≠ some '.' := by
      cases text with
      | nil => exact fun hc => (h '.' hc).2 rfl
      | cons c text => exact hdot
    rw [(pointChars_of_ne hdot).2, (pointChars_of_ne hnone).2]

/-- The sign of a text does not depend on its end. -/
theorem splitSign_append_suffix (hne : text ≠ []) (suffix : List Char) :
    splitSign (text ++ suffix) = ((splitSign text).1, (splitSign text).2 ++ suffix) := by
  obtain ⟨c, text, rfl⟩ := List.exists_cons_of_ne_nil hne
  by_cases hminus : c = '-'
  · simp [hminus, splitSign]
  · by_cases hplus : c = '+'
    · simp [hplus, splitSign]
    · simp [hminus, hplus, splitSign]

/-- A suffix that goes on with neither a digit nor a point is not read, unless there is only white
space before it. -/
theorem numericPrefix?_append {suffix : List Char} (hsuffix : EndsNumeral suffix)
    (hne : text.dropWhile Text.isBlank ≠ []) :
    numericPrefix? (text ++ suffix) = numericPrefix? text := by
  have hblank : (text ++ suffix).dropWhile Text.isBlank =
      text.dropWhile Text.isBlank ++ suffix := by
    rw [List.dropWhile_append, if_neg]
    simpa using hne
  have hdigits : ∀ c, suffix.head? = some c → Text.isDigit c = false := fun c hc => (hsuffix c hc).1
  have hwhole : ∀ rest, leadingDigits (rest ++ suffix) = leadingDigits rest :=
    takeWhile_append_suffix hdigits
  rw [numericPrefix?_eq, numericPrefix?_eq, hblank, splitSign_append_suffix hne, readMagnitude,
    readMagnitude, hwhole, dropWhile_append_suffix hdigits, pointDigits_append hsuffix]

/-- A numeral without white space before it is read as its number. -/
theorem numericPrefix?_of_writtenBy (h : p.WrittenBy numeral)
    (hblank : numeral.dropWhile Text.isBlank = numeral) : numericPrefix? numeral = some p := by
  obtain ⟨_, magnitude, -, -, hmagnitude, hsplit⟩ := splitSign_of_writtenBy h []
  have hstarts := hmagnitude.startsNumber []
  rw [List.append_nil, List.append_nil] at hsplit
  rw [List.append_nil] at hstarts
  rw [numericPrefix?_eq_some_iff, hblank]
  exact ⟨magnitude, hsplit, hstarts, hmagnitude.parts.1, hmagnitude.parts.2⟩

end TokenAudit
