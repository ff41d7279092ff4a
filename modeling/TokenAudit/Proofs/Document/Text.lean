import Mathlib.Data.List.Chain
import Mathlib.Tactic.SplitIfs
import TokenAudit.Document.Printer
import TokenAudit.Proofs.Document.Reading
import TokenAudit.Proofs.Text.Decoding

/-!
# Strings in a document

A string is printed in ASCII, and read back as it was when no two of its code points are the halves
of a surrogate pair: such halves would be joined. Every string that the reader gives is so, and so
is every text without surrogates.
-/

set_option autoImplicit false

namespace TokenAudit

open Document

/-- A text of code points in which no surrogate pair stands unjoined. -/
structure RawText.IsJoined (t : RawText) : Prop where
  inRange : ∀ n ∈ t.points, n < 0x110000
  unpaired : t.points.IsChain fun a b => ¬ (isHighSurrogate a = true ∧ isLowSurrogate b = true)

namespace Document

/-- The UTF-16 units of a code point. -/
def units (n : Nat) : List Nat :=
  if n < 0x10000 then [n]
  else [0xd800 + (n - 0x10000) / 0x400, 0xdc00 + (n - 0x10000) % 0x400]

/-- A character that a document is printed with, inside of a line. -/
def IsPlain (c : Char) : Prop :=
  32 ≤ c.toNat ∧ c.toNat < 127

/-! ## Escapes -/

/-- A number from sixteen on is written as its sixteenth part and one digit more. -/
theorem toDigits_append {n : Nat} (h : 16 ≤ n) :
    Nat.toDigits 16 n = Nat.toDigits 16 (n / 16) ++ [Nat.digitChar (n % 16)] :=
  Nat.toDigits_of_base_le (by decide) h

/-- A number below sixteen is written as one digit. -/
theorem toDigits_of_lt {n : Nat} (h : n < 16) : Nat.toDigits 16 n = [Nat.digitChar n] :=
  Nat.toDigits_of_lt_base h

/-- A unit is written by four digits. -/
theorem hexDigits_four {n : Nat} (h : n < 0x10000) :
    (Text.hexDigits 4 n).toList = [Nat.digitChar (n / 4096), Nat.digitChar (n / 256 % 16),
      Nat.digitChar (n / 16 % 16), Nat.digitChar (n % 16)] := by
  have hsecond : n / 16 / 16 = n / 256 := by omega
  have hthird : n / 256 / 16 = n / 4096 := by omega
  unfold Text.hexDigits
  rw [String.toList_ofList]
  by_cases hone : n < 16
  · have hzero : n / 4096 = 0 ∧ n / 256 % 16 = 0 ∧ n / 16 % 16 = 0 ∧ n % 16 = n := by omega
    rw [hzero.1, hzero.2.1, hzero.2.2.1, hzero.2.2.2, toDigits_of_lt hone]
    rfl
  · rw [toDigits_append (by omega)]
    by_cases htwo : n / 16 < 16
    · have hzero : n / 4096 = 0 ∧ n / 256 % 16 = 0 ∧ n / 16 % 16 = n / 16 := by omega
      rw [hzero.1, hzero.2.1, hzero.2.2, toDigits_of_lt htwo]
      rfl
    · rw [toDigits_append (by omega), hsecond]
      by_cases hthree : n / 256 < 16
      · have hzero : n / 4096 = 0 ∧ n / 256 % 16 = n / 256 := by omega
        rw [hzero.1, hzero.2, toDigits_of_lt hthree]
        rfl
      · rw [toDigits_append (by omega), hthird, toDigits_of_lt (by omega)]
        rfl

/-- A hexadecimal digit is read as its value. -/
theorem hexValue_digitChar : ∀ d < 16, hexValue? (Nat.digitChar d) = some d := by
  decide

/-- A unit escape is read as its unit, if something follows it. -/
theorem readPoints_unitEscape {n : Nat} (h : n < 0x10000) (opening : List Char) (acc : List Nat)
    {more : List Char} (hmore : more ≠ []) :
    readPoints opening acc (unitEscape n ++ more) = readPoints opening (n :: acc) more := by
  obtain ⟨next, rest, rfl⟩ := List.exists_cons_of_ne_nil hmore
  have hunit : unit? (Nat.digitChar (n / 4096)) (Nat.digitChar (n / 256 % 16))
      (Nat.digitChar (n / 16 % 16)) (Nat.digitChar (n % 16)) = some n := by
    unfold unit?
    rw [hexValue_digitChar _ (by omega), hexValue_digitChar _ (by omega),
      hexValue_digitChar _ (by omega), hexValue_digitChar _ (by omega)]
    simp only [Option.some.injEq]
    omega
  rw [unitEscape, hexDigits_four h]
  simp only [List.cons_append, List.nil_append]
  rw [readPoints]
  simp only [hunit]

/-- A letter escape is read as what the letter stands for. -/
theorem readPoints_letter {letter : Char} {n : Nat} (hu : letter ≠ 'u')
    (h : escapeLetter? letter = some n) (opening : List Char) (acc : List Nat) (more : List Char) :
    readPoints opening acc ('\\' :: letter :: more) = readPoints opening (n :: acc) more := by
  rw [readPoints]
  · simp only [h]
  · intro a b c d next rest hletter
    exact absurd hletter hu
  · exact hu

/-- A character that needs no escape is read as itself. -/
theorem readPoints_plain {c : Char} (hcontrol : 32 ≤ c.toNat) (hquote : c ≠ '\x22')
    (hslash : c ≠ '\\') (opening : List Char) (acc : List Nat) (more : List Char) :
    readPoints opening acc (c :: more) = readPoints opening (c.toNat :: acc) more := by
  rw [readPoints]
  · rw [if_neg (by omega)]
  · exact hquote
  all_goals intros; exact hslash ‹_›

/-- The escape of a code point is read as its units. -/
theorem readPoints_pointEscape {n : Nat} (h : n < 0x110000) (opening : List Char)
    (acc : List Nat) {more : List Char} (hmore : more ≠ []) :
    readPoints opening acc (pointEscape n ++ more) =
      readPoints opening ((units n).reverse ++ acc) more := by
  unfold pointEscape units
  split
  next hsmall => exact readPoints_unitEscape hsmall opening acc hmore
  next hlarge =>
    have hmore' : unitEscape (0xdc00 + (n - 0x10000) % 0x400) ++ more ≠ [] := by simp [hmore]
    rw [List.append_assoc, readPoints_unitEscape (by omega) opening acc hmore',
      readPoints_unitEscape (by omega) opening _ hmore]
    rfl

/-- A code point below the pairs is one unit. -/
theorem units_of_small {n : Nat} (h : n < 0x10000) : units n = [n] :=
  if_pos h

/-- A code point beyond is a pair of surrogates. -/
theorem units_of_large {n : Nat} (h : ¬ n < 0x10000) :
    units n = [0xd800 + (n - 0x10000) / 0x400, 0xdc00 + (n - 0x10000) % 0x400] :=
  if_neg h

/-- A printed code point is read as its units, if something follows it. -/
theorem readPoints_printPoint {n : Nat} (h : n < 0x110000) (opening : List Char) (acc : List Nat)
    {more : List Char} (hmore : more ≠ []) :
    readPoints opening acc (printPoint n ++ more) =
      readPoints opening ((units n).reverse ++ acc) more := by
  have hletter : ∀ letter m, letter ≠ 'u' → escapeLetter? letter = some m → m < 0x10000 →
      readPoints opening acc (['\\', letter] ++ more) =
        readPoints opening ((units m).reverse ++ acc) more := by
    intro letter m hu hvalue hsmall
    rw [units_of_small hsmall]
    exact readPoints_letter hu hvalue opening acc more
  unfold printPoint
  split_ifs with hquote hslash hfeed hreturn htab hform hback hplain
  · exact hquote ▸ hletter '\x22' 0x22 (by decide) rfl (by decide)
  · exact hslash ▸ hletter '\\' 0x5c (by decide) rfl (by decide)
  · exact hfeed ▸ hletter 'n' 10 (by decide) rfl (by decide)
  · exact hreturn ▸ hletter 'r' 13 (by decide) rfl (by decide)
  · exact htab ▸ hletter 't' 9 (by decide) rfl (by decide)
  · exact hform ▸ hletter 'f' 12 (by decide) rfl (by decide)
  · exact hback ▸ hletter 'b' 8 (by decide) rfl (by decide)
  · have hpoint : (Char.ofNat n).toNat = n := by
      apply Text.Utf8.toNat_ofNat_of_isValidChar
      unfold Nat.isValidChar
      omega
    have hne : ∀ d : Char, d.toNat ≠ n → Char.ofNat n ≠ d := by
      rintro d hd rfl
      exact hd hpoint
    rw [List.singleton_append, readPoints_plain (by omega) (hne _ (Ne.symm hquote))
      (hne _ (Ne.symm hslash)), hpoint, units_of_small (by omega)]
    rfl
  · exact readPoints_pointEscape h opening acc hmore

/-! ## What a string is printed with -/

instance (c : Char) : Decidable (IsPlain c) :=
  inferInstanceAs (Decidable (_ ∧ _))

/-- For a fixed text it can be computed that its characters are plain. -/
theorem isPlain_of_all {text : List Char} (h : text.all (fun c => decide (IsPlain c)) = true) :
    ∀ c ∈ text, IsPlain c := by
  intro c hc
  exact of_decide_eq_true (List.all_eq_true.1 h c hc)

/-- Hexadecimal digits are plain characters. -/
theorem isPlain_digitChar : ∀ d < 16, IsPlain (Nat.digitChar d) := by
  decide

/-- So are the characters of an escaped unit. -/
theorem isPlain_unitEscape {n : Nat} (h : n < 0x10000) : ∀ c ∈ unitEscape n, IsPlain c := by
  rw [unitEscape, hexDigits_four h]
  simp only [List.forall_mem_cons]
  refine ⟨by decide, by decide, ?_, ?_, ?_, ?_, nofun⟩
  all_goals exact isPlain_digitChar _ (by omega)

/-- So are those of any code point that is printed. -/
theorem isPlain_printPoint {n : Nat} (h : n < 0x110000) : ∀ c ∈ printPoint n, IsPlain c := by
  unfold printPoint
  split_ifs with hquote hslash hfeed hreturn htab hform hback hplain
  any_goals exact isPlain_of_all rfl
  · have hpoint : (Char.ofNat n).toNat = n := by
      apply Text.Utf8.toNat_ofNat_of_isValidChar
      unfold Nat.isValidChar
      omega
    rw [List.forall_mem_singleton]
    unfold IsPlain
    omega
  · unfold pointEscape
    split
    next hsmall => exact isPlain_unitEscape hsmall
    next hlarge =>
      exact List.forall_mem_append.2
        ⟨isPlain_unitEscape (by omega), isPlain_unitEscape (by omega)⟩

/-- So are those of a printed string. -/
theorem isPlain_printText {content : RawText} (h : content.IsJoined) :
    ∀ c ∈ printText content, IsPlain c := by
  rw [printText, List.cons_append, List.forall_mem_cons, List.forall_mem_append]
  refine ⟨by decide, ?_, isPlain_of_all (by decide)⟩
  intro c hc
  obtain ⟨n, hn, hc⟩ := List.mem_flatMap.1 hc
  exact isPlain_printPoint (h.inRange n hn) c hc

/-! ## Whole strings -/

/-- Printed code points are read as their units. -/
theorem readPoints_printed {points : List Nat} (h : ∀ n ∈ points, n < 0x110000)
    (opening : List Char) (acc : List Nat) (rest : List Char) :
    readPoints opening acc (points.flatMap printPoint ++ '\x22' :: rest) =
      .ok (acc.reverse ++ points.flatMap units, rest) := by
  induction points generalizing acc with
  | nil =>
    rw [List.flatMap_nil, List.nil_append, readPoints, List.flatMap_nil, List.append_nil]
  | cons n points ih =>
    obtain ⟨hn, hpoints⟩ := List.forall_mem_cons.1 h
    rw [List.flatMap_cons, List.append_assoc, readPoints_printPoint hn opening acc (by simp),
      ih hpoints, List.reverse_append, List.reverse_reverse, List.flatMap_cons, List.append_assoc]

/-- A code point is joined with what is joined behind it, if the two make up a pair. -/
theorem joinPairs_cons (n : Nat) (points : List Nat) :
    joinPairs (n :: points) =
      match joinPairs points with
      | low :: rest =>
        if isHighSurrogate n && isLowSurrogate low then joinSurrogates n low :: rest
        else n :: joinPairs points
      | [] => [n] :=
  rfl

/-- It stays as it is if they do not. -/
theorem joinPairs_cons_of_unpaired {n : Nat} {points : List Nat}
    (h : ∀ low, (joinPairs points).head? = some low →
      ¬ (isHighSurrogate n = true ∧ isLowSurrogate low = true)) :
    joinPairs (n :: points) = n :: joinPairs points := by
  rw [joinPairs_cons]
  split
  next low rest heq =>
    rw [if_neg, heq]
    rw [Bool.and_eq_true]
    exact h low (by rw [heq]; rfl)
  next heq => rw [heq]

/-- The units of code points among which no pair stands unjoined are joined to them. -/
theorem joinPairs_units {points : List Nat} (h : (RawText.mk points).IsJoined) :
    joinPairs (points.flatMap units) = points := by
  obtain ⟨hrange, hchain⟩ := h
  simp only at hrange hchain
  induction points with
  | nil => rfl
  | cons n points ih =>
    obtain ⟨hn, hpoints⟩ := List.forall_mem_cons.1 hrange
    obtain ⟨hhead, htail⟩ := List.isChain_cons.1 hchain
    have hrest := ih hpoints htail
    by_cases hsmall : n < 0x10000
    · rw [List.flatMap_cons, units_of_small hsmall, List.singleton_append,
        joinPairs_cons_of_unpaired, hrest]
      rw [hrest]
      intro low hlow
      exact hhead low hlow
    · -- the second unit is no high surrogate, so it waits for the first one
      have hlow : joinPairs ((0xdc00 + (n - 0x10000) % 0x400) :: points.flatMap units) =
          (0xdc00 + (n - 0x10000) % 0x400) :: points := by
        rw [joinPairs_cons_of_unpaired, hrest]
        intro low _ hpair
        simp only [isHighSurrogate, Bool.and_eq_true, decide_eq_true_eq] at hpair
        omega
      have hhigh : isHighSurrogate (0xd800 + (n - 0x10000) / 0x400) = true := by
        simp only [isHighSurrogate, Bool.and_eq_true, decide_eq_true_eq]
        omega
      have hsecond : isLowSurrogate (0xdc00 + (n - 0x10000) % 0x400) = true := by
        simp only [isLowSurrogate, Bool.and_eq_true, decide_eq_true_eq]
        omega
      rw [List.flatMap_cons, units_of_large hsmall, List.cons_append, List.singleton_append,
        joinPairs_cons, hlow]
      simp only [hhigh, hsecond, Bool.and_self, if_true, List.cons.injEq, and_true]
      unfold joinSurrogates
      omega

/-- A string is read back from its print. -/
theorem readText_printText {content : RawText} (h : content.IsJoined) (opening rest : List Char) :
    readText opening (content.points.flatMap printPoint ++ '\x22' :: rest) =
      .ok (content, rest) := by
  rw [readText_eq_ok_iff]
  refine ⟨_, readPoints_printed h.inRange opening [] rest, ?_⟩
  rw [List.reverse_nil, List.nil_append, joinPairs_units h]

/-! ## The strings that are read -/

section

variable {opening input rest : List Char} {acc points : List Nat} {content : RawText}

/-- The value of a hexadecimal digit is below sixteen. -/
theorem hexValue_lt {c : Char} {n : Nat} (h : hexValue? c = some n) : n < 16 := by
  unfold hexValue? at h
  split_ifs at h with hdigit hsmall hcapital
  · rw [Char.isDigit, Bool.and_eq_true, decide_eq_true_eq, decide_eq_true_eq] at hdigit
    have hle : c.toNat ≤ '9'.toNat := hdigit.2
    cases h
    change c.toNat ≤ 57 at hle
    change c.toNat - 48 < 16
    omega
  · have hle : c.toNat ≤ 'f'.toNat := hsmall.2
    cases h
    change c.toNat ≤ 102 at hle
    change c.toNat - 97 + 10 < 16
    omega
  · have hle : c.toNat ≤ 'F'.toNat := hcapital.2
    cases h
    change c.toNat ≤ 70 at hle
    change c.toNat - 65 + 10 < 16
    omega

/-- Four such digits spell a number of sixteen bits. -/
theorem unit_lt {a b c d : Char} {n : Nat} (h : unit? a b c d = some n) : n < 0x10000 := by
  unfold unit? at h
  split at h
  next a' b' c' d' ha hb hc hd =>
    have ha := hexValue_lt ha
    have hb := hexValue_lt hb
    have hc := hexValue_lt hc
    have hd := hexValue_lt hd
    rw [Option.some.injEq] at h
    omega
  next => cases h

/-- An escape letter stands for a character of ASCII. -/
theorem escapeLetter_lt {letter : Char} {n : Nat} (h : escapeLetter? letter = some n) :
    n < 0x80 := by
  unfold escapeLetter? at h
  split at h
  all_goals cases h
  all_goals decide

/-- The code points of a string that is read are in range. -/
theorem inRange_of_readPoints (h : readPoints opening acc input = .ok (points, rest))
    (hacc : ∀ n ∈ acc, n < 0x110000) : ∀ n ∈ points, n < 0x110000 := by
  fun_induction readPoints opening acc input with
  | case1 | case3 | case5 | case6 | case8 | case9 => cases h
  | case2 acc tail =>
    cases h
    intro n hn
    exact hacc n (List.mem_reverse.1 hn)
  | case4 acc a b c d next tail n hunit ih =>
    have hn := unit_lt hunit
    exact ih h (List.forall_mem_cons.2 ⟨by omega, hacc⟩)
  | case7 acc c tail _ _ n hletter ih =>
    have hn := escapeLetter_lt hletter
    exact ih h (List.forall_mem_cons.2 ⟨by omega, hacc⟩)
  | case10 acc c tail _ _ _ _ _ _ ih =>
    have hc : c.toNat < 0xd800 ∨ 0xdfff < c.toNat ∧ c.toNat < 0x110000 := c.valid
    exact ih h (List.forall_mem_cons.2 ⟨by omega, hacc⟩)

/-- A surrogate pair joins to a code point that is no surrogate. -/
theorem joinSurrogates_bounds {high low : Nat} (hhigh : isHighSurrogate high = true)
    (hlow : isLowSurrogate low = true) :
    0x10000 ≤ joinSurrogates high low ∧ joinSurrogates high low < 0x110000 := by
  simp only [isHighSurrogate, isLowSurrogate, Bool.and_eq_true, decide_eq_true_eq] at hhigh hlow
  unfold joinSurrogates
  omega

/-- After the joining no pair is left. -/
theorem isJoined_joinPairs (h : ∀ n ∈ points, n < 0x110000) :
    (RawText.mk (joinPairs points)).IsJoined := by
  induction points with
  | nil => exact ⟨nofun, .nil⟩
  | cons n points ih =>
    obtain ⟨hn, hpoints⟩ := List.forall_mem_cons.1 h
    obtain ⟨hrange, hchain⟩ := ih hpoints
    simp only at hrange hchain
    rw [joinPairs_cons]
    cases hjoined : joinPairs points with
    | nil => exact ⟨List.forall_mem_singleton.2 hn, .singleton n⟩
    | cons low tail =>
      rw [hjoined] at hrange hchain
      by_cases hpair : isHighSurrogate n = true ∧ isLowSurrogate low = true
      · -- what the pair is joined to is no surrogate, so it forms no pair with what follows
        have hbounds := joinSurrogates_bounds hpair.1 hpair.2
        obtain ⟨-, htail⟩ := List.forall_mem_cons.1 hrange
        simp only [hpair.1, hpair.2, Bool.and_self, if_true]
        refine ⟨List.forall_mem_cons.2 ⟨hbounds.2, htail⟩, ?_⟩
        refine List.isChain_cons.2 ⟨?_, (List.isChain_cons.1 hchain).2⟩
        rintro next - ⟨hhigh, -⟩
        simp only [isHighSurrogate, Bool.and_eq_true, decide_eq_true_eq] at hhigh
        omega
      · have hunpaired : (isHighSurrogate n && isLowSurrogate low) = false := by
          rw [Bool.eq_false_iff, Ne, Bool.and_eq_true]
          exact hpair
        simp only [hunpaired, Bool.false_eq_true, if_false]
        refine ⟨List.forall_mem_cons.2 ⟨hn, hrange⟩, List.isChain_cons.2 ⟨?_, hchain⟩⟩
        intro next hnext
        cases hnext
        exact hpair

/-- A string that is read is joined. -/
theorem isJoined_of_readText (h : readText opening input = .ok (content, rest)) :
    content.IsJoined := by
  obtain ⟨points, hpoints, rfl⟩ := readText_eq_ok_iff.1 h
  exact isJoined_joinPairs (inRange_of_readPoints hpoints nofun)

end

end Document

/-! ## Texts without surrogates -/

/-- A text of characters holds no surrogates. -/
theorem RawText.not_surrogate_of_mem_ofString {s : String} {n : Nat}
    (h : n ∈ (RawText.ofString s).points) :
    n < 0x110000 ∧ isHighSurrogate n = false ∧ isLowSurrogate n = false := by
  obtain ⟨c, -, rfl⟩ := List.mem_map.1 h
  have hvalid : c.toNat < 0xd800 ∨ 0xdfff < c.toNat ∧ c.toNat < 0x110000 := c.valid
  simp only [isHighSurrogate, isLowSurrogate, Bool.and_eq_false_iff, decide_eq_false_iff_not]
  omega

/-- A text of characters holds no surrogates, so no pairs of them. -/
theorem RawText.isJoined_ofString (s : String) : (RawText.ofString s).IsJoined := by
  constructor
  case inRange => exact fun n hn => (not_surrogate_of_mem_ofString hn).1
  case unpaired =>
    apply List.Pairwise.isChain
    rw [List.pairwise_iff_forall_sublist]
    intro a b hab hpair
    have ha := hab.subset List.mem_cons_self
    rw [(not_surrogate_of_mem_ofString ha).2.1] at hpair
    cases hpair.1

/-- It is the same text when it is taken as a raw text and back. -/
theorem RawText.asString_ofString (s : String) : (RawText.ofString s).asString = s := by
  rw [asString, chars_ofString, String.ofList_toList]

namespace RawText.IsJoined

variable {t t' : RawText}

/-- Two joined texts in a row are joined, unless a pair stands across the place where they meet. -/
theorem append (h : t.IsJoined) (h' : t'.IsJoined)
    (hbetween : ∀ a ∈ t.points.getLast?, ∀ b ∈ t'.points.head?,
      ¬ (isHighSurrogate a = true ∧ isLowSurrogate b = true)) : (t ++ t').IsJoined := by
  constructor
  case inRange =>
    rw [points_append, List.forall_mem_append]
    exact ⟨h.inRange, h'.inRange⟩
  case unpaired =>
    rw [points_append, List.isChain_append]
    exact ⟨h.unpaired, h'.unpaired, hbetween⟩

/-- No pair stands across the end of a text of characters. -/
theorem ofString_append (s : String) (h : t.IsJoined) : (ofString s ++ t).IsJoined := by
  apply (isJoined_ofString s).append h
  rintro a ha b - ⟨hhigh, -⟩
  rw [(not_surrogate_of_mem_ofString (List.mem_of_getLast? ha)).2.1] at hhigh
  cases hhigh

/-- None stands across its beginning. -/
theorem append_ofString (h : t.IsJoined) (s : String) : (t ++ ofString s).IsJoined := by
  apply h.append (isJoined_ofString s)
  rintro a - b hb ⟨-, hlow⟩
  rw [(not_surrogate_of_mem_ofString (List.mem_of_head? hb)).2.2] at hlow
  cases hlow

/-- A text between words is joined if it is so itself. -/
theorem between (h : t.IsJoined) (before after : String) :
    (ofString before ++ t ++ ofString after).IsJoined :=
  (h.ofString_append before).append_ofString after

end RawText.IsJoined

end TokenAudit
