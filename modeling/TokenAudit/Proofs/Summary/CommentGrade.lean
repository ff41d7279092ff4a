import TokenAudit.Proofs.Binary64.Order
import TokenAudit.Proofs.Binary64.Rounding
import TokenAudit.Summary.Basic

/-!
# Where the comment grades begin

The comment ratio is a rounded quotient, and it is compared with two limits that are rounded
decimals. A quotient rounds to less than a limit exactly when it lies below the middle of the gap
before the limit. Up to `2 ^ 50` lines the quotients are too far apart for one to lie between that
middle and the decimal that the limit was rounded from, so the grades begin at one and at three
comments to twenty lines exactly, as if nothing had been rounded.
-/

set_option autoImplicit false

namespace TokenAudit

/-- The sentence on a source with minimal comments. -/
def minimalSentence : String :=
  "The contract has minimal comments, which makes it harder to understand and audit."

/-- The sentence on a moderately commented source. -/
def moderateSentence : String :=
  "The contract has a moderate level of comments, " ++
    "but more detailed documentation would be beneficial."

/-- The sentence on a well-commented source. -/
def wellCommentedSentence : String :=
  "The contract is well-commented, which is good for clarity and maintainability."

/-- The sentences on a source's comments. -/
def commentSentences : List String :=
  [minimalSentence, moderateSentence, wellCommentedSentence]

variable {num den : Nat}

/-! ## Quotients below a limit -/

namespace Binary64

/-- A rounded quotient is less than a positive number exactly when the quotient rounds to a rank
before the number's. -/
theorem ofRatio_lt_ofRank_iff {rank : Nat} (hrank : rank + 1 < overflowRank) :
    (ofRatio false num den).lt (ofRank false (rank + 1)) = true ↔ nearestRank num den ≤ rank := by
  unfold ofRatio ofRank
  rw [dif_pos hrank]
  split
  · simp only [lt, place?, Bool.false_eq_true, if_false, decide_eq_true_eq]
    omega
  · simp only [lt, place?, Bool.false_eq_true, if_false, decide_eq_true_eq]
    omega

/-- A rounded quotient is less than a number exactly when the quotient lies below the middle of the
gap before the number, or on it when the rank before the gap is even. A factor that is common to the
magnitudes need not be multiplied in. -/
theorem ofRatio_lt_iff_of_middle {limit : Binary64} {rank whole middle scale : Nat}
    (hlimit : limit = ofRank false (rank + 1)) (hrank : rank + 1 < overflowRank)
    (hscale : 0 < scale) (hone : 2 * one = whole * scale)
    (hmiddle : units rank + units (rank + 1) = middle * scale) (hden : 0 < den) :
    (ofRatio false num den).lt limit = true ↔
      whole * num < middle * den ∨ whole * num = middle * den ∧ rank % 2 = 0 := by
  have hquotient : 2 * (num * one) = whole * num * scale := by
    calc 2 * (num * one) = 2 * one * num := by ring
      _ = whole * num * scale := by rw [hone, Nat.mul_right_comm]
  have hgap : (units rank + units (rank + 1)) * den = middle * den * scale := by
    rw [hmiddle, Nat.mul_right_comm]
  rw [hlimit, ofRatio_lt_ofRank_iff hrank, nearestRank_le_iff num hden, hquotient, hgap,
    Nat.mul_lt_mul_right hscale, Nat.mul_left_inj hscale.ne']

/-- A number may be taken for the quotient `p / q` that it was rounded from, when quotients of a
smaller denominator are compared with it: `p / q` lies beyond the middle of the gap before the
number, by so little that no such quotient lies between them. -/
theorem ofRatio_lt_iff_of_short {limit : Binary64} {rank whole middle scale short p q : Nat}
    (hlimit : limit = ofRank false (rank + 1)) (hrank : rank + 1 < overflowRank)
    (hscale : 0 < scale) (hone : 2 * one = whole * scale)
    (hmiddle : units rank + units (rank + 1) = middle * scale)
    (hbeyond : q * middle + short = p * whole) (hshort : 0 < short) (hden : 0 < den)
    (hfine : short * den < whole) :
    (ofRatio false num den).lt limit = true ↔ q * num < p * den := by
  rw [ofRatio_lt_iff_of_middle hlimit hrank hscale hone hmiddle hden]
  have hsplit : q * (middle * den) + short * den = whole * (p * den) := by
    calc q * (middle * den) + short * den = (q * middle + short) * den := by ring
      _ = whole * (p * den) := by rw [hbeyond]; ring
  have hpast : 0 < short * den := Nat.mul_pos hshort hden
  have hswap : q * (whole * num) = whole * (q * num) := Nat.mul_left_comm q whole num
  constructor
  · intro h
    have hle : whole * num ≤ middle * den := by omega
    have hscaled := Nat.mul_le_mul_left q hle
    exact Nat.lt_of_mul_lt_mul_left (a := whole) (by omega)
  · intro h
    -- the quotients differ by one part in the product of the denominators at least
    have hstep := Nat.mul_le_mul_left whole h
    rw [Nat.mul_succ] at hstep
    left
    exact Nat.lt_of_mul_lt_mul_left (a := q) (by omega)

end Binary64

/-! ## The two limits -/

/-- The rank before that of the minimal ratio. -/
def belowMinimal : Nat := 4587366580439587225

/-- The rank before that of the moderate ratio. -/
def belowModerate : Nat := 4594572339843380018

/-- The lower boundary is the number behind the greatest one below it. -/
theorem minimalCommentRatio_eq : minimalCommentRatio = .ofRank false (belowMinimal + 1) := by
  decide +kernel

/-- The upper boundary is the number behind the greatest one below it. -/
theorem moderateCommentRatio_eq : moderateCommentRatio = .ofRank false (belowModerate + 1) := by
  decide +kernel

/-- The middle of the gap before the minimal ratio, where `2 ^ 58` parts make one. -/
theorem middle_belowMinimal :
    2 * Binary64.one = 288230376151711744 * Nat.pow 2 1017 ∧
      Binary64.units belowMinimal + Binary64.units (belowMinimal + 1) =
        14411518807585587 * Nat.pow 2 1017 := by
  decide +kernel

/-- The middle of the gap before the moderate ratio, where `2 ^ 56` parts make one. -/
theorem middle_belowModerate :
    2 * Binary64.one = 72057594037927936 * Nat.pow 2 1019 ∧
      Binary64.units belowModerate + Binary64.units (belowModerate + 1) =
        10808639105689189 * Nat.pow 2 1019 := by
  decide +kernel

/-- A quotient rounds to less than the lower boundary exactly when it is below a twentieth. -/
theorem lt_minimalCommentRatio_iff (num : Nat) (hden : 0 < den) (hbound : den < Nat.pow 2 50) :
    (Binary64.ofRatio false num den).lt minimalCommentRatio = true ↔ 20 * num < den := by
  have hrank : belowMinimal + 1 < overflowRank := by decide +kernel
  have hscale : 0 < Nat.pow 2 1017 := by decide +kernel
  -- one twentieth of `2 ^ 58`, less a fifth
  have hbeyond : 20 * 14411518807585587 + 4 = 1 * 288230376151711744 := rfl
  have hbound : den < 1125899906842624 := hbound
  rw [Binary64.ofRatio_lt_iff_of_short minimalCommentRatio_eq hrank hscale middle_belowMinimal.1
    middle_belowMinimal.2 hbeyond (by omega) hden (by omega), Nat.one_mul]

/-- A quotient rounds to less than the upper boundary exactly when it is below three twentieths. -/
theorem lt_moderateCommentRatio_iff (num : Nat) (hden : 0 < den) (hbound : den < Nat.pow 2 50) :
    (Binary64.ofRatio false num den).lt moderateCommentRatio = true ↔ 20 * num < 3 * den := by
  have hrank : belowModerate + 1 < overflowRank := by decide +kernel
  have hscale : 0 < Nat.pow 2 1019 := by decide +kernel
  -- three twentieths of `2 ^ 56`, less seven fifths
  have hbeyond : 20 * 10808639105689189 + 28 = 3 * 72057594037927936 := rfl
  have hbound : den < 1125899906842624 := hbound
  rw [Binary64.ofRatio_lt_iff_of_short moderateCommentRatio_eq hrank hscale middle_belowModerate.1
    middle_belowModerate.2 hbeyond (by omega) hden (by omega)]

/-! ## Grades -/

/-- The sentence on the comments is chosen by the first boundary above the ratio. -/
theorem commentGrade_eq (ratio : Binary64) : commentGrade ratio =
    if ratio.lt minimalCommentRatio then minimalSentence
    else if ratio.lt moderateCommentRatio then moderateSentence
    else wellCommentedSentence :=
  rfl

/-- It is always one of the three. -/
theorem commentGrade_mem (ratio : Binary64) : commentGrade ratio ∈ commentSentences := by
  rw [commentGrade_eq]
  split
  · simp [commentSentences]
  · split <;> simp [commentSentences]

/-- No sentence on a source's comments begins another. -/
theorem eq_of_isPrefix_sentence : ∀ s ∈ commentSentences, ∀ t ∈ commentSentences,
    s.toList <+: t.toList → s = t := by
  decide +kernel

/-- What is said about a source begins with one sentence on its comments, that of its grade. -/
theorem isPrefix_codeQuality_iff {sentence : String} (h : sentence ∈ commentSentences)
    (text : List Char) (ratio : Binary64) :
    sentence.toList <+: (codeQuality text ratio).toList ↔ commentGrade ratio = sentence := by
  have hgrade : (commentGrade ratio).toList <+: (codeQuality text ratio).toList := by
    unfold codeQuality
    simp only [String.toList_append, List.append_assoc]
    exact List.prefix_append _ _
  constructor
  · intro hsentence
    rcases List.prefix_or_prefix_of_prefix hgrade hsentence with hbegins | hbegins
    · exact eq_of_isPrefix_sentence _ (commentGrade_mem ratio) _ h hbegins
    · exact (eq_of_isPrefix_sentence _ h _ (commentGrade_mem ratio) hbegins).symm
  · rintro rfl
    exact hgrade

/-- The grade of a source compares the counted comments with its lines. -/
theorem commentGrade_commentRatio {text : List Char} (hlines : Text.lineCount text < Nat.pow 2 50) :
    commentGrade (commentRatio text) =
      if 20 * commentCount text < Text.lineCount text then minimalSentence
      else if 20 * commentCount text < 3 * Text.lineCount text then moderateSentence
      else wellCommentedSentence := by
  have hpos : 0 < Text.lineCount text := Nat.succ_pos _
  have hminimal := lt_minimalCommentRatio_iff (commentCount text) hpos hlines
  have hmoderate := lt_moderateCommentRatio_iff (commentCount text) hpos hlines
  rw [commentGrade_eq, commentRatio]
  simp only [hminimal, hmoderate]

/-- The grade of a source is told by whole numbers: minimal below one comment to twenty lines,
moderate from there and below three to twenty lines, and well-commented from there on. -/
theorem comment_grades_exact (text : List Char) (findings : List Finding)
    (hlines : Text.lineCount text < Nat.pow 2 50) :
    (minimalSentence.toList <+: (summarize text findings).codeQuality.toList ↔
        20 * commentCount text < Text.lineCount text) ∧
      (moderateSentence.toList <+: (summarize text findings).codeQuality.toList ↔
        Text.lineCount text ≤ 20 * commentCount text ∧
          20 * commentCount text < 3 * Text.lineCount text) ∧
      (wellCommentedSentence.toList <+: (summarize text findings).codeQuality.toList ↔
        3 * Text.lineCount text ≤ 20 * commentCount text) := by
  have hquality : (summarize text findings).codeQuality = codeQuality text (commentRatio text) :=
    rfl
  have hdistinct : minimalSentence ≠ moderateSentence ∧
      minimalSentence ≠ wellCommentedSentence ∧ moderateSentence ≠ wellCommentedSentence := by
    decide
  rw [hquality, isPrefix_codeQuality_iff (by simp [commentSentences]),
    isPrefix_codeQuality_iff (by simp [commentSentences]),
    isPrefix_codeQuality_iff (by simp [commentSentences]), commentGrade_commentRatio hlines]
  by_cases hlow : 20 * commentCount text < Text.lineCount text
  · rw [if_pos hlow]
    exact ⟨iff_of_true rfl hlow, iff_of_false hdistinct.1 (by omega),
      iff_of_false hdistinct.2.1 (by omega)⟩
  · rw [if_neg hlow]
    by_cases hmiddle : 20 * commentCount text < 3 * Text.lineCount text
    · rw [if_pos hmiddle]
      exact ⟨iff_of_false (Ne.symm hdistinct.1) hlow, iff_of_true rfl (by omega),
        iff_of_false hdistinct.2.2 (by omega)⟩
    · rw [if_neg hmiddle]
      exact ⟨iff_of_false (Ne.symm hdistinct.2.1) hlow,
        iff_of_false (Ne.symm hdistinct.2.2) (by omega), iff_of_true rfl (by omega)⟩

/-- A comment and nineteen empty lines below it. -/
def oneOfTwenty : List Char :=
  '/' :: '/' :: List.replicate 19 '\n'

/-- One comment to twenty lines is the least that is no longer minimal. -/
theorem comment_grades_exact_oneOfTwenty :
    Text.lineCount oneOfTwenty < Nat.pow 2 50 ∧
      moderateSentence.toList <+: (summarize oneOfTwenty []).codeQuality.toList ∧
      ¬ minimalSentence.toList <+: (summarize oneOfTwenty []).codeQuality.toList := by
  have hlines : Text.lineCount oneOfTwenty < Nat.pow 2 50 := by decide
  obtain ⟨hminimal, hmoderate, -⟩ := comment_grades_exact oneOfTwenty [] hlines
  exact ⟨hlines, hmoderate.2 (by decide), fun h => absurd (hminimal.1 h) (by decide)⟩

end TokenAudit
