import Mathlib
import TokenAudit.Proofs.Summary.LineEnding

/-!
# What the comment count counts

Pairs of slashes are counted from left to right, so each run of slashes counts for itself, by half
its length rounded down. Block comments are counted from each opening mark to the first closing mark
behind it. That finds as many as there can be without overlap: whatever block comments are chosen,
the first of them opens no earlier than the first opening mark and closes no earlier than the first
closing mark behind that, and the others stand in what is left. When two texts are joined by a line
feed, no run of slashes crosses it and the block comments of either text still stand in the whole.
-/

set_option autoImplicit false

namespace TokenAudit

/-- The runs of slashes in a text, each as long as it can be. -/
def slashRuns (text : List Char) : List (List Char) :=
  (text.splitBy (· == ·)).filter (·.contains '/')

/-- An opening mark, anything, and a closing mark that does not overlap the opening one. -/
def IsBlock (segment : List Char) : Prop :=
  ∃ inner, segment = '/' :: '*' :: inner ++ ['*', '/']

/-- A block comment stands in the text between the two positions. -/
def BlockAt (text : List Char) (place : Nat × Nat) : Prop :=
  ∃ before segment after, text = before ++ segment ++ after ∧ IsBlock segment ∧
    place = (before.length, before.length + segment.length)

/-- Block comments of a text, no two of which overlap. -/
structure DisjointBlocks (text : List Char) (places : List (Nat × Nat)) : Prop where
  blocks : ∀ place ∈ places, BlockAt text place
  disjoint : places.Pairwise fun p q => p.2 ≤ q.1 ∨ q.2 ≤ p.1

variable {text : List Char}

/-! ## Pairs of slashes -/

/-- Pairs that were counted before are counted on. -/
theorem slashPairs_add (extra count : Nat) (text : List Char) :
    slashPairs (extra + count) text = extra + slashPairs count text := by
  fun_induction slashPairs count text with
  | case1 count rest ih => exact ih
  | case2 count c rest hpair ih =>
    rw [slashPairs_cons, ih]
    rintro ⟨rfl, hhead⟩
    obtain ⟨tail, rfl⟩ := List.head?_eq_some_iff.1 hhead
    exact hpair tail rfl rfl
  | case3 count => rfl

/-- A run of slashes counts by half its length. -/
theorem slashPairs_slashes {rest : List Char} (hrest : rest.head? ≠ some '/') :
    ∀ k, slashPairs 0 (List.replicate k '/' ++ rest) = k / 2 + slashPairs 0 rest
  | 0 => by simp
  | 1 => by simp [slashPairs_cons _ fun h => hrest h.2]
  | k + 2 => by
    have hpair : slashPairs 0 (List.replicate (k + 2) '/' ++ rest) =
        slashPairs (1 + 0) (List.replicate k '/' ++ rest) := rfl
    rw [hpair, slashPairs_add, slashPairs_slashes hrest k]
    omega

/-- A run of another character adds no pair. -/
theorem slashPairs_others {c : Char} (hc : c ≠ '/') (k : Nat) (rest : List Char) :
    slashPairs 0 (List.replicate k c ++ rest) = slashPairs 0 rest := by
  induction k with
  | zero => rfl
  | succ k ih =>
    rw [List.replicate_succ, List.cons_append, slashPairs_cons _ fun h => hc h.1, ih]

/-- A run of equal characters repeats one of them. -/
theorem exists_eq_replicate {run : List Char} (hne : run ≠ [])
    (hrun : run.IsChain fun x y => (x == y) = true) :
    ∃ c k, run = List.replicate (k + 1) c := by
  obtain ⟨c, tail, rfl⟩ := List.exists_cons_of_ne_nil hne
  simp only [beq_iff_eq] at hrun
  rw [List.isChain_cons_eq_iff_eq_replicate] at hrun
  exact ⟨c, tail.length, by rw [List.replicate_succ, ← hrun]⟩

/-- What follows a run begins with another character, if with any. -/
theorem head?_flatten_ne {c : Char} {k : Nat} {runs : List (List Char)}
    (hparts : (List.replicate (k + 1) c :: runs).IsChain
      fun a b => ∃ ha hb, (a.getLast ha == b.head hb) = false) :
    runs.flatten.head? ≠ some c := by
  cases runs with
  | nil => simp
  | cons next runs =>
    obtain ⟨_, hb, hdiffers⟩ := (List.isChain_cons_cons.1 hparts).1
    obtain ⟨d, tail, rfl⟩ := List.exists_cons_of_ne_nil hb
    have hd : d ≠ c := by
      rintro rfl
      simp at hdiffers
    simpa using hd

/-- Where runs of equal characters follow one another, each run of slashes counts by half its
length. -/
theorem slashPairs_flatten {runs : List (List Char)} (hne : [] ∉ runs)
    (hruns : ∀ run ∈ runs, run.IsChain fun x y => (x == y) = true)
    (hparts : runs.IsChain fun a b => ∃ ha hb, (a.getLast ha == b.head hb) = false) :
    slashPairs 0 runs.flatten =
      ((runs.filter (·.contains '/')).map fun run => run.length / 2).sum := by
  induction runs with
  | nil => rfl
  | cons run runs ih =>
    rw [List.mem_cons, not_or] at hne
    rw [List.forall_mem_cons] at hruns
    have hrest := ih hne.2 hruns.2 hparts.tail
    obtain ⟨c, k, rfl⟩ := exists_eq_replicate (Ne.symm hne.1) hruns.1
    rw [List.flatten_cons, List.filter_cons]
    by_cases hc : c = '/'
    · subst hc
      rw [slashPairs_slashes (head?_flatten_ne hparts), hrest]
      simp
    · rw [slashPairs_others hc, hrest]
      simp [Ne.symm hc]

/-- The pairs of slashes are half of each run, rounded down. -/
theorem slashPairs_eq_sum (text : List Char) :
    slashPairs 0 text = ((slashRuns text).map fun run => run.length / 2).sum := by
  have hsum := slashPairs_flatten (List.nil_notMem_splitBy _ _)
    (fun _ => List.isChain_of_mem_splitBy)
    (List.isChain_getLast_head_splitBy (fun x y : Char => x == y) text)
  rwa [List.flatten_splitBy] at hsum

/-- No pair of slashes crosses a line feed. -/
theorem slashPairs_joined (count : Nat) (a b : List Char) :
    slashPairs count (a ++ '\n' :: b) = slashPairs (slashPairs count a) b := by
  fun_induction slashPairs count a with
  | case1 count rest ih => exact ih
  | case2 count c rest hpair ih =>
    rw [List.cons_append, slashPairs_cons, ih]
    rintro ⟨rfl, hhead⟩
    cases rest with
    | nil => simp at hhead
    | cons d rest =>
      have hd : d = '/' := by simpa using hhead
      exact hpair rest rfl (by rw [hd])
  | case3 count =>
    rw [List.nil_append, slashPairs_cons]
    simp

/-! ## Marks -/

/-- A mark of two characters stands in the text, and what follows it is of a kind. -/
def FollowsMark (c d : Char) (kind : List Char → Prop) (text : List Char) : Prop :=
  ∃ before after, text = before ++ c :: d :: after ∧ kind after

section Marks

variable {c d x y : Char} {kind : List Char → Prop} {rest : List Char}

/-- What follows a mark follows it when something is put in front. -/
theorem FollowsMark.append_left (before : List Char) (h : FollowsMark c d kind text) :
    FollowsMark c d kind (before ++ text) := by
  obtain ⟨start, after, rfl, hafter⟩ := h
  exact ⟨before ++ start, after, by simp, hafter⟩

/-- In a text of fewer than two characters nothing follows a mark. -/
theorem not_followsMark_of_short (h : ∀ x y rest, text = x :: y :: rest → False) :
    ¬ FollowsMark c d kind text := by
  rintro ⟨before, after, htext, -⟩
  cases before with
  | nil => exact h c d after htext
  | cons x before =>
    cases before with
    | nil => exact h x c (d :: after) htext
    | cons y before => exact h x y (before ++ c :: d :: after) htext

/-- Where a text does not begin with the mark, the mark stands in what follows its first
character. -/
theorem followsMark_cons_iff (h : ¬ (x = c ∧ y = d)) :
    FollowsMark c d kind (x :: y :: rest) ↔ FollowsMark c d kind (y :: rest) := by
  constructor
  · rintro ⟨before, after, htext, hafter⟩
    cases before with
    | nil =>
      obtain ⟨rfl, hlater⟩ := List.cons_eq_cons.1 htext
      obtain ⟨rfl, -⟩ := List.cons_eq_cons.1 hlater
      exact absurd ⟨rfl, rfl⟩ h
    | cons z before =>
      obtain ⟨-, hlater⟩ := List.cons_eq_cons.1 htext
      exact ⟨before, after, hlater, hafter⟩
  · intro hmark
    exact hmark.append_left [x]

/-- Where a text begins with the mark, what follows this first mark is of the kind if what follows
any is, the kind being one that more text in front does not spoil. -/
theorem followsMark_mark_iff (hne : c ≠ d)
    (hkind : ∀ before text, kind text → kind (before ++ text)) :
    FollowsMark c d kind (c :: d :: rest) ↔ kind rest := by
  constructor
  · rintro ⟨before, after, htext, hafter⟩
    cases before with
    | nil =>
      simp only [List.nil_append, List.cons.injEq, true_and] at htext
      rwa [htext]
    | cons x before =>
      obtain ⟨-, hlater⟩ := List.cons_eq_cons.1 htext
      cases before with
      | nil => exact absurd (List.cons_eq_cons.1 hlater).1 (Ne.symm hne)
      | cons y before =>
        obtain ⟨-, rfl⟩ := List.cons_eq_cons.1 hlater
        have hlonger := hkind (before ++ [c, d]) after hafter
        simpa using hlonger
  · intro hrest
    exact ⟨[], rest, rfl, hrest⟩

end Marks

/-! ## Block comments, one after the other -/

/-- So many block comments stand in the text, one after the other; the flag says whether the text
begins inside of the first. -/
def HoldsBlocks : Bool → Nat → List Char → Prop
  | _, 0 => fun _ => True
  | false, n + 1 => FollowsMark '/' '*' (FollowsMark '*' '/' (HoldsBlocks false n))
  | true, n + 1 => FollowsMark '*' '/' (HoldsBlocks false n)

/-- A text still holds its blocks when something is put in front. -/
theorem HoldsBlocks.append_left {inside : Bool} {n : Nat} (before : List Char)
    (h : HoldsBlocks inside n text) : HoldsBlocks inside n (before ++ text) := by
  cases n with
  | zero => trivial
  | succ n => cases inside <;> exact FollowsMark.append_left before h

/-- A text holds no more block comments, one after the other, than are counted. -/
theorem holdsBlocks_iff {inside : Bool} (count n : Nat) :
    HoldsBlocks inside n text ↔ count + n ≤ closedBlocks inside count text := by
  fun_induction closedBlocks inside count text generalizing n with
  | case1 count c d rest hpair ih =>
    obtain ⟨rfl, rfl⟩ := hpair
    rw [← ih]
    cases n with
    | zero => exact Iff.rfl
    | succ n => exact followsMark_mark_iff (by decide) fun before _ h => h.append_left before
  | case2 count c d rest hpair ih =>
    rw [← ih]
    cases n with
    | zero => exact Iff.rfl
    | succ n => exact followsMark_cons_iff hpair
  | case3 count c d rest hpair ih =>
    obtain ⟨rfl, rfl⟩ := hpair
    cases n with
    | zero =>
      have hbase := (ih 0).1 trivial
      exact ⟨fun _ => by omega, fun _ => trivial⟩
    | succ n =>
      have hmark : HoldsBlocks true (n + 1) ('*' :: '/' :: rest) ↔ HoldsBlocks false n rest :=
        followsMark_mark_iff (by decide) fun before _ h => h.append_left before
      rw [hmark, ih, Nat.add_assoc, Nat.add_comm 1 n]
  | case4 count c d rest hpair ih =>
    rw [← ih]
    cases n with
    | zero => exact Iff.rfl
    | succ n => exact followsMark_cons_iff hpair
  | case5 text inside count hshort =>
    cases n with
    | zero => exact ⟨fun _ => Nat.le_refl _, fun _ => trivial⟩
    | succ n =>
      have hnone : ¬ HoldsBlocks inside (n + 1) text := by
        cases inside <;> exact not_followsMark_of_short hshort
      exact ⟨fun h => absurd h hnone, fun h => by omega⟩

/-- The blocks of two texts in a row add up. -/
theorem HoldsBlocks.append {a b : List Char} {m n : Nat} (ha : HoldsBlocks false m a)
    (hb : HoldsBlocks false n b) : HoldsBlocks false (m + n) (a ++ b) := by
  induction m generalizing a with
  | zero =>
    rw [Nat.zero_add]
    exact hb.append_left a
  | succ m ih =>
    obtain ⟨before, _, rfl, inner, after, rfl, hafter⟩ := ha
    rw [Nat.add_right_comm]
    exact ⟨before, inner ++ '*' :: '/' :: (after ++ b), by simp, inner, after ++ b, rfl, ih hafter⟩

/-! ## Block comments by their places -/

/-- A block moves by what is put in front. -/
theorem BlockAt.append_left {place : Nat × Nat} (front : List Char) (h : BlockAt text place) :
    BlockAt (front ++ text) (front.length + place.1, front.length + place.2) := by
  obtain ⟨before, segment, after, rfl, hblock, rfl⟩ := h
  exact ⟨front ++ before, segment, after, by simp, hblock, by simp [Nat.add_assoc]⟩

/-- A block ends behind its beginning. -/
theorem BlockAt.lt {place : Nat × Nat} (h : BlockAt text place) : place.1 < place.2 := by
  obtain ⟨before, _, after, -, ⟨inner, rfl⟩, rfl⟩ := h
  simp

/-- Block comments that follow one another stand at places that do. -/
theorem HoldsBlocks.exists_places {n : Nat} (h : HoldsBlocks false n text) :
    ∃ places : List (Nat × Nat), (∀ place ∈ places, BlockAt text place) ∧
      places.Pairwise (fun p q => p.2 ≤ q.1) ∧ places.length = n := by
  induction n generalizing text with
  | zero => exact ⟨[], List.forall_mem_nil _, .nil, rfl⟩
  | succ n ih =>
    obtain ⟨before, _, rfl, inner, rest, rfl, hrest⟩ := h
    obtain ⟨places, hblocks, hsorted, hlength⟩ := ih hrest
    have hfirst : IsBlock ('/' :: '*' :: inner ++ ['*', '/']) := ⟨inner, rfl⟩
    generalize hsegment : '/' :: '*' :: inner ++ ['*', '/'] = segment at hfirst
    have htext : before ++ '/' :: '*' :: (inner ++ '*' :: '/' :: rest) =
        before ++ segment ++ rest := by
      simp [← hsegment]
    rw [htext]
    refine ⟨(before.length, before.length + segment.length) :: places.map fun place =>
      ((before ++ segment).length + place.1, (before ++ segment).length + place.2), ?_, ?_, ?_⟩
    · rw [List.forall_mem_cons, List.forall_mem_map]
      refine ⟨⟨before, segment, rest, rfl, hfirst, rfl⟩, ?_⟩
      intro place hplace
      exact (hblocks place hplace).append_left _
    · rw [List.pairwise_cons, List.forall_mem_map, List.pairwise_map]
      refine ⟨fun place _ => by simp, ?_⟩
      exact hsorted.imp fun hle => Nat.add_le_add_left hle _
    · simp [hlength]

/-- Block comments at places that follow one another stand in what is left of the text from any
position before the first of them. -/
theorem holdsBlocks_drop {places : List (Nat × Nat)}
    (hblocks : ∀ place ∈ places, BlockAt text place)
    (hsorted : places.Pairwise fun p q => p.2 ≤ q.1) {start : Nat}
    (hstart : ∀ place ∈ places, start ≤ place.1) :
    HoldsBlocks false places.length (text.drop start) := by
  induction places generalizing start with
  | nil => trivial
  | cons place places ih =>
    rw [List.pairwise_cons] at hsorted
    rw [List.forall_mem_cons] at hblocks hstart
    have hrest := ih hblocks.2 hsorted.2 hsorted.1
    obtain ⟨before, segment, after, htext, ⟨inner, hsegment⟩, rfl⟩ := hblocks.1
    have hbehind : text.drop (before.length + segment.length) = after := by
      rw [htext, ← List.length_append, List.drop_left]
    have hfrom : text.drop start = before.drop start ++ segment ++ after := by
      rw [htext, List.append_assoc, List.drop_append_of_le_length hstart.1, List.append_assoc]
    rw [hbehind] at hrest
    rw [hfrom, hsegment]
    exact ⟨before.drop start, inner ++ '*' :: '/' :: after, by simp, inner, after, rfl, hrest⟩

/-- Block comments that do not overlap follow one another, from the one that begins first to the one
that begins last. -/
theorem DisjointBlocks.holdsBlocks {places : List (Nat × Nat)} (h : DisjointBlocks text places) :
    HoldsBlocks false places.length text := by
  have hperm := List.mergeSort_perm places fun p q => decide (p.1 ≤ q.1)
  have hstarts := @List.pairwise_mergeSort _ (fun p q => decide (p.1 ≤ q.1))
    (fun p q r hpq hqr => by simpa using Nat.le_trans (by simpa using hpq) (by simpa using hqr))
    (fun p q => by simpa using Nat.le_total p.1 q.1) places
  have hdisjoint := hperm.symm.pairwise h.disjoint fun hpq => Or.symm hpq
  generalize places.mergeSort (fun p q => decide (p.1 ≤ q.1)) = sorted at hperm hstarts hdisjoint
  have hblocks : ∀ place ∈ sorted, BlockAt text place := fun place hplace =>
    h.blocks place (hperm.mem_iff.1 hplace)
  have hsorted : sorted.Pairwise fun p q => p.2 ≤ q.1 := by
    refine (hstarts.and hdisjoint).imp_of_mem ?_
    intro p q hp hq hpq
    have hlt := (hblocks q hq).lt
    have hle := of_decide_eq_true hpq.1
    have hapart := hpq.2
    omega
  have hall := holdsBlocks_drop hblocks hsorted fun place _ => Nat.zero_le place.1
  rwa [List.drop_zero, hperm.length_eq] at hall

/-- As many block comments are counted as there can be without overlap. -/
theorem isGreatest_closedBlocks (text : List Char) :
    IsGreatest {n | ∃ places, DisjointBlocks text places ∧ places.length = n}
      (closedBlocks false 0 text) := by
  constructor
  · obtain ⟨places, hblocks, hsorted, hlength⟩ :=
      ((holdsBlocks_iff 0 _).2 (Nat.zero_add _).le).exists_places
    exact ⟨places, ⟨hblocks, hsorted.imp Or.inl⟩, hlength⟩
  · rintro n ⟨places, hplaces, rfl⟩
    have hle := (holdsBlocks_iff 0 _).1 hplaces.holdsBlocks
    rwa [Nat.zero_add] at hle

/-- Two texts that are joined by a line feed have at least the blocks of both. -/
theorem closedBlocks_joined_le (a b : List Char) :
    closedBlocks false 0 a + closedBlocks false 0 b ≤ closedBlocks false 0 (a ++ '\n' :: b) := by
  have ha := (holdsBlocks_iff 0 _).2 (Nat.zero_add (closedBlocks false 0 a)).le
  have hb := (holdsBlocks_iff 0 _).2 (Nat.zero_add (closedBlocks false 0 b)).le
  have hjoined := (holdsBlocks_iff 0 _).1 (ha.append (hb.append_left ['\n']))
  rwa [Nat.zero_add] at hjoined

/-! ## The count -/

/-- Each run of slashes counts by half its length, and block comments count as many as there can be
without overlap. Joining two texts by a line feed adds up their lines and loses no comment. -/
theorem comments_counted (text later : List Char) :
    (∃ most, IsGreatest {n | ∃ places, DisjointBlocks text places ∧ places.length = n} most ∧
        commentCount text = ((slashRuns text).map fun run => run.length / 2).sum + most) ∧
      Text.lineCount (text ++ '\n' :: later) = Text.lineCount text + Text.lineCount later ∧
      commentCount text + commentCount later ≤ commentCount (text ++ '\n' :: later) := by
  refine ⟨⟨_, isGreatest_closedBlocks text, ?_⟩, ?_, ?_⟩
  · rw [commentCount, slashPairs_eq_sum]
  · unfold Text.lineCount
    rw [List.count_append, List.count_cons_self]
    omega
  · have hslashes := slashPairs_add (slashPairs 0 text) 0 later
    have hblocks := closedBlocks_joined_le text later
    unfold commentCount
    rw [slashPairs_joined]
    rw [Nat.add_zero] at hslashes
    omega

/-- A closing mark that overlaps its opening mark, and a slash left over. -/
example : commentCount "/*/ */ ///".toList = 2 ∧ commentCount "/*/ //*/".toList = 2 := by
  decide

end TokenAudit
