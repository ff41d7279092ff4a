import Mathlib.Data.List.TakeWhile
import TokenAudit.FileTree.Path
import TokenAudit.Proofs.Text.LinePosition

/-!
# Names, paths and extensions

A path that is put together from a folder and names has these names last, so that different names
give different paths, and grows with every name. The extension of a name is what stands from its
last dot on, unless nothing but dots stands before.
-/

set_option autoImplicit false

namespace TokenAudit.Path

/-- A text that can be the name of an entry. -/
def IsName (name : String) : Prop :=
  name ≠ "" ∧ '/' ∉ name.toList

instance (name : String) : Decidable (IsName name) :=
  inferInstanceAs (Decidable (_ ∧ _))

/-- The path of the entry that names lead to from a folder. -/
def joinAll (folder : String) (names : List String) : String :=
  names.foldl join folder

/-- The extension of a name begins at the last dot, when that dot stands after something else than
dots; a name without such a dot has the empty extension. -/
inductive HasExtension (name : List Char) : List Char → Prop
  | dotted {stem suffix : List Char} (hname : name = stem ++ '.' :: suffix) (hlast : '.' ∉ suffix)
      (hstem : ∃ c ∈ stem, c ≠ '.') : HasExtension name ('.' :: suffix)
  | undotted {dots rest : List Char} (hname : name = dots ++ rest) (hdots : ∀ c ∈ dots, c = '.')
      (hrest : '.' ∉ rest) : HasExtension name []

/-! ## Extensions -/

/-- A text without dots has none when it is read from its end. -/
theorem bne_dot_of_mem_reverse {text : List Char} (h : '.' ∉ text) :
    ∀ c ∈ text.reverse, (c != '.') = true := by
  intro c hc
  rw [bne_iff_ne]
  rintro rfl
  exact h (List.mem_reverse.1 hc)

/-- A name without dots has no extension. -/
theorem extension_of_not_mem {name : List Char} (h : '.' ∉ name) : extension name = [] := by
  have hall : name.reverse.takeWhile (· != '.') = name.reverse :=
    List.takeWhile_eq_self_iff.2 (bne_dot_of_mem_reverse h)
  have hdrop : name.reverse.drop name.reverse.length = [] := List.drop_length
  unfold extension
  simp only [hall, hdrop]

/-- The extension begins at the last dot, unless there are only dots before. -/
theorem extension_append_dot {stem suffix : List Char} (h : '.' ∉ suffix) :
    extension (stem ++ '.' :: suffix) = if stem.all (· == '.') then [] else '.' :: suffix := by
  have htail : (stem ++ '.' :: suffix).reverse.takeWhile (· != '.') = suffix.reverse := by
    rw [List.reverse_append, List.reverse_cons, List.append_assoc,
      List.takeWhile_append_of_pos (bne_dot_of_mem_reverse h)]
    simp
  have hdrop : (stem ++ '.' :: suffix).reverse.drop suffix.reverse.length =
      '.' :: stem.reverse := by
    rw [List.reverse_append, List.reverse_cons, List.append_assoc, List.drop_left]
    rfl
  unfold extension
  simp only [htail, hdrop, List.all_reverse, List.reverse_reverse]

/-- The extension that is computed is the one a name has. -/
theorem hasExtension_iff {name ext : List Char} : HasExtension name ext ↔ extension name = ext := by
  constructor
  · intro h
    cases h with
    | dotted hname hlast hstem =>
      rw [hname, extension_append_dot hlast, if_neg]
      simpa using hstem
    | @undotted dots rest hname hdots hrest =>
      rcases List.eq_nil_or_concat dots with rfl | ⟨front, c, rfl⟩
      · rw [hname]
        exact extension_of_not_mem hrest
      · have hc : c = '.' := hdots c (by simp)
        rw [hname, hc, List.concat_eq_append, List.append_assoc, List.singleton_append,
          extension_append_dot hrest, if_pos]
        rw [List.all_eq_true]
        intro d hd
        simp [hdots d (by simp [hd])]
  · rintro rfl
    by_cases hmem : '.' ∈ name
    · obtain ⟨before, after, hsplit, hbefore⟩ :=
        List.eq_append_cons_of_mem (List.mem_reverse.2 hmem)
      have hname : name = after.reverse ++ '.' :: before.reverse := by
        rw [← List.reverse_reverse name, hsplit]
        simp
      have hlast : '.' ∉ before.reverse := fun h => hbefore (List.mem_reverse.1 h)
      rw [hname, extension_append_dot hlast]
      split
      · next hall =>
        have hdots : ∀ c ∈ after.reverse, c = '.' := by simpa using hall
        have hfront : after.reverse ++ '.' :: before.reverse =
            (after.reverse ++ ['.']) ++ before.reverse := by simp
        refine .undotted hfront ?_ hlast
        intro c hc
        rcases List.mem_append.1 hc with hc | hc
        · exact hdots c hc
        · exact List.mem_singleton.1 hc
      · next hall => exact .dotted rfl hlast (by simpa using hall)
    · rw [extension_of_not_mem hmem]
      exact .undotted (List.nil_append name).symm (by simp) hmem

/-! ## The names of a path -/

/-- A path joined by a slash has the names of both parts. -/
theorem names_append_slash (path later : String) :
    names (path ++ "/" ++ later) = names path ++ names later := by
  simp [names, Text.cut_append_cons]

/-- A name is its only name. -/
theorem names_of_isName {name : String} (h : IsName name) : names name = [name] := by
  simp [names, Text.cut_eq_singleton h.2]

/-- Of the names of a path only empty ones are none that an entry can have. -/
theorem isName_of_mem_names {path name : String} (h : name ∈ names path) (hne : name ≠ "") :
    IsName name := by
  obtain ⟨piece, hpiece, rfl⟩ := List.mem_map.1 h
  refine ⟨hne, ?_⟩
  rw [String.toList_ofList]
  exact Text.not_mem_of_mem_cut hpiece

/-- The names of a path in a folder end in the name that is joined. -/
theorem exists_names_join (folder : String) :
    ∃ base, ∀ name, IsName name → names (join folder name) = base ++ [name] := by
  by_cases hempty : folder = ""
  · refine ⟨[], ?_⟩
    intro name hname
    simp [hempty, join, names_of_isName hname]
  · by_cases hslash : endsInSlash folder = true
    · obtain ⟨front, hfront⟩ := List.getLast?_eq_some_iff.1 (of_decide_eq_true hslash)
      have hfolder : folder = String.ofList front ++ "/" := by
        rw [← String.toList_inj, hfront]
        simp
      refine ⟨names (String.ofList front), ?_⟩
      intro name hname
      have hjoin : join folder name = String.ofList front ++ "/" ++ name := by
        rw [← hfolder]
        simp [join, hslash]
      rw [hjoin, names_append_slash, names_of_isName hname]
    · refine ⟨names folder, ?_⟩
      intro name hname
      have hjoin : join folder name = folder ++ "/" ++ name := by
        simp [join, hempty, hslash]
      rw [hjoin, names_append_slash, names_of_isName hname]

/-- A path that ends in a name is joined to a further name by a slash. -/
theorem join_join (folder : String) {name : String} (hname : IsName name) (next : String) :
    join (join folder name) next = join folder name ++ "/" ++ next := by
  obtain ⟨front, hfront⟩ : ∃ front, join folder name = front ++ name := by
    unfold join
    split
    · exact ⟨folder, rfl⟩
    · exact ⟨folder ++ "/", rfl⟩
  obtain ⟨start, last, hlast⟩ : ∃ start last, name.toList = start ++ [last] := by
    obtain hnil | ⟨start, last, hconcat⟩ := List.eq_nil_or_concat name.toList
    · exact absurd (String.toList_eq_nil_iff.1 hnil) hname.1
    · exact ⟨start, last, by rw [hconcat, List.concat_eq_append]⟩
  have hslash : last ≠ '/' := by
    rintro rfl
    apply hname.2
    simp [hlast]
  have hend : endsInSlash (front ++ name) = false := by
    simp [endsInSlash, hlast, hslash]
  have hempty : (front ++ name).isEmpty = false := by
    simp [hname.1]
  rw [hfront]
  generalize front ++ name = path at hend hempty
  simp [join, hend, hempty]

/-- Joining one name first changes nothing of the later ones. -/
theorem names_joinAll_join (folder : String) {name : String} {rest : List String}
    (hname : IsName name) (hrest : ∀ n ∈ rest, IsName n) :
    names (joinAll (join folder name) rest) = names (join folder name) ++ rest := by
  induction rest generalizing folder name with
  | nil => simp [joinAll]
  | cons next rest ih =>
    have hnext : IsName next := hrest next List.mem_cons_self
    have hlater : ∀ n ∈ rest, IsName n := fun n hn => hrest n (List.mem_cons_of_mem next hn)
    calc names (joinAll (join folder name) (next :: rest))
        = names (join (join folder name) next) ++ rest := ih (join folder name) hnext hlater
      _ = names (join folder name) ++ next :: rest := by
        rw [join_join folder hname, names_append_slash, names_of_isName hnext,
          List.append_assoc, List.singleton_append]

/-- The names of a path in a folder end in the names that are joined. -/
theorem exists_names_joinAll (folder : String) : ∃ base, ∀ ns : List String, ns ≠ [] →
    (∀ n ∈ ns, IsName n) → names (joinAll folder ns) = base ++ ns := by
  obtain ⟨base, hbase⟩ := exists_names_join folder
  refine ⟨base, ?_⟩
  intro ns hne hns
  cases ns with
  | nil => exact absurd rfl hne
  | cons name rest =>
    have hname : IsName name := hns name List.mem_cons_self
    have hrest : ∀ n ∈ rest, IsName n := fun n hn => hns n (List.mem_cons_of_mem name hn)
    calc names (joinAll folder (name :: rest))
        = names (join folder name) ++ rest := names_joinAll_join folder hname hrest
      _ = base ++ name :: rest := by rw [hbase name hname, List.append_assoc,
        List.singleton_append]

/-- Different names lead to different paths from a folder. -/
theorem joinAll_injective {folder : String} {first second : List String}
    (hne : first ≠ []) (hfirst : ∀ n ∈ first, IsName n)
    (hne' : second ≠ []) (hsecond : ∀ n ∈ second, IsName n)
    (h : joinAll folder first = joinAll folder second) : first = second := by
  obtain ⟨base, hbase⟩ := exists_names_joinAll folder
  have hnames : base ++ first = base ++ second := by
    rw [← hbase first hne hfirst, ← hbase second hne' hsecond, h]
  exact List.append_cancel_left hnames

/-! ## The size of a path -/

/-- A joined path is at least as long as its parts together. -/
theorem size_add_size_le_size_join (folder name : String) :
    folder.utf8ByteSize + name.utf8ByteSize ≤ (join folder name).utf8ByteSize := by
  unfold join
  split
  · rw [String.utf8ByteSize_append]
  · rw [String.utf8ByteSize_append, String.utf8ByteSize_append]
    omega

/-- It is at least as long as the path it begins with. -/
theorem size_le_size_joinAll (folder : String) (names : List String) :
    folder.utf8ByteSize ≤ (joinAll folder names).utf8ByteSize := by
  induction names generalizing folder with
  | nil => exact Nat.le_refl _
  | cons name names ih =>
    have hjoin := size_add_size_le_size_join folder name
    have hrest : (join folder name).utf8ByteSize ≤ (joinAll folder (name :: names)).utf8ByteSize :=
      ih (join folder name)
    omega

end TokenAudit.Path
