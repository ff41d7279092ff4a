import Mathlib.Data.List.Forall2

/-!
# Computations that may fail

How a result that was reached, or a fault, is traced back through the parts of a computation.
-/

set_option autoImplicit false

namespace TokenAudit

variable {ε ε' α β : Type}

/-- A sequence reaches a result exactly when its first part reaches one from which the second goes
on to it. -/
theorem bind_eq_ok_iff {x : Except ε α} {f : α → Except ε β} {b : β} :
    x >>= f = .ok b ↔ ∃ a, x = .ok a ∧ f a = .ok b := by
  cases x with
  | error e => simp [bind, Except.bind]
  | ok a => simp [bind, Except.bind]

/-- A sequence fails exactly when its first part fails, or the second does from what the first
reaches. -/
theorem bind_eq_error_iff {x : Except ε α} {f : α → Except ε β} {e : ε} :
    x >>= f = .error e ↔ x = .error e ∨ ∃ a, x = .ok a ∧ f a = .error e := by
  cases x with
  | error e' => simp [bind, Except.bind]
  | ok a => simp [bind, Except.bind]

/-- A mapped computation reaches the images of the results that the computation reaches. -/
theorem map_eq_ok_iff {x : Except ε α} {f : α → β} {b : β} :
    x.map f = .ok b ↔ ∃ a, x = .ok a ∧ f a = b := by
  cases x with
  | error e => simp [Except.map]
  | ok a => simp [Except.map]

/-- Mapping results changes no fault. -/
theorem map_eq_error_iff {x : Except ε α} {f : α → β} {e : ε} :
    x.map f = .error e ↔ x = .error e := by
  cases x with
  | error e' => simp [Except.map]
  | ok a => simp [Except.map]

/-- A computation that is mapped twice is mapped by both functions in turn. -/
theorem map_map {γ : Type} (f : α → β) (g : β → γ) (x : Except ε α) :
    (x.map f).map g = x.map fun a => g (f a) := by
  cases x with
  | error e => rfl
  | ok a => rfl

/-- Renaming faults gives the renamed faults. -/
theorem mapError_eq_error_iff {x : Except ε α} {f : ε → ε'} {e' : ε'} :
    x.mapError f = .error e' ↔ ∃ e, x = .error e ∧ f e = e' := by
  cases x with
  | error e => simp [Except.mapError]
  | ok a => simp [Except.mapError]

/-- Renaming faults changes no result. -/
theorem mapError_eq_ok_iff {x : Except ε α} {f : ε → ε'} {a : α} :
    x.mapError f = .ok a ↔ x = .ok a := by
  cases x with
  | error e =>
    constructor
    · intro h
      cases h
    · intro h
      cases h
  | ok b =>
    constructor
    · intro h
      cases h
      rfl
    · intro h
      cases h
      rfl

/-- A computation over a list reaches the results that are reached for its members, one by one. -/
theorem mapM_eq_ok_iff {f : α → Except ε β} {xs : List α} {ys : List β} :
    xs.mapM f = .ok ys ↔ List.Forall₂ (fun x y => f x = .ok y) xs ys := by
  induction xs generalizing ys with
  | nil =>
    rw [List.mapM_nil, List.forall₂_nil_left_iff]
    constructor
    · intro h
      cases h
      rfl
    · rintro rfl
      rfl
  | cons x xs ih =>
    rw [List.mapM_cons, bind_eq_ok_iff, List.forall₂_cons_left_iff]
    constructor
    · rintro ⟨y, hy, h⟩
      obtain ⟨rest, hrest, h⟩ := bind_eq_ok_iff.1 h
      cases h
      exact ⟨y, rest, hy, ih.1 hrest, rfl⟩
    · rintro ⟨y, rest, hy, hrest, rfl⟩
      exact ⟨y, hy, bind_eq_ok_iff.2 ⟨rest, ih.2 hrest, rfl⟩⟩

/-- A computation over a list that fails does so by the fault of a member. -/
theorem exists_of_mapM_eq_error {f : α → Except ε β} {xs : List α} {e : ε}
    (h : xs.mapM f = .error e) : ∃ x ∈ xs, f x = .error e := by
  induction xs with
  | nil => cases h
  | cons x xs ih =>
    rw [List.mapM_cons] at h
    cases hx : f x with
    | error fault =>
      rw [hx] at h
      cases h
      exact ⟨x, List.mem_cons_self, hx⟩
    | ok y =>
      cases hrest : xs.mapM f with
      | error fault =>
        rw [hx, hrest] at h
        cases h
        obtain ⟨member, hmember, hfault⟩ := ih hrest
        exact ⟨member, List.mem_cons_of_mem x hmember, hfault⟩
      | ok ys =>
        rw [hx, hrest] at h
        cases h

/-- A result of a computation over a list is that of a member. -/
theorem exists_of_mem_mapM {f : α → Except ε β} {xs : List α} {ys : List β} {y : β}
    (h : xs.mapM f = .ok ys) (hy : y ∈ ys) : ∃ x ∈ xs, f x = .ok y := by
  have hall := mapM_eq_ok_iff.1 h
  clear h
  induction hall with
  | nil => cases hy
  | @cons x z xs ys hfirst _ ih =>
    rcases List.mem_cons.1 hy with rfl | hlater
    · exact ⟨x, List.mem_cons_self, hfirst⟩
    · obtain ⟨member, hmember, hresult⟩ := ih hlater
      exact ⟨member, List.mem_cons_of_mem x hmember, hresult⟩

/-- The results of a computation over a list are those of its members. -/
theorem mem_iff_of_mapM {f : α → Except ε β} {xs : List α} {ys : List β} {y : β}
    (h : xs.mapM f = .ok ys) : y ∈ ys ↔ ∃ x ∈ xs, f x = .ok y := by
  constructor
  · exact exists_of_mem_mapM h
  · rintro ⟨x, hx, hy⟩
    obtain ⟨i, hi, rfl⟩ := List.mem_iff_getElem.1 hx
    have hall := List.forall₂_iff_get.1 (mapM_eq_ok_iff.1 h)
    have hi' : i < ys.length := by
      rw [← hall.1]
      exact hi
    have hresult := hall.2 i hi hi'
    rw [List.get_eq_getElem, List.get_eq_getElem] at hresult
    cases hy.symm.trans hresult
    exact List.getElem_mem hi'

/-- A computation over a list succeeds exactly when it succeeds for each of the members. -/
theorem exists_mapM_eq_ok_iff {f : α → Except ε β} {xs : List α} :
    (∃ ys, xs.mapM f = .ok ys) ↔ ∀ x ∈ xs, ∃ y, f x = .ok y := by
  constructor
  · rintro ⟨ys, h⟩ x hx
    obtain ⟨i, hi, rfl⟩ := List.mem_iff_getElem.1 hx
    have hall := List.forall₂_iff_get.1 (mapM_eq_ok_iff.1 h)
    exact ⟨_, hall.2 i hi (by rw [← hall.1]; exact hi)⟩
  · intro h
    cases hys : xs.mapM f with
    | ok ys => exact ⟨ys, rfl⟩
    | error e =>
      obtain ⟨x, hx, hfault⟩ := exists_of_mapM_eq_error hys
      obtain ⟨y, hy⟩ := h x hx
      rw [hfault] at hy
      cases hy

/-- Two computations over a list that agree, member by member, on what is kept of a result agree on
what is kept of all. -/
theorem map_filterMap_mapM {γ : Type} {f g : α → Except ε β} {keep : β → Option γ}
    (h : ∀ x, (f x).map keep = (g x).map keep) (xs : List α) :
    (xs.mapM f).map (List.filterMap keep) = (xs.mapM g).map (List.filterMap keep) := by
  have hstep : ∀ (f : α → Except ε β) (x : α) (xs : List α),
      ((x :: xs).mapM f).map (List.filterMap keep) =
        ((f x).map keep).bind fun kept =>
          ((xs.mapM f).map (List.filterMap keep)).map (kept.toList ++ ·) := by
    intro f x xs
    rw [List.mapM_cons]
    cases f x with
    | error e => rfl
    | ok y =>
      cases xs.mapM f with
      | error e => rfl
      | ok ys =>
        cases hkeep : keep y with
        | none => simp [bind, Except.bind, Except.map, pure, Except.pure, hkeep]
        | some kept => simp [bind, Except.bind, Except.map, pure, Except.pure, hkeep]
  induction xs with
  | nil => rfl
  | cons x xs ih => rw [hstep f, hstep g, h x, ih]

end TokenAudit
