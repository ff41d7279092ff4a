import Mathlib.Data.List.Nodup
import TokenAudit.Proofs.Outcome
import TokenAudit.Scan

/-!
# What a scan finds

A scan that reaches its end has the findings of its rules, each rule for itself, in the order of the
catalog: a rule that hits the text contributes one finding, with the first line that it hits alone.
As the keys of a catalog are distinct, the key of a finding tells its rule.
-/

set_option autoImplicit false

namespace TokenAudit

/-- The finding that a rule contributes to a scan, if it hits. -/
def Rule.found? (rule : Rule) (stamp : Int) (text : List Char) : Option Finding :=
  match rule.hit? stamp text with
  | .ok (some (finding, _)) => some finding
  | _ => none

/-- A rule that hits contributes its finding, with the first line that it hits alone. -/
theorem Rule.found?_eq_some_iff {rule : Rule} {stamp : Int} {text : List Char} {f : Finding} :
    rule.found? stamp text = some f ↔
      rule.probe.search text = .ok true ∧
        ∃ line, rule.probe.firstLine text = .ok line ∧ f = rule.finding stamp line := by
  unfold found? hit?
  cases hsearch : rule.probe.search text with
  | error e => simp [bind, Except.bind]
  | ok hits =>
    cases hits with
    | false => simp [bind, Except.bind, pure, Except.pure]
    | true =>
      cases hline : rule.probe.firstLine text with
      | error e => simp [bind, Except.bind]
      | ok line =>
        constructor
        · intro h
          exact ⟨rfl, line, rfl, (Option.some.inj h).symm⟩
        · rintro ⟨-, line', hsame, rfl⟩
          cases hsame
          rfl

/-- A sweep that reaches its end finds what its rules find, in their order. -/
theorem sweep_findings {stamp : Int} {text : List Char} {rules : List Rule} {fs : List Finding}
    (h : (sweep stamp text rules).findings = .ok fs) :
    fs = rules.filterMap fun rule => rule.found? stamp text := by
  induction rules generalizing fs with
  | nil =>
    cases h
    rfl
  | cons rule rules ih =>
    unfold sweep at h
    rw [List.filterMap_cons]
    unfold Rule.found?
    cases hhit : rule.hit? stamp text with
    | error b =>
      rw [hhit] at h
      cases h
    | ok hit =>
      rw [hhit] at h
      cases hit with
      | none => exact ih h
      | some found =>
        obtain ⟨rest, hrest, rfl⟩ := map_eq_ok_iff.1 h
        rw [ih hrest]
        rfl

/-- The findings of a scan that reaches its end: none in an empty text, and else what the rules find
at the time of the scan. -/
theorem Catalog.scan_findings {catalog : Catalog} {now : Binary64} {text : List Char}
    {fs : List Finding} (h : (catalog.scan now text).findings = .ok fs) :
    (text = [] ∧ fs = []) ∨
      ∃ stamp, Clock.milliseconds now = .ok stamp ∧
        fs = catalog.rules.filterMap fun rule => rule.found? stamp text := by
  unfold Catalog.scan at h
  by_cases hempty : text.isEmpty = true
  · rw [if_pos hempty] at h
    cases h
    exact .inl ⟨List.isEmpty_iff.1 hempty, rfl⟩
  · rw [if_neg hempty] at h
    right
    cases hclock : Clock.milliseconds now with
    | error f =>
      rw [hclock] at h
      cases h
    | ok stamp =>
      rw [hclock] at h
      exact ⟨stamp, rfl, sweep_findings h⟩

/-- Two texts that every rule hits alike are swept alike. -/
theorem sweep_congr {stamp : Int} {a b : List Char} {rules : List Rule}
    (h : ∀ rule ∈ rules, rule.hit? stamp b = rule.hit? stamp a) :
    sweep stamp b rules = sweep stamp a rules := by
  induction rules with
  | nil => rfl
  | cons rule rules ih =>
    have hrest := ih fun r hr => h r (List.mem_cons_of_mem _ hr)
    unfold sweep
    rw [h rule List.mem_cons_self, hrest]

/-- Two texts that every rule hits alike, whatever the time, are scanned alike, unless one of them
alone is empty. -/
theorem Catalog.scan_congr {catalog : Catalog} {a b : List Char} (hempty : b = [] ↔ a = [])
    (h : ∀ rule ∈ catalog.rules, ∀ stamp, rule.hit? stamp b = rule.hit? stamp a)
    (now : Binary64) : catalog.scan now b = catalog.scan now a := by
  have hisEmpty : b.isEmpty = a.isEmpty := by
    rw [Bool.eq_iff_iff, List.isEmpty_iff, List.isEmpty_iff, hempty]
  unfold Catalog.scan
  rw [hisEmpty]
  congr 1
  cases Clock.milliseconds now with
  | error f => rfl
  | ok stamp => exact sweep_congr fun rule hrule => h rule hrule stamp

/-- No key of a list is repeated exactly when the keys are distinct and none was seen before. -/
theorem firstRepeated?_eq_none_iff {seen keys : List String} :
    firstRepeated? seen keys = none ↔ keys.Nodup ∧ ∀ key ∈ keys, key ∉ seen := by
  induction keys generalizing seen with
  | nil => simp [firstRepeated?]
  | cons key keys ih =>
    unfold firstRepeated?
    by_cases hseen : key ∈ seen
    · simp [hseen]
    · have hcontains : seen.contains key = false := by simpa using hseen
      simp only [hcontains, Bool.false_eq_true, if_false, ih, List.nodup_cons, List.mem_cons,
        forall_eq_or_imp, not_or]
      constructor
      · rintro ⟨hnodup, hnew⟩
        exact ⟨⟨fun hmem => (hnew key hmem).1 rfl, hnodup⟩, hseen, fun k hk => (hnew k hk).2⟩
      · rintro ⟨⟨hnot, hnodup⟩, -, hnew⟩
        exact ⟨hnodup, fun k hk => ⟨fun heq => hnot (heq ▸ hk), hnew k hk⟩⟩

/-- The key of a rule tells it from all others of its catalog. -/
theorem Catalog.eq_of_key_eq {catalog : Catalog} {rule rule' : Rule} (h : rule ∈ catalog.rules)
    (h' : rule' ∈ catalog.rules) (hkey : rule.key = rule'.key) : rule = rule' := by
  have hnodup := (firstRepeated?_eq_none_iff.1 catalog.distinct).1
  exact List.inj_on_of_nodup_map hnodup h h' hkey

/-- A finding under the key of a rule of the catalog is that rule's. -/
theorem Catalog.found_of_mem_scan {catalog : Catalog} {now : Binary64} {text : List Char}
    {fs : List Finding} {f : Finding} {rule : Rule}
    (h : (catalog.scan now text).findings = .ok fs) (hf : f ∈ fs) (hrule : rule ∈ catalog.rules)
    (hkey : f.ruleKey = rule.key) :
    ∃ stamp line, rule.probe.search text = .ok true ∧ rule.probe.firstLine text = .ok line ∧
      f = rule.finding stamp line := by
  rcases Catalog.scan_findings h with ⟨-, rfl⟩ | ⟨stamp, -, rfl⟩
  · cases hf
  · obtain ⟨rule', hrule', hfound⟩ := List.mem_filterMap.1 hf
    obtain ⟨hsearch, line, hline, rfl⟩ := Rule.found?_eq_some_iff.1 hfound
    have hsame : rule' = rule := catalog.eq_of_key_eq hrule' hrule hkey
    subst hsame
    exact ⟨stamp, line, hsearch, hline, rfl⟩

/-- The first line of a probe is the first of the lines that it hits alone. -/
theorem Probe.firstLineFrom_eq_some_iff {probe : Probe} {number n : Nat}
    {ls : List (List Char)} :
    probe.firstLineFrom number ls = .ok (some n) ↔
      ∃ i line, n = number + i ∧ ls[i]? = some line ∧ probe.search line = .ok true ∧
        ∀ earlier ∈ ls.take i, probe.search earlier = .ok false := by
  induction ls generalizing number with
  | nil => simp [firstLineFrom]
  | cons line ls ih =>
    unfold firstLineFrom
    constructor
    · intro h
      cases hsearch : probe.search line with
      | error e =>
        rw [hsearch] at h
        cases h
      | ok hits =>
        rw [hsearch] at h
        cases hits with
        | true =>
          cases h
          exact ⟨0, line, rfl, rfl, hsearch, by simp⟩
        | false =>
          obtain ⟨i, hit, rfl, hi, hhit, hearlier⟩ := ih.1 h
          refine ⟨i + 1, hit, by omega, by simpa using hi, hhit, ?_⟩
          intro earlier hmem
          rcases List.mem_cons.1 (List.take_succ_cons ▸ hmem) with rfl | hmem
          · exact hsearch
          · exact hearlier earlier hmem
    · rintro ⟨i, hit, rfl, hi, hhit, hearlier⟩
      cases i with
      | zero =>
        cases hi
        rw [hhit]
        rfl
      | succ i =>
        have hsearch := hearlier line (by simp)
        rw [hsearch]
        refine ih.2 ⟨i, hit, by omega, by simpa using hi, hhit, ?_⟩
        intro earlier hmem
        exact hearlier earlier (by simp [hmem])

/-- There is no first line exactly when the probe misses every line. -/
theorem Probe.firstLineFrom_eq_none_iff {probe : Probe} {number : Nat} {ls : List (List Char)} :
    probe.firstLineFrom number ls = .ok none ↔ ∀ line ∈ ls, probe.search line = .ok false := by
  induction ls generalizing number with
  | nil => simp [firstLineFrom]
  | cons line ls ih =>
    unfold firstLineFrom
    rw [List.forall_mem_cons]
    cases hsearch : probe.search line with
    | error e => simp
    | ok hits =>
      cases hits with
      | true => simp
      | false => simp [ih]

/-- The search for the first line ends, with a line or without one, exactly when it breaks down on
no line before which it finds nothing. -/
theorem Probe.exists_firstLineFrom_iff {probe : Probe} {number : Nat} {ls : List (List Char)} :
    (∃ line, probe.firstLineFrom number ls = .ok line) ↔
      ∀ before line after, ls = before ++ line :: after →
        (∀ earlier ∈ before, probe.search earlier = .ok false) →
          ∃ found, probe.search line = .ok found := by
  induction ls generalizing number with
  | nil => simp [firstLineFrom]
  | cons first ls ih =>
    unfold firstLineFrom
    cases hsearch : probe.search first with
    | error e =>
      constructor
      · rintro ⟨line, h⟩
        cases h
      · intro h
        obtain ⟨found, hfound⟩ := h [] first ls rfl (List.forall_mem_nil _)
        rw [hsearch] at hfound
        cases hfound
    | ok hits =>
      cases hits with
      | true =>
        refine ⟨fun _ before line after hsplit hbefore => ?_, fun _ => ⟨some number, rfl⟩⟩
        cases before with
        | nil =>
          obtain ⟨rfl, -⟩ := List.cons_eq_cons.1 hsplit
          exact ⟨true, hsearch⟩
        | cons k before =>
          -- the search has ended before that line
          obtain ⟨rfl, -⟩ := List.cons_eq_cons.1 hsplit
          have hmiss := hbefore first List.mem_cons_self
          rw [hsearch] at hmiss
          cases hmiss
      | false =>
        rw [ih]
        constructor
        · intro h before line after hsplit hbefore
          cases before with
          | nil =>
            obtain ⟨rfl, -⟩ := List.cons_eq_cons.1 hsplit
            exact ⟨false, hsearch⟩
          | cons k before =>
            obtain ⟨-, hsplit⟩ := List.cons_eq_cons.1 hsplit
            exact h before line after hsplit fun l hl => hbefore l (List.mem_cons_of_mem _ hl)
        · intro h before line after hsplit hbefore
          refine h (first :: before) line after (by rw [hsplit]; rfl) ?_
          rw [List.forall_mem_cons]
          exact ⟨hsearch, hbefore⟩

end TokenAudit
