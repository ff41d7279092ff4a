import TokenAudit.Pattern.Spelling
import TokenAudit.Proofs.Text.LineEnding

/-!
# Steps that do not tell line endings apart

Steps may take a line feed in runs of white space, and then they take a carriage return in front of
it as well. Where that is so, and nothing else takes either of the two, a text spells the steps
exactly when it does with a carriage return in front of every line feed. A phrase that begins beside
a line feed and ends beside a carriage return never, and whose guards end so as well, is found in
the one text exactly when it is found in the other, and a carriage return at the end of a line makes
no difference to it.
-/

set_option autoImplicit false

namespace TokenAudit

open Text (withReturns withoutReturns)

namespace Step

/-- Whether a text that spells the steps may begin with a character. -/
def mayBegin (c : Char) : List Step → Bool
  | [] => false
  | .one set :: _ => set.has c
  | .many set :: rest => set.has c || mayBegin c rest

/-- Whether the steps end in a single character that is never the given one. -/
def endsApart (c : Char) (steps : List Step) : Bool :=
  match steps.getLast? with
  | some (.one set) => !set.has c
  | _ => false

/-- Whether the steps begin with a run that takes line feeds, and nothing after it does at once. -/
def runsOverLines : List Step → Bool
  | .many set :: rest => set.has '\n' && !mayBegin '\n' rest
  | _ => false

/-- Whether the steps take a line feed exactly as they take one with a carriage return in front. A
single character may be either of the two only where a run of both follows. -/
def toleratesReturns : List Step → Bool
  | [] => true
  | .one set :: rest =>
    (!set.has '\r' && !set.has '\n' || set.has '\r' && set.has '\n' && runsOverLines rest) &&
      toleratesReturns rest
  | .many set :: rest => (set.has '\r' || !set.has '\n') && toleratesReturns rest

end Step

/-- Whether a phrase is found in a text exactly when it is found there with carriage returns. -/
def Phrase.toleratesReturns (p : Phrase) : Bool :=
  Step.toleratesReturns p.body && !Step.mayBegin '\n' p.body && Step.endsApart '\r' p.body &&
    p.guards.all fun guard => Step.toleratesReturns guard && Step.endsApart '\r' guard

namespace Spells

variable {steps : List Step} {text : List Char}

/-- What steps spell begins with a character by which they may begin. -/
theorem mayBegin {c : Char} (h : Spells steps (c :: text)) : Step.mayBegin c steps = true := by
  generalize hall : c :: text = all at h
  induction h with
  | done => cases hall
  | one hd _ _ =>
    cases hall
    exact hd
  | stop _ ih => simp [Step.mayBegin, ih hall]
  | more hd _ _ =>
    cases hall
    simp [Step.mayBegin, hd]

/-- Steps that end apart from a character are spelled by texts that end in another. -/
theorem getLast?_of_endsApart {c : Char} (hsteps : Step.endsApart c steps = true)
    (h : Spells steps text) : ∃ d, text.getLast? = some d ∧ d ≠ c := by
  unfold Step.endsApart at hsteps
  split at hsteps
  next set hlast =>
    obtain ⟨front, rfl⟩ := List.getLast?_eq_some_iff.1 hlast
    obtain ⟨u, v, rfl, -, hv⟩ := append_iff.1 h
    cases hv with
    | @one _ _ d _ hd hrest =>
      cases hrest
      refine ⟨d, by simp, ?_⟩
      rintro rfl
      simp [hd] at hsteps
  next => cases hsteps

/-- Steps that tolerate carriage returns are spelled with them as well. -/
theorem withReturns (hsteps : Step.toleratesReturns steps = true) (h : Spells steps text) :
    Spells steps (withReturns text) := by
  induction h with
  | done => exact .done
  | @one set steps c rest hc _ ih =>
    simp only [Step.toleratesReturns, Bool.and_eq_true] at hsteps
    have hrest := ih hsteps.2
    by_cases hnewline : c = '\n'
    · subst hnewline
      -- the single step takes the carriage return, and the run after it the line feed
      rw [hc] at hsteps
      obtain ⟨⟨hreturn, hruns⟩, -⟩ :
          (set.has '\r' = true ∧ Step.runsOverLines steps = true) ∧ _ := by
        simpa using hsteps
      cases steps with
      | nil => cases hruns
      | cons step steps =>
        cases step with
        | one next => cases hruns
        | many next =>
          have hnext : next.has '\n' = true := by
            simp only [Step.runsOverLines, Bool.and_eq_true] at hruns
            exact hruns.1
          exact .one hreturn (.more hnext hrest)
    · rw [Text.withReturns_cons hnewline]
      exact .one hc hrest
  | stop _ ih =>
    simp only [Step.toleratesReturns, Bool.and_eq_true] at hsteps
    exact .stop (ih hsteps.2)
  | @more set steps c rest hc _ ih =>
    have hrest := ih hsteps
    by_cases hnewline : c = '\n'
    · subst hnewline
      simp only [Step.toleratesReturns, hc, Bool.not_true, Bool.or_false, Bool.and_eq_true]
        at hsteps
      exact .more hsteps.1 (.more hc hrest)
    · rw [Text.withReturns_cons hnewline]
      exact .more hc hrest

/-- Tolerant steps spell a text without its carriage returns too. -/
theorem withoutReturns (hsteps : Step.toleratesReturns steps = true) (h : Spells steps text) :
    Spells steps (withoutReturns text) := by
  induction h with
  | done => exact .done
  | @one set steps c rest hc hspells ih =>
    simp only [Step.toleratesReturns, Bool.and_eq_true] at hsteps
    have hrest := ih hsteps.2
    rw [Text.withoutReturns]
    split
    · next hpair =>
      obtain ⟨rfl, hhead⟩ := hpair
      rw [hc] at hsteps
      obtain ⟨⟨hnewline, hruns⟩, -⟩ :
          (set.has '\n' = true ∧ Step.runsOverLines steps = true) ∧ _ := by
        simpa using hsteps
      obtain ⟨tail, rfl⟩ := List.head?_eq_some_iff.1 hhead
      have htail : Text.withoutReturns ('\n' :: tail) = '\n' :: Text.withoutReturns tail := by
        simp [Text.withoutReturns]
      rw [htail] at hrest ⊢
      -- the line feed was the run's, so the single step can take it and the run goes on
      cases hrest with
      | one => cases hruns
      | stop hlater =>
        simp only [Step.runsOverLines, hlater.mayBegin, Bool.not_true, Bool.and_false] at hruns
        cases hruns
      | more _ hlater => exact .one hnewline hlater
    · exact .one hc hrest
  | stop _ ih =>
    simp only [Step.toleratesReturns, Bool.and_eq_true] at hsteps
    exact .stop (ih hsteps.2)
  | more hc _ ih =>
    rw [Text.withoutReturns]
    split
    · exact ih hsteps
    · exact .more hc (ih hsteps)

/-- They spell a text with carriage returns exactly when they spell it without. -/
theorem withReturns_iff (hsteps : Step.toleratesReturns steps = true) :
    Spells steps (Text.withReturns text) ↔ Spells steps text := by
  constructor
  · intro h
    have hback := h.withoutReturns hsteps
    rwa [Text.withoutReturns_withReturns] at hback
  · exact fun h => h.withReturns hsteps

end Spells

/-- Steps that tolerate carriage returns, and end apart from them, are spelled at the beginning of a
text exactly when they are with carriage returns. -/
theorem startsWith_withReturns {steps : List Step} (hsteps : Step.toleratesReturns steps = true)
    (hend : Step.endsApart '\r' steps = true) (text : List Char) :
    startsWith steps (withReturns text) = startsWith steps text := by
  rw [Bool.eq_iff_iff, startsWith_iff, startsWith_iff]
  constructor
  · rintro ⟨segment, rest, hsplit, hspells⟩
    obtain ⟨d, hd, hne⟩ := hspells.getLast?_of_endsApart hend
    have hcut : segment.getLast? ≠ some '\r' := by simpa [hd] using hne
    obtain ⟨u, v, rfl, rfl, -⟩ := Text.withReturns_eq_append hsplit (.inl hcut)
    exact ⟨u, v, rfl, (Spells.withReturns_iff hsteps).1 hspells⟩
  · rintro ⟨segment, rest, rfl, hspells⟩
    exact ⟨withReturns segment, withReturns rest, by simp, hspells.withReturns hsteps⟩

/-- A carriage return at the end of a text makes no difference to steps that end apart from it. -/
theorem startsWith_append_return {steps : List Step} (hend : Step.endsApart '\r' steps = true)
    (text : List Char) : startsWith steps (text ++ ['\r']) = startsWith steps text := by
  rw [Bool.eq_iff_iff, startsWith_iff, startsWith_iff]
  constructor
  · rintro ⟨segment, rest, hsplit, hspells⟩
    obtain ⟨d, hd, hne⟩ := hspells.getLast?_of_endsApart hend
    rcases List.eq_nil_or_concat rest with rfl | ⟨front, e, rfl⟩
    · exfalso
      rw [List.append_nil] at hsplit
      rw [← hsplit, List.getLast?_append_of_ne_nil _ (by simp)] at hd
      cases hd
      exact hne rfl
    · rw [List.concat_eq_append, ← List.append_assoc] at hsplit
      obtain ⟨rfl, -⟩ := List.append_inj' hsplit rfl
      exact ⟨segment, front, rfl, hspells⟩
  · rintro ⟨segment, rest, rfl, hspells⟩
    exact ⟨segment, rest ++ ['\r'], by simp, hspells⟩

namespace Phrase

variable {p : Phrase}

/-- A phrase tolerates carriage returns when its body and its guards do, and none of them is cut by
one at the end of a line. -/
theorem toleratesReturns_iff : p.toleratesReturns = true ↔
    Step.toleratesReturns p.body = true ∧ Step.mayBegin '\n' p.body = false ∧
      Step.endsApart '\r' p.body = true ∧ ∀ guard ∈ p.guards,
        Step.toleratesReturns guard = true ∧ Step.endsApart '\r' guard = true := by
  simp [toleratesReturns, and_assoc]

/-- A phrase that tolerates carriage returns occurs in a text exactly when it occurs there with a
carriage return in front of every line feed. -/
theorem occursIn_withReturns (hp : p.toleratesReturns = true) (text : List Char) :
    p.occursIn (withReturns text) = p.occursIn text := by
  obtain ⟨hbody, hbegin, hend, hguards⟩ := toleratesReturns_iff.1 hp
  rw [Bool.eq_iff_iff, occursIn_iff, occursIn_iff]
  constructor
  · rintro ⟨before, segment, rest, hsplit, hspells, hunguarded⟩
    obtain ⟨d, hd, hne⟩ := hspells.getLast?_of_endsApart hend
    have hafter : (before ++ segment).getLast? ≠ some '\r' := by simpa [hd] using hne
    obtain ⟨w, r, rfl, hw, rfl⟩ := Text.withReturns_eq_append hsplit (.inl hafter)
    have hhead : segment.head? ≠ some '\n' := by
      intro hnewline
      obtain ⟨tail, rfl⟩ := List.head?_eq_some_iff.1 hnewline
      rw [hspells.mayBegin] at hbegin
      cases hbegin
    obtain ⟨u, v, rfl, rfl, rfl⟩ := Text.withReturns_eq_append hw.symm (.inr hhead)
    refine ⟨u, v, r, rfl, (Spells.withReturns_iff hbody).1 hspells, ?_⟩
    intro guard hguard
    rw [← startsWith_withReturns (hguards guard hguard).1 (hguards guard hguard).2]
    exact hunguarded guard hguard
  · rintro ⟨before, segment, rest, rfl, hspells, hunguarded⟩
    refine ⟨withReturns before, withReturns segment, withReturns rest, by simp, ?_, ?_⟩
    · exact hspells.withReturns hbody
    · intro guard hguard
      rw [startsWith_withReturns (hguards guard hguard).1 (hguards guard hguard).2]
      exact hunguarded guard hguard

/-- A carriage return at the end makes no difference to such a phrase. -/
theorem occursIn_append_return (hp : p.toleratesReturns = true) (text : List Char) :
    p.occursIn (text ++ ['\r']) = p.occursIn text := by
  obtain ⟨-, -, hend, hguards⟩ := toleratesReturns_iff.1 hp
  rw [Bool.eq_iff_iff, occursIn_iff, occursIn_iff]
  constructor
  · rintro ⟨before, segment, rest, hsplit, hspells, hunguarded⟩
    obtain ⟨d, hd, hne⟩ := hspells.getLast?_of_endsApart hend
    rcases List.eq_nil_or_concat rest with rfl | ⟨front, e, rfl⟩
    · exfalso
      have hlast : (before ++ segment).getLast? = some d := by simp [hd]
      rw [List.append_nil] at hsplit
      rw [← hsplit, List.getLast?_append_of_ne_nil _ (by simp)] at hlast
      cases hlast
      exact hne rfl
    · rw [List.concat_eq_append, ← List.append_assoc] at hsplit
      obtain ⟨rfl, he⟩ := List.append_inj' hsplit rfl
      cases he
      refine ⟨before, segment, front, rfl, hspells, ?_⟩
      intro guard hguard
      have h := hunguarded guard hguard
      rwa [List.concat_eq_append, startsWith_append_return (hguards guard hguard).2] at h
  · rintro ⟨before, segment, rest, rfl, hspells, hunguarded⟩
    refine ⟨before, segment, rest ++ ['\r'], by simp, hspells, ?_⟩
    intro guard hguard
    rw [startsWith_append_return (hguards guard hguard).2]
    exact hunguarded guard hguard

end Phrase

namespace Pattern

variable {ps : Pattern}

/-- A tolerant pattern occurs in a text with carriage returns exactly when it does so without. -/
theorem occursIn_withReturns (hps : ∀ p ∈ ps, p.toleratesReturns = true) (text : List Char) :
    ps.occursIn (withReturns text) = ps.occursIn text :=
  occursIn_congr fun p hp => p.occursIn_withReturns (hps p hp) text

/-- A carriage return at the end makes no difference to such a pattern. -/
theorem occursIn_append_return (hps : ∀ p ∈ ps, p.toleratesReturns = true) (text : List Char) :
    ps.occursIn (text ++ ['\r']) = ps.occursIn text :=
  occursIn_congr fun p hp => p.occursIn_append_return (hps p hp) text

end Pattern

end TokenAudit
