import TokenAudit.Proofs.Document.Joined
import TokenAudit.Proofs.Signal.EntryPaths
import TokenAudit.Proofs.Signal.ReasonTrail

/-!
# The texts of reasons

A reason is a warning of the bundle, or it has the text of a percentage between words of its own. So
where the strings of a bundle are joined, those of its reasons are.
-/

set_option autoImplicit false

namespace TokenAudit

/-! ## What is found in a value -/

/-- The values of a joined dictionary are joined. -/
theorem Datum.IsJoined.of_lookup? {entries : List (String × Datum)} {key : String} {d : Datum}
    (hentries : (Datum.dict entries).IsJoined) (h : Datum.lookup? key entries = some d) :
    d.IsJoined := by
  cases hentries with
  | dict hall => exact hall _ (Datum.mem_of_lookup? h)

/-- So are the values of its fields. -/
theorem isJoined_of_dictionarySource {entries : List (String × Datum)} {field : SignalField}
    {f : Found} (hentries : (Datum.dict entries).IsJoined)
    (h : dictionarySource entries field = some f) : f.value.IsJoined := by
  rcases dictionarySource_eq_some_iff.1 h with ⟨hwire, -⟩ | ⟨-, hplain, -⟩
  · exact hentries.of_lookup? hwire
  · exact hentries.of_lookup? hplain

/-- So is a text that is a value. -/
theorem Datum.IsJoined.of_text {content : RawText} (h : (Datum.text content).IsJoined) :
    content.IsJoined := by
  cases h with
  | text hcontent => exact hcontent

/-- A percentage is shown by the text that it was given as, or by digits. -/
theorem Found.isJoined_shown {f : Found} {field : SignalField} {p : Percentage}
    (hvalue : f.value.IsJoined) (h : f.percentage field = .ok p) : p.shown.IsJoined := by
  by_cases htext : ∃ content, f.value = .text content
  · obtain ⟨content, hcontent⟩ := htext
    rw [(Found.percentage_of_text hcontent h).1]
    rw [hcontent] at hvalue
    exact hvalue.of_text
  · unfold Found.percentage at h
    split at h
    next content hcontent => exact absurd ⟨content, hcontent⟩ htext
    next =>
      split at h
      next => cases h
      next x hamount =>
        split at h
        next =>
          cases h
          exact RawText.isJoined_ofString _
        next => cases h

/-- Warnings are joined if the value they are read from is. -/
theorem isJoined_of_warningList {found : Option Found} {w : List RawText}
    (hfound : ∀ f, found = some f → f.value.IsJoined) (h : warningList found = .ok w) :
    ∀ content ∈ w, content.IsJoined := by
  cases found with
  | none =>
    cases h
    nofun
  | some f =>
    have hvalue := hfound f rfl
    obtain ⟨location, value⟩ := f
    cases hvalue with
    | null =>
      cases h
      nofun
    | @list items hitems =>
      rw [warningList_list_iff] at h
      intro content hcontent
      exact (hitems (.text content) (h ▸ List.mem_map_of_mem hcontent)).of_text
    | _ => cases h

/-! ## What is said of a bundle -/

/-- The strings in a bundle that its reasons are made of are joined. -/
structure Signals.IsJoined (s : Signals) : Prop where
  sellTax : s.sellTax.shown.IsJoined
  topHolderShare : s.topHolderShare.shown.IsJoined
  liquidityLockShare : s.liquidityLockShare.shown.IsJoined
  warnings : ∀ content ∈ s.warnings, content.IsJoined

/-- A bundle that is read from a joined value is joined. -/
theorem Signals.isJoined_of_ofDatum {d : Datum} {s : Signals} (hd : d.IsJoined)
    (h : Signals.ofDatum d = .ok s) : s.IsJoined := by
  cases d with
  | dict entries =>
    have hread : s.ReadFrom (dictionarySource entries) := Signals.ofSource_eq_ok_iff.1 h
    have hshown : ∀ {field p}, (∃ f, dictionarySource entries field = some f ∧
        f.percentage field = .ok p) → p.shown.IsJoined := by
      rintro field p ⟨f, hf, hp⟩
      exact Found.isJoined_shown (isJoined_of_dictionarySource hd hf) hp
    exact {
      sellTax := hshown hread.sellTax
      topHolderShare := hshown hread.topHolderShare
      liquidityLockShare := hshown hread.liquidityLockShare
      warnings := isJoined_of_warningList
        (fun f hf => isJoined_of_dictionarySource hd hf) hread.warnings }
  | _ => cases h

/-- The reasons of such a bundle are joined. -/
theorem Signals.IsJoined.reasons {s : Signals} (h : s.IsJoined) :
    ∀ reason ∈ s.rating.reasons, reason.IsJoined := by
  rw [s.reasons_eq, List.forall_mem_append, List.forall_mem_append]
  refine ⟨⟨?_, h.warnings⟩, ?_⟩
  · intro reason hreason
    rcases s.leadingReasons_cases with hnone | hone
    · rw [hnone] at hreason
      cases hreason
    · rw [hone, List.mem_singleton] at hreason
      rw [hreason]
      exact RawText.isJoined_ofString _
  · intro reason hreason
    have hlisted := s.trailingReasons_sublist.subset hreason
    simp only [List.mem_cons, List.not_mem_nil, or_false] at hlisted
    rcases hlisted with rfl | rfl | rfl | rfl
    · exact h.sellTax.between _ _
    · exact h.topHolderShare.between _ _
    · have hliquidity := s.liquidityReason_mem
      simp only [List.mem_cons, List.not_mem_nil, or_false] at hliquidity
      rcases hliquidity with heq | heq
      · rw [heq]
        exact RawText.isJoined_ofString _
      · rw [heq]
        exact h.liquidityLockShare.between _ _
    · exact RawText.isJoined_ofString _

/-- The reasons of a value whose strings are joined are joined. -/
theorem isJoined_of_rating {d : Datum} {r : Rating} (hd : d.IsJoined) (h : d.rating = .ok r) :
    ∀ reason ∈ r.reasons, reason.IsJoined := by
  obtain ⟨s, hs, rfl⟩ := map_eq_ok_iff.1 h
  exact (Signals.isJoined_of_ofDatum hd hs).reasons

end TokenAudit
