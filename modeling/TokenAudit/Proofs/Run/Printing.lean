import TokenAudit.Proofs.Display.Printing
import TokenAudit.Proofs.Run.Failure
import TokenAudit.Proofs.Scan.Findings

/-!
# Runs on consoles

What is shown of a run is put together of numbers, of fixed sentences, and of texts that come from
elsewhere: the paths of the sources, the messages of failures, and the names, descriptions and
solutions of the rules. If these hold no opening brackets and no backslashes, a console refuses
nothing of it, and the line above each report is printed with the path in front.
-/

set_option autoImplicit false

namespace TokenAudit

open Display

/-! ## Texts from elsewhere -/

/-- The texts that a rule puts into its findings have no opening brackets and no backslashes. -/
def Rule.IsMarkless (rule : Rule) : Prop :=
  ∀ text ∈ [displayName rule.key, rule.description, rule.solution],
    MadeOf Display.IsMarkless (RawText.ofString text)
  deriving Decidable

/-- All rules put such texts into their findings. -/
def Catalog.IsMarkless (catalog : Catalog) : Prop :=
  ∀ rule ∈ catalog.rules, rule.IsMarkless
  deriving Decidable

/-- The texts of a finding have no opening brackets and no backslashes. -/
def Finding.IsMarkless (f : Finding) : Prop :=
  ∀ text ∈ [f.name, f.description, f.solution], MadeOf Display.IsMarkless (RawText.ofString text)

/-- A finding of a rule has the texts of the rule. -/
theorem Rule.IsMarkless.found? {rule : Rule} (h : rule.IsMarkless) {stamp : Int}
    {text : List Char} {f : Finding} (hfound : rule.found? stamp text = some f) :
    f.IsMarkless := by
  obtain ⟨-, line, -, rfl⟩ := Rule.found?_eq_some_iff.1 hfound
  exact h

namespace Display

/-! ## The line above a report -/

/-- The line above a report, with texts shown for its path and its message. -/
def headerItem (r : Report) (path message : String) : Item :=
  if r.showsError then
    .line (styled "red" path ++ "  " ++ styled "dim" message ++ "\n")
  else
    .line (styled (pathStyle r.findings) path ++ "  " ++
      styled "dim" ("Risk Score: " ++ toString r.riskScore ++ "/100"))

/-- The line with the path of a report stands above the rest of it. -/
theorem exists_reportItems (verbose : Bool) (r : Report) :
    ∃ below, reportItems verbose r = headerItem r r.filePath (r.error.getD "") :: below := by
  unfold reportItems headerItem
  split
  · exact ⟨[], rfl⟩
  · exact ⟨_, rfl⟩

/-- The texts of a thing to be shown are markup in known styles, without other brackets and
backslashes. -/
def Item.IsMarkless (item : Item) : Prop :=
  ∀ markup ∈ item.markups, IsMarkupOf Display.IsMarkless markup

end Display

end TokenAudit
