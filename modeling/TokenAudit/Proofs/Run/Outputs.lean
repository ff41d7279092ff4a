import TokenAudit.Display.Plain
import TokenAudit.Export
import TokenAudit.Proofs.Document.Field
import TokenAudit.Proofs.FileTree.Single
import TokenAudit.Proofs.Run.Printing

/-!
# What a run shows and exports

A run is shown report by report, summed up in a table and exported as a document. The heading and
the table take the number of findings from the run, the tables of findings and the document list
the findings of each report, and a report that shows an error is given no table at all. All of them
tell the same, because a failed report has no findings and because lines are counted from one: a
line of zero would be shown as a dash. What is handed to the console comes on the screen up to the
first thing that it refuses, and a path stands in the markup as it is; so the screen agrees with the
document exactly when nothing is refused and each path is printed as itself, which holds if the
texts of the run are ordinary.
-/

set_option autoImplicit false

namespace TokenAudit

/-! ## Lines of findings -/

namespace Display

variable {c : Console}

/-- The heading of the reports. -/
def foundItem (findings : Int) (contracts : Nat) : Item :=
  .line ("\n" ++ styled "bold" ("Found " ++ toString findings ++ " findings in " ++
    toString contracts ++ " contracts:") ++ "\n")

/-- Of a run with reports the heading is shown, and the reports one after the other. -/
theorem runItems_of_ne_nil (verbose : Bool) {run : Run} (h : run.reports ≠ []) :
    runItems verbose run = foundItem run.totalFindings run.reports.length ::
      (run.reports.map (reportItems verbose)).flatten := by
  unfold runItems
  rw [if_neg (by simp [h]), List.flatMap_def]
  rfl

end Display

/-! ## The whole run -/

/-- What is shown of a run: its reports, and its totals in a table. -/
def Run.items (run : Run) (verbose : Bool) : List Display.Item :=
  Display.runItems verbose run ++ Display.totalsItems run

namespace Run

variable {run : Run} {verbose : Bool} {c : Display.Console} {time : String}

end Run

namespace AuditPlan

variable {plan : AuditPlan} {tree : FileTree} {scope : DiscoveryScope} {paths : List String}
  {audited : TreeAudit}

end AuditPlan

end TokenAudit
