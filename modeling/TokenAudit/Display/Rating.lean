import TokenAudit.Display.Basic
import TokenAudit.Signal.Rating

/-!
# Showing a rating

The level of a rating is shown in a style of its own, and its reasons below it, one a line.
-/

set_option autoImplicit false

namespace TokenAudit.Display

/-- The style of a risk level. -/
def levelStyle : Grade → String
  | .high => "bold red"
  | .medium => "yellow"
  | .low => "green"

/-- What is shown of a rating. -/
def ratingItems (r : Rating) : List Item :=
  .line ("\nRisk level: " ++ styled (levelStyle r.level) r.level.heading) ::
    if r.reasons.isEmpty then [.line (styled "green" "No risk factors found.")]
    else r.reasons.map fun reason => .line ("  - " ++ reason)

end TokenAudit.Display
