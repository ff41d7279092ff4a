import TokenAudit.Text.FoldTable

/-!
# Comparing characters without regard to letter case

Two characters match when their folded forms are equal, which makes matching an equivalence by
construction. Inside ASCII folding is lower-casing; beyond ASCII it follows the table, by which the
Kelvin sign folds to `k`, the long s to `s`, and both dotted capital I and dotless small i to `i`.
-/

set_option autoImplicit false

namespace TokenAudit.Text

/-- The character that stands for all characters equal to `c` up to letter case. -/
def fold (c : Char) : Char :=
  if c.toNat < 128 then c.toLower else Char.ofNat (moved foldShifts c.toNat)

end TokenAudit.Text
