/-!
# White space

The characters that count as white space wherever this library skips or requires it: the ASCII
blanks, the four information separators, and the space separators of Unicode.
-/

set_option autoImplicit false

namespace TokenAudit.Text

/-- Whether a character is white space. -/
def isBlank (c : Char) : Bool :=
  let n := c.toNat
  if n < 128 then n == 32 || (9 ≤ n && n ≤ 13) || (28 ≤ n && n ≤ 31)
  else
    n == 0x85 || n == 0xa0 || n == 0x1680 || (0x2000 ≤ n && n ≤ 0x200a) || n == 0x2028 ||
      n == 0x2029 || n == 0x202f || n == 0x205f || n == 0x3000

end TokenAudit.Text
