/-!
# The number that digits spell

A sequence of decimal digits spells a number, its first digit counting most. The number is computed
by joining neighbouring digits to digits of the squared base, again and again, so that a long
sequence costs few large multiplications. Main statement: the result is what reading the digits one
after the other gives.
-/

set_option autoImplicit false

namespace TokenAudit.Text

/-- The number that digits of a base spell, read one by one, the last digit of the number first. -/
def positional (base : Nat) (digits : List Nat) : Nat :=
  digits.foldr (fun digit n => digit + base * n) 0

/-- Joins neighbouring digits, the last of the number first, to digits of the squared base, and puts
them after those that are joined already, which come in reverse order. -/
def joinDigits (base : Nat) (joined : List Nat) : List Nat → List Nat
  | low :: high :: rest => joinDigits base ((low + base * high) :: joined) rest
  | [digit] => (digit :: joined).reverse
  | [] => joined.reverse

/-- Joining digits halves their number. -/
theorem length_joinDigits (base : Nat) (joined digits : List Nat) :
    (joinDigits base joined digits).length = joined.length + (digits.length + 1) / 2 := by
  fun_induction joinDigits base joined digits with
  | case1 joined low high rest ih =>
    simp only [ih, List.length_cons]
    omega
  | case2 joined digit => simp
  | case3 joined => simp

/-- The number that digits of a base spell, the last digit of the number first. -/
def spelledNumber (base : Nat) : List Nat → Nat
  | [] => 0
  | [digit] => digit
  | low :: high :: rest => spelledNumber (base * base) (joinDigits base [] (low :: high :: rest))
termination_by digits => digits.length
decreasing_by
  simp only [length_joinDigits, List.length_cons, List.length_nil]
  omega

/-- The number that decimal digits spell. -/
def numeralValue (digits : List Nat) : Nat :=
  spelledNumber 10 digits.reverse

/-- Digits after others count by the power of the base that the others take up. -/
theorem positional_append (base : Nat) (low high : List Nat) :
    positional base (low ++ high) =
      positional base low + Nat.pow base low.length * positional base high := by
  induction low with
  | nil => simp [positional]
  | cons digit low ih =>
    have step : Nat.pow base (low.length + 1) = base * Nat.pow base low.length := Nat.mul_comm _ _
    simp only [positional, List.cons_append, List.foldr_cons, List.length_cons] at ih ⊢
    rw [ih, step, Nat.mul_add, Nat.mul_assoc, Nat.add_assoc]

/-- Joined digits spell the same number. -/
theorem positional_joinDigits (base : Nat) (joined digits : List Nat) :
    positional (base * base) (joinDigits base joined digits) =
      positional (base * base) joined.reverse +
        Nat.pow (base * base) joined.length * positional base digits := by
  fun_induction joinDigits base joined digits with
  | case1 joined low high rest ih =>
    have step : Nat.pow (base * base) (joined.length + 1) =
        Nat.pow (base * base) joined.length * (base * base) := rfl
    rw [ih, List.reverse_cons, positional_append]
    simp only [positional, List.foldr_cons, List.foldr_nil, List.length_reverse, List.length_cons,
      step, Nat.mul_zero, Nat.add_zero, Nat.mul_add]
    generalize Nat.pow (base * base) joined.length = power
    generalize List.foldr _ 0 rest = tail
    simp only [Nat.mul_assoc, Nat.add_assoc]
  | case2 joined digit =>
    rw [List.reverse_cons, positional_append]
    simp [positional]
  | case3 joined => simp [positional]

/-- The number that digits spell is what reading them one by one gives. -/
theorem spelledNumber_eq (base : Nat) (digits : List Nat) :
    spelledNumber base digits = positional base digits := by
  fun_induction spelledNumber base digits with
  | case1 base => rfl
  | case2 base digit => simp [positional]
  | case3 base low high rest ih =>
    rw [ih, positional_joinDigits]
    simp [positional]

/-- The number that decimal digits spell, read one after the other, the first of the number
first. -/
theorem numeralValue_eq_foldl (digits : List Nat) :
    numeralValue digits = digits.foldl (fun n digit => digit + 10 * n) 0 := by
  rw [numeralValue, spelledNumber_eq, positional, List.foldr_reverse]

end TokenAudit.Text
