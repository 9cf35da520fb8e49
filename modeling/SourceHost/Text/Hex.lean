/-!
# Hexadecimal digits
-/

set_option autoImplicit false

namespace SourceHost.Hex

/-- The value of a hexadecimal digit. -/
def value (c : Char) : Option Nat :=
  if c.isDigit then some (c.toNat - 48)
  else if 'a' ≤ c ∧ c ≤ 'f' then some (c.toNat - 87)
  else if 'A' ≤ c ∧ c ≤ 'F' then some (c.toNat - 55)
  else none

/-- The number that digits spell; what is no digit counts as zero. -/
def number (digits : List Char) : Nat :=
  digits.foldl (fun n c ↦ 16 * n + (value c).getD 0) 0

end SourceHost.Hex
