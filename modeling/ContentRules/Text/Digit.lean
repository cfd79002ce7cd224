/-!
Digits and the numbers that they write.
-/

namespace ContentRules.Text

/-- The value of a hexadecimal digit. -/
def hexValue? (c : Char) : Option Nat :=
  if c.isDigit then some (c.toNat - 48)
  else if 'a' ≤ c ∧ c ≤ 'f' then some (c.toNat - 87)
  else if 'A' ≤ c ∧ c ≤ 'F' then some (c.toNat - 55)
  else none

def isHexDigit (c : Char) : Bool := (hexValue? c).isSome

/-- The number that digits write in a base up to sixteen; other characters count as zeros. -/
def number (base : Nat) (s : List Char) : Nat :=
  s.foldl (fun n c => n * base + (hexValue? c).getD 0) 0

end ContentRules.Text
