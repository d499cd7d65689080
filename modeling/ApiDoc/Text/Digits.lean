/-!
# Digits

The values of ASCII digits, decimal and hexadecimal.

Main statement: `decimal_concat`, a further digit shifts the earlier ones up.
-/

namespace ApiDoc.Text

/-- The number that decimal digits write. -/
def decimal (cs : List Char) : Nat := cs.foldl (fun n c => n * 10 + (c.toNat - 0x30)) 0

/-- The value of a hexadecimal digit. -/
def hexValue? (c : Char) : Option Nat :=
  if c.isDigit then some (c.toNat - 0x30)
  else if 'a' ≤ c ∧ c ≤ 'f' then some (c.toNat - 0x57)
  else if 'A' ≤ c ∧ c ≤ 'F' then some (c.toNat - 0x37)
  else none

/-- Whether a character is a hexadecimal digit. -/
def isHex (c : Char) : Bool := (hexValue? c).isSome

/-- A further digit shifts the earlier ones up. -/
theorem decimal_concat (cs : List Char) (c : Char) :
    decimal (cs ++ [c]) = decimal cs * 10 + (c.toNat - 0x30) := by
  simp [decimal]

end ApiDoc.Text
