import ApiDoc.Text.Property.Blank
import ApiDoc.Text.Property.Digit
import ApiDoc.Text.Segments

/-!
# Integers in text

A whole number in text may have white space around it, a sign, digits of any script, and single
underscores between digits.
-/

namespace ApiDoc.Text

/-- The greatest number of digits of an integer in text. -/
def maxDigits : Nat := 4300

/-- The integer that a text writes. -/
def integer? (cs : List Char) : Option Int :=
  let (negative, digits) := match trim isWhiteSpace cs with
    | '-' :: r => (true, r)
    | '+' :: r => (false, r)
    | r => (false, r)
  let groups := pieces '_' digits
  if groups.all (fun g => !g.isEmpty && g.all isDecimal) && groups.flatten.length ≤ maxDigits then
    let n : Nat := groups.flatten.foldl (fun n c => n * 10 + (digitValue? c).getD 0) 0
    some (if negative then -(n : Int) else n)
  else none

end ApiDoc.Text
