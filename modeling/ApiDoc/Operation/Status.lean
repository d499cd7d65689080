import ApiDoc.Http.Status
import ApiDoc.Text.Property.Blank
import ApiDoc.Text.Property.Digit
import ApiDoc.Text.Segments

/-!
# Status keys

A response is declared under a key that lists one or more statuses, separated by commas. A status is
`default`, or a number of three decimal digits of which the first is one from 1 to 5.
-/

namespace ApiDoc.Status

/-- The statuses that a key lists: its pieces between commas, trimmed, without the empty ones. -/
def list (key : List Char) : List (List Char) :=
  ((Text.pieces ',' key).map (Text.trim Text.isBlank)).filter fun s => !s.isEmpty

/-- Whether a text is a number of three digits that begins with one from 1 to 5. -/
def isNumber : List Char → Bool
  | [a, b, c] => '1' ≤ a && a ≤ '5' && Text.isDecimal b && Text.isDecimal c
  | _ => false

def isStatus (s : List Char) : Bool := s = "default".toList || isNumber s

/-- The statuses of a key, or the first piece that is none. -/
def expand (key : String) : Except String (List String) :=
  let statuses := list key.toList
  match statuses.find? fun s => !isStatus s with
  | some s => .error (.ofList s)
  | none => .ok (statuses.map .ofList)

/-- The value of a number in decimal digits of any script. -/
def number? (s : List Char) : Option Nat := do
  let ds ← s.mapM Text.digitValue?
  if ds.isEmpty then none else some (ds.foldl (fun n d => n * 10 + d) 0)

/-- What a response is about when its declaration does not say so. -/
def phrase (status : String) : String :=
  ((number? status.toList).bind statusPhrase?).getD "Success"

end ApiDoc.Status
