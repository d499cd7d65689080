import ApiDoc.Text.Base64
import ApiDoc.Text.Property.Lowercase
import ApiDoc.Value.Basic
import ApiDoc.Yaml.Number
import ApiDoc.Yaml.Tag

/-!
# Values of scalars

The value that a text has as a scalar of a type.
-/

namespace ApiDoc.Yaml.Scalar

/-- The words for truth values, in lower case. -/
def truthWords : List (String × Bool) :=
  [("yes", true), ("no", false), ("true", true), ("false", false), ("on", true), ("off", false)]

/-- The value of the scalar with a number, of a type; none for a type whose values are no
scalars. -/
def value? (id : Nat) (tag : Tag) (text : String) : Option (Except Error Value) :=
  let ofScalar {α : Type} (f : α → Value) (r : Except ScalarError α) : Except Error Value :=
    (r.map f).mapError .scalar
  let cs := text.toList
  match tag with
  | .null => some (.ok .null)
  | .str => some (.ok (.str text))
  | .bool =>
    let word := Text.lower text
    some (ofScalar .bool (match truthWords.lookup word with
      | some b => .ok b
      | none => .error (.truthValue word.toList)))
  | .int => some (ofScalar .int (readInteger cs))
  | .float => some (ofScalar .float (readFloat (id + 1) text))
  | .binary =>
    some (match if cs.all (·.toNat < 0x80) then Text.Base64.decode? cs else none with
      | some bs => .ok (.bytes bs)
      | none => .error (.malformed .unfitNode))
  | .timestamp =>
    let cs := if cs.getLast? = some '\n' then cs.dropLast else cs
    some (match WrittenDate.ofText? cs with
      | none => .error (.scalar .timestamp)
      | some w =>
        match w.time with
        | none => ofScalar (.date (.source id)) w.toDate
        | some t => ofScalar (.timestamp (.source id)) (w.toTimestamp t))
  | _ => none

end ApiDoc.Yaml.Scalar
