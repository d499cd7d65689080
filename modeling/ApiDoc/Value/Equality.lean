import ApiDoc.Value.Basic

/-!
# Equality of values

Values are compared in two ways.

- **As data** a truth value is no number, and lists, tuples and byte strings with the same items are
  equal.
- **As objects** a truth value is the number that it counts as, and values of different types
  differ.

In both, numbers count by value, so `1` and `1.0` are equal, and the order of a mapping does not
count.
-/

namespace ApiDoc

inductive Comparison where
  | data
  | object
  deriving DecidableEq

namespace Value

/-- The items of a byte string. -/
def byteItems (bs : List UInt8) : List Value := bs.map fun b => int b.toNat

/-- Whether two sets have the same keys. -/
def sameKeys (vs ws : List Value) : Bool :=
  vs.length == ws.length && vs.all fun v => ws.any v.sameKey

mutual

/-- Whether two values are equal. -/
def equals (how : Comparison) : Value → Value → Bool
  -- As objects truth values can equal numbers, as data they do not.
  | bool a, w => match w with
    | bool b => a == b
    | w => how = .object && (bool a).sameKey w
  | number m, w => match w with
    | number n => m.isSame n
    | w => how = .object && (number m).sameKey w
  | bytes bs, w => match w, how with
    | bytes cs, _ => bs == cs
    | list _ ws, .data | tuple _ ws, .data =>
      bs.length == ws.length && (bs.zip ws).all fun (b, w) => match w with
        | number n => n.isSame (.int b.toNat)
        | _ => false
    | _, _ => false
  | list _ vs, w => match w, how with
    | list _ ws, how => equalItems how vs ws
    | tuple _ ws, .data => equalItems .data vs ws
    | bytes bs, .data => equalItems .data vs (byteItems bs)
    | _, _ => false
  | tuple _ vs, w => match w, how with
    | tuple _ ws, how => equalItems how vs ws
    | list _ ws, .data => equalItems .data vs ws
    | bytes bs, .data => equalItems .data vs (byteItems bs)
    | _, _ => false
  | set _ vs, w => match w with
    | set _ ws => sameKeys vs ws
    | _ => false
  | map _ es, w => match w with
    | map _ fs => es.length == fs.length && equalEntries how es fs
    | _ => false
  | again l _, w => l == w.label
  | v, w => v.sameKey w

/-- Whether two lists have equal items. -/
def equalItems (how : Comparison) : List Value → List Value → Bool
  | [], ws => ws.isEmpty
  | v :: vs, ws => match ws with
    | w :: ws => equals how v w && equalItems how vs ws
    | [] => false

/-- Whether every entry is equal to one of the others. -/
def equalEntries (how : Comparison) : List (Value × Value) → List (Value × Value) → Bool
  | [], _ => true
  | (k, v) :: es, fs =>
    (match fs.find? fun f => k.sameKey f.1 with
      | some f => equals how v f.2
      | none => false) && equalEntries how es fs

end

/-- Whether two values are equal as data. -/
def agrees (v w : Value) : Bool := v.equals .data w

end Value

end ApiDoc
