import ApiDoc.OpenApi.Finding
import ApiDoc.Text.Digits
import ApiDoc.Text.Integer
import ApiDoc.Text.Utf8
import ApiDoc.Value.Equality

/-!
# Following references

A reference within a document, `#/definitions/Pet`, names the steps from the root. A step can have
characters written as percent signs with two digits, and has `~1` for a slash and `~0` for a tilde.
In a list or a text a step is a position.
-/

namespace ApiDoc.OpenApi

namespace Pointer

/-- The bytes of text in which a percent sign with two digits stands for a byte. -/
def bytesOf : List Char → List UInt8
  | [] => []
  | '%' :: a :: b :: cs =>
    match Text.hexValue? a, Text.hexValue? b with
    | some x, some y => .ofNat (16 * x + y) :: bytesOf cs
    | _, _ => 0x25 :: bytesOf (a :: b :: cs)
  | c :: cs => (String.singleton c).toUTF8.toList ++ bytesOf cs

/-- A step without its abbreviations. -/
def plainStep : List Char → List Char
  | '~' :: '1' :: cs => '/' :: plainStep cs
  | '~' :: '0' :: cs => '~' :: plainStep cs
  | c :: cs => c :: plainStep cs
  | [] => []

/-- The steps of a pointer behind its first slash. -/
def steps? (pointer : List Char) : Option (List (List Char)) :=
  match Text.decode (bytesOf pointer) with
  | .ok cs => some (Text.pieces '/' cs)
  | .error _ => none

/-- What is at a position of a list; positions below zero count from its end. -/
def itemAt? {α : Type} (items : List α) (n : Int) : Option α :=
  match n with
  | .ofNat n => items[n]?
  | .negSucc n => items.reverse[n]?

/-- What a step leads to; nothing when there is no such part. -/
def stepInto (v : Value) (step : List Char) : Except ReferenceError (Option Value) :=
  match v.entries?, v with
  | some es, _ => .ok (Entries.get? es (.ofList (plainStep step)))
  | none, .set .. => .error (.noParts v.typeName)
  | none, v =>
    let items? := match v with
      | .str s => some (s.toList.map fun c => .str (.singleton c))
      | .bytes bs => some (Value.byteItems bs)
      | v => v.items?
    match items? with
    | none => .error (.noParts v.qualifiedTypeName)
    | some items =>
      match Text.integer? step with
      | some n => .ok (itemAt? items n)
      | none => .error (.noPosition (.ofList step))

/-- What steps lead to. -/
def follow (v : Value) : List (List Char) → Except ReferenceError (Option Value)
  | [] => .ok (some v)
  | step :: steps => do
    match ← stepInto v step with
    | some part => follow part steps
    | none => return none

end Pointer

/-- What a reference within a document leads to. -/
def target (document : Value) (reference : String) : Except ReferenceError Value := do
  match reference.toList with
  | '#' :: '/' :: cs =>
    let found ← match Pointer.steps? cs with
      | some steps => Pointer.follow document steps
      | none => pure none
    match found with
    | some v => return v
    | none => throw (.nowhere (.ofList ('/' :: cs)) document)
  | ['#'] => return document
  | '#' :: cs =>
    let name := String.ofList cs
    throw (if cs.contains '/' then .badAnchor name else .noAnchor name document)
  | _ => throw (.elsewhere reference)

end ApiDoc.OpenApi
