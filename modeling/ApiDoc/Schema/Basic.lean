import ApiDoc.Value.Basic

/-!
# Schema objects

A `Schema` is the list of its keywords in writing order; no two of them have the same name. The
schemas inside a schema are those of the keywords `properties`, `items`, `allOf` and
`x-alternatives`. The values of `enum`, `default` and `example` are data.

**Objects.** A schema with branches takes over the keywords of its first branch, so the lists and
mappings under these keywords are objects that occur twice. `Schema.origin` says where such an
object was made: at the first branch, or at the first branch of that, and so on. The `Place` of
each object is written into its label.
-/

namespace ApiDoc

/-- The types of values that a schema can ask for. -/
inductive SchemaType where
  | string
  | number
  | integer
  | boolean
  | object
  | array
  deriving DecidableEq, Repr

def SchemaType.name : SchemaType → String
  | string => "string"
  | number => "number"
  | integer => "integer"
  | boolean => "boolean"
  | object => "object"
  | array => "array"

/-- What a bound limits, and on which side. -/
inductive Bound where
  | minLength
  | maxLength
  | minimum
  | maximum
  | minItems
  | maxItems
  deriving DecidableEq, Repr

def Bound.name : Bound → String
  | minLength => "minLength"
  | maxLength => "maxLength"
  | minimum => "minimum"
  | maximum => "maximum"
  | minItems => "minItems"
  | maxItems => "maxItems"

/-- One keyword of a schema object, with its value. -/
inductive Keyword where
  | ref (pointer : String)
  | type (t : SchemaType)
  | bound (b : Bound) (n : Number)
  | pattern (s : String)
  | format (s : String)
  | description (s : String)
  | enum (values : List Value)
  | defaultValue (v : Value)
  | exampleValue (v : Value)
  | properties (members : List (String × List Keyword))
  | required (names : List String)
  | additionalProperties (allowed : Bool)
  | items (schema : List Keyword)
  | allOf (schemas : List (List Keyword))
  /-- The schemas of which a value follows one, under the name `x-alternatives`. -/
  | branches (schemas : List (List Keyword))
  /-- A keyword of another vocabulary. -/
  | custom (name : String) (value : Value)

/-- A schema object: its keywords in writing order. -/
abbrev Schema := List Keyword

namespace Keyword

def name : Keyword → String
  | ref _ => "$ref"
  | type _ => "type"
  | bound b _ => b.name
  | pattern _ => "pattern"
  | format _ => "format"
  | description _ => "description"
  | enum _ => "enum"
  | defaultValue _ => "default"
  | exampleValue _ => "example"
  | properties _ => "properties"
  | required _ => "required"
  | additionalProperties _ => "additionalProperties"
  | items _ => "items"
  | allOf _ => "allOf"
  | branches _ => "x-alternatives"
  | custom name _ => name

/-- Whether a keyword is a reference. -/
def isRef (k : Keyword) : Bool := k.name == "$ref"

end Keyword

/-- A place in a document: the steps to it, the innermost first. -/
abbrev Place := List String

namespace Schema

/-- The schema that only refers to a definition. -/
def reference (pointer : String) : Schema := [.ref pointer]

/-- Whether a schema has a reference among its keywords. -/
def isReference (s : Schema) : Bool := s.any Keyword.isRef

/-- Sets a keyword: in place when one of its name is there, otherwise at the end. -/
def put (s : Schema) (k : Keyword) : Schema :=
  match s with
  | [] => [k]
  | j :: rest => if j.name = k.name then k :: rest else j :: put rest k

/-- Sets a keyword that may be absent. -/
def put? (s : Schema) (k : Option Keyword) : Schema :=
  match k with
  | some k => s.put k
  | none => s

/-- The type that a schema asks for. -/
def type? (s : Schema) : Option SchemaType :=
  s.findSome? fun
    | .type t => some t
    | _ => none

/-! ## Places -/

/-- The place of branch `n` of a schema. -/
def branchPlace (n : Nat) (at_ : Place) : Place := toString n :: "x-alternatives" :: at_

mutual

/-- The place where the object under a name was made, for a schema at a place. -/
def origin (name : String) (at_ : Place) : List Keyword → Place
  | [] => name :: at_
  | .branches schemas :: _ => originInFirst name at_ schemas
  | _ :: ks => origin name at_ ks

/-- The same for a schema with branches: the first branch has made it, unless that is a
reference. -/
def originInFirst (name : String) (at_ : Place) : List (List Keyword) → Place
  | [] => name :: at_
  | b :: _ => if b.any Keyword.isRef then name :: at_ else origin name (branchPlace 0 at_) b

end

/-- The place of a schema under `allOf`: it is the first branch of the schema that made the list. -/
def allOfPlace (n : Nat) (made : Place) : Place :=
  match n with
  | 0 => branchPlace 0 made.tail
  | n => toString n :: made

mutual

/-- The entries of the keywords of a schema. `self` is the place of its own mapping, `at_` the
place that its parts come from, and `made` says where the object under a name was made. A flat
schema is one whose `items` are a mapping of their own. -/
def entries (flat : Bool) (self at_ : Place) (made : String → Place) :
    List Keyword → List (Value × Value)
  | [] => []
  | k :: ks => (.str k.name, keywordValue flat self at_ made k) :: entries flat self at_ made ks

def keywordValue (flat : Bool) (self at_ : Place) (made : String → Place) : Keyword → Value
  | .ref pointer => .str pointer
  | .type t => .str t.name
  | .bound _ n => .number n
  | .pattern s | .format s | .description s => .str s
  | .enum values => .list (.made (made "enum")) values
  | .defaultValue v | .exampleValue v | .custom _ v => v
  | .properties members =>
    .map (.made (made "properties")) (memberEntries (made "properties") members)
  | .required names => .list (.made (made "required")) (names.map .str)
  | .additionalProperties allowed => .bool allowed
  | .items schema =>
    let place := made "items"
    let self := if flat then "items" :: self else place
    .map (.made self) (entries flat self place (origin · place schema) schema)
  | .allOf schemas =>
    .list (.made (made "allOf")) (values (fun n => allOfPlace n (made "allOf")) 0 schemas)
  | .branches schemas =>
    .list (.made ("x-alternatives" :: at_)) (values (fun n => branchPlace n at_) 0 schemas)

/-- Named schemas at a place. -/
def memberEntries (at_ : Place) : List (String × List Keyword) → List (Value × Value)
  | [] => []
  | (name, s) :: ms =>
    let place := name :: at_
    (.str name, .map (.made place) (entries false place place (origin · place s) s))
      :: memberEntries at_ ms

/-- Schemas from number `n` on, each at its place. -/
def values (place : Nat → Place) (n : Nat) : List (List Keyword) → List Value
  | [] => []
  | s :: ss =>
    .map (.made (place n)) (entries false (place n) (place n) (origin · (place n) s) s)
      :: values place (n + 1) ss

end

/-- A schema at a place of a document. -/
def toValueAt (at_ : Place) (s : Schema) : Value :=
  .map (.made at_) (entries false at_ at_ (origin · at_ s) s)

/-- A schema as a value of its own. -/
def toValue (s : Schema) : Value := s.toValueAt []

/-- The entries of a flat schema at a place of a document. -/
def flatEntries (at_ : Place) (s : Schema) : Entries :=
  entries true at_ at_ (origin · at_ s) s

/-- A flat schema at a place of a document. -/
def flatValueAt (at_ : Place) (s : Schema) : Value := .map (.made at_) (s.flatEntries at_)

end Schema

end ApiDoc
