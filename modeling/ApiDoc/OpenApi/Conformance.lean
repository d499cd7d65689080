import ApiDoc.OpenApi.Finding
import ApiDoc.OpenApi.Format
import ApiDoc.OpenApi.Pointer
import ApiDoc.Pattern.Match
import ApiDoc.Value.Order

/-!
# Values that follow schemas

A value follows a schema when it follows each of its keywords. Keywords of one type of values say
nothing about values of another type. A parameter outside of a body is a schema too: its constraints
are keywords, and the rest of it says nothing. A byte string has the type of texts where the schema
says that its format is binary, and no keyword says more about it.

**References.** What a reference leads to is looked up in the document. A reference can lead back to
where it stands, so the number of steps is bounded.
-/

namespace ApiDoc.OpenApi

namespace Conformance

open Finding (require)

def hasType (type : String) : Value → Bool
  | .str _ | .brokenText _ => type == "string"
  | .bool _ => type == "boolean"
  | .number (.int _) => type == "integer" || type == "number"
  | .number (.float _) => type == "number"
  | .list .. | .again _ false => type == "array"
  | .map .. | .again _ true => type == "object"
  | .null | .bytes _ | .date .. | .timestamp .. | .tuple .. | .set .. => false

def typeFindings (schema : Entries) (type : String) (v : Value) : List Finding :=
  match v, Entries.get? schema "format" with
  | .bytes _, some (.str "binary") => require (type == "string")
  | v, _ => require (hasType type v)

/-- What a limit finds: `exceeds` tells that a measure is beyond the limit. -/
def limitFindings (exceeds : Number → Number → Bool) (limit : Value) (measure : Option Number) :
    List Finding :=
  match limit, measure with
  | .number limit, some n => require !(exceeds n limit)
  | _, _ => []

/-- The measure that a keyword limits. -/
def measure? (keyword : String) (v : Value) : Option Number :=
  match keyword, v with
  | "minimum", .number n | "maximum", .number n => some n
  | "minItems", .list _ vs | "maxItems", .list _ vs => some (.int vs.length)
  | "minProperties", .map _ es | "maxProperties", .map _ es => some (.int es.length)
  | "minLength", v | "maxLength", v => v.codes?.map fun cs => .int cs.length
  | _, _ => none

/-- Whether a limit is one that a number must not reach. -/
def isExclusive (schema : Entries) (keyword : String) : Bool :=
  match Entries.get? schema keyword with
  | some v => !v.isFalsy
  | none => false

def patternFindings (pattern : List Char) (text : List Char) : List Finding :=
  match Pattern.read pattern with
  | .ok e => require (e.occursIn text)
  | .error e => [.obstacle (.pattern pattern e)]

/-- Whether an entry with a text key is in a mapping. -/
def valueAt? (key : Value) (entries : Entries) : Option Value :=
  (entries.find? fun (k, _) => key.sameKey k).map (·.2)

/-- What a list of required names finds. A truth value in its place is none. -/
def requiredFindings (required : Value) (entries : Entries) : List Finding :=
  match required with
  | .list _ names => names.flatMap fun name => require (valueAt? name entries).isSome
  | .bool _ => [.obstacle (.fault (.notIterable "bool"))]
  | _ => []

/-- What a schema, or a truth value in its place, finds in the entries that are not declared. -/
def additionalFindings (follows : Value → Value → List Finding) (declared : Entries)
    (additional : Value) (entries : Entries) : List Finding :=
  let others := entries.filter fun (k, _) => (valueAt? k declared).isNone
  match additional with
  | .bool allowed => require (allowed || others.isEmpty)
  | .map .. => others.flatMap fun (_, v) => follows additional v
  | _ => []

def propertyFindings (follows : Value → Value → List Finding) (declared entries : Entries) :
    List Finding :=
  declared.flatMap fun (k, s) =>
    match valueAt? k entries with
    | some v => follows s v
    | none => []

/-- The entries of a mapping. -/
def entriesOf (v : Value) : Entries := v.entries?.getD []

def itemsOf (v : Value) : List Value := v.listItems?.getD []

/-- What one keyword of a schema finds. -/
def keywordFindings (document : Value) (follows : Value → Value → List Finding)
    (schema : Entries) (keyword : String) (argument v : Value) : List Finding :=
  match keyword, argument, v with
  | "$ref", .str reference, v =>
    match target document reference with
    | .ok s => follows s v
    | .error e => [.obstacle (.reference e)]
  | "type", .str type, v => typeFindings schema type v
  | "enum", vs, v => require ((itemsOf vs).any fun w => w.agrees v)
  | "format", .str format, v => Format.findings format v
  | "pattern", .str pattern, .str text => patternFindings pattern.toList text.toList
  | "minimum", limit, v =>
    let exclusive := isExclusive schema "exclusiveMinimum"
    limitFindings (fun n l => l.exceeds n || exclusive && n.sameValue l) limit (measure? keyword v)
  | "maximum", limit, v =>
    let exclusive := isExclusive schema "exclusiveMaximum"
    limitFindings (fun n l => n.exceeds l || exclusive && n.sameValue l) limit (measure? keyword v)
  | "minLength", limit, v | "minItems", limit, v | "minProperties", limit, v =>
    limitFindings (fun n l => l.exceeds n) limit (measure? keyword v)
  | "maxLength", limit, v | "maxItems", limit, v | "maxProperties", limit, v =>
    limitFindings Number.exceeds limit (measure? keyword v)
  | "multipleOf", .number unit, .number n => require (n.isMultipleOf unit)
  | "uniqueItems", .bool true, .list l vs => require (Value.areDistinct (itemsOf (.list l vs)))
  | "items", s, .list l vs => (itemsOf (.list l vs)).flatMap (follows s)
  | "allOf", ss, v => (itemsOf ss).flatMap fun s => follows s v
  | "properties", declared, .map l es =>
    propertyFindings follows (entriesOf declared) (entriesOf (.map l es))
  | "required", required, .map _ es => requiredFindings required es
  | "additionalProperties", additional, .map l es =>
    additionalFindings follows (entriesOf ((Entries.get? schema "properties").getD .null))
      additional (entriesOf (.map l es))
  | _, _, _ => []

/-- What a schema finds wrong with a value, within a number of steps. -/
def findings (document : Value) : Nat → Value → Value → List Finding
  | n + 1, s, v => (entriesOf s).flatMap fun (k, argument) =>
    match k with
    | .str keyword =>
      keywordFindings document (findings document n) (entriesOf s) keyword argument v
    | _ => []
  | _, _, _ => []

end Conformance

end ApiDoc.OpenApi
