import ApiDoc.OpenApi.Conformance
import ApiDoc.OpenApi.Structure

/-!
# Checking documents

`OpenApi.check` says whether a document is a valid one of version 2.0. A document of the right
structure has to fulfil these conditions too, which are checked operation by operation:

- no two operations have the same identifier;
- the default values of schemas and parameters follow these;
- no two parameters of an operation have the same name and place;
- the names in a path are those of its parameters.

Before the operations no two tags of the document have the same name.

Schemas of definitions are checked only where an operation refers to them, and each once.
-/

namespace ApiDoc.OpenApi

open Conformance (entriesOf itemsOf)

/-- What a check has come across. -/
structure Seen where
  /-- The identifiers of operations. -/
  identifiers : List String := []
  /-- The pointers that were followed. -/
  pointers : List String := []

/-- A check that keeps in mind what it has come across. -/
abbrev Check := StateM Seen (List Finding)

namespace Check

/-- The findings of several checks, one after the other. -/
def all {α : Type} (check : α → Check) (parts : List α) : Check :=
  List.flatten <$> parts.mapM check

/-- The part of a mapping under a name. -/
def part (name : String) (v : Value) : Value := (Entries.get? (entriesOf v) name).getD .null

def textAt (name : String) (v : Value) : Option String :=
  match part name v with
  | .str s => some s
  | _ => none

/-- What a default value does not follow of the schema that declares it. -/
def defaultFindings (document : Value) (bound : Nat) (schema : Value) : List Finding :=
  match Entries.get? (entriesOf schema) "default" with
  | some v => Conformance.findings document bound schema v
  | none => []

/-- The schemas directly inside a schema. -/
def innerSchemas (schema : Value) : List Value :=
  itemsOf (part "allOf" schema) ++ [part "items" schema]
    ++ (entriesOf (part "properties" schema)).map (·.2)

/-- Checks a schema and those inside, following references, within a number of steps. -/
def schema (document : Value) (bound : Nat) : Nat → Value → Check
  | 0, _ => return []
  | n + 1, s => do
    match textAt "$ref" s with
    | some pointer =>
      if pointer ∈ (← get).pointers then return []
      modify fun seen => { seen with pointers := pointer :: seen.pointers }
      match target document pointer with
      | .ok t => schema document bound n t
      | .error e => return [.obstacle (.reference e)]
    | none =>
      let inner ← all (schema document bound n) (innerSchemas s)
      return inner ++ defaultFindings document bound s

def parameter (document : Value) (bound : Nat) (p : Value) : Check := do
  return (← schema document bound bound (part "schema" p)) ++ defaultFindings document bound p

/-- Checks the parameters of an operation or of a path. Each has another name or place than the
`known` ones. -/
def parameters (document : Value) (bound : Nat)
    (known : List (Option String × Option String)) : List Value → Check
  | [] => return []
  | p :: ps => do
    let key := (textAt "name" p, textAt "in" p)
    return (← parameter document bound p) ++ Finding.require (key ∉ known)
      ++ (← parameters document bound (key :: known) ps)

/-- The names of the parameters in the path. -/
def pathNames (ps : List Value) : List String :=
  (ps.filter fun p => textAt "in" p = some "path").filterMap (textAt "name")

/-- Checks that the names in a path are those that are declared. -/
def template (path : String) (declared : List String) : List Finding :=
  match Template.names path with
  | .error e => [.obstacle (.template e)]
  | .ok names =>
    Finding.require (names.all (· ∈ declared)) ++ Finding.require (declared.all (· ∈ names))

/-- Checks that the identifier of an operation is new. -/
def identifier (operation : Value) : Check := do
  match textAt "operationId" operation with
  | none => return []
  | some id =>
    let known := (← get).identifiers
    modify fun seen => { seen with identifiers := id :: known }
    return Finding.require (id ∉ known)

/-- Checks an operation of a path whose parameters hold for all its operations. -/
def operation (document : Value) (bound : Nat) (path : String) (shared : List Value) (o : Value) :
    Check := do
  let own := itemsOf (part "parameters" o)
  let responses := (entriesOf (part "responses" o)).map (·.2)
  return (← identifier o)
    ++ (← all (fun r => schema document bound bound (part "schema" r)) responses)
    ++ (← parameters document bound [] own)
    ++ template path (pathNames (own ++ shared))

/-- Checks the operations of a path. -/
def pathItem (document : Value) (bound : Nat) (path : String) (item : Value) : Check := do
  let shared := itemsOf (part "parameters" item)
  let operations := (entriesOf item).filter fun
    | (.str m, _) => m ∈ Structure.methods
    | _ => false
  return (← parameters document bound [] shared)
    ++ (← all (fun (_, o) => operation document bound path shared o) operations)

/-- A violation for every name after an equal one. -/
def repeatedNames (known : List (Option String)) : List (Option String) → List Finding
  | [] => []
  | name :: names => Finding.require (name ∉ known) ++ repeatedNames (name :: known) names

/-- Checks the tags and the operations of a document. References are followed in `root`. -/
def document (root : Value) (bound : Nat) (d : Value) : Check := do
  let tags := itemsOf (part "tags" d)
  let operations ← all (fun
    | (.str path, item) => pathItem root bound path item
    | _ => return []) (entriesOf (part "paths" d))
  return repeatedNames [] (tags.map (textAt "name")) ++ operations

end Check

/-- The number of references in a value. -/
def referenceCount : Value → Nat
  | .list _ vs | .tuple _ vs => inItems vs
  | .map _ es => inEntries es
  | _ => 0
where
  /-- The number of references in items. -/
  inItems : List Value → Nat
    | [] => 0
    | v :: vs => referenceCount v + inItems vs
  /-- The number of references in entries. -/
  inEntries : List (Value × Value) → Nat
    | [] => 0
    | (.str "$ref", v) :: es => 1 + referenceCount v + inEntries es
    | (_, v) :: es => referenceCount v + inEntries es

/-- A number of steps within which every way through the schemas of a document and a value in it
ends: between two references a way goes down in a schema, and before a reference is met again, in
the value. -/
def stepBound (document : Value) : Nat :=
  (referenceCount document + 1) * (document.depth + 1) * (document.depth + 1)

/-- Whether text is a version or a revision of it. -/
def isVersion (version text : String) : Bool :=
  version.toList.isPrefixOf text.toList
    && !(text.toList.drop version.length).head?.any Text.isDecimal

/-- What a document finds that is not of version 2.0. Under a later version a document has no key
`swagger`. -/
def otherVersion (document : Value) : List Finding :=
  match Check.part "openapi" document with
  | .null => [.obstacle .version]
  | .str text =>
    if ["3.0", "3.1", "3.2"].any (isVersion · text) then [.violation] else [.obstacle .version]
  | v => [.obstacle (.key v)]

/-- The document that a value is, or to which it only refers, within a number of references. -/
def rootOf (document : Value) : Nat → Value → Except ReferenceError Value
  | 0, v => .ok v
  | n + 1, v =>
    match Check.textAt "$ref" v with
    | some reference => do rootOf document n (← target document reference)
    | none => .ok v

def findings (document : Value) : List Finding :=
  if (Check.textAt "swagger" document).any (isVersion "2.0") then
    match rootOf document (referenceCount document + 1) document with
    | .error e => [.obstacle (.reference e)]
    | .ok d =>
      let structural := Structure.document d.depth d
      if structural.isEmpty then ((Check.document document (stepBound document) d).run {}).1
      else structural
  else otherVersion document

def check (document : Value) : Verdict := .ofFindings (findings document)

end ApiDoc.OpenApi
