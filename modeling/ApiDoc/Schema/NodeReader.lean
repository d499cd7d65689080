import ApiDoc.Schema.Node
import ApiDoc.Validation.Container

/-!
# Reading validation schemas

A node is read from a mapping. A mapping without the key `kind` is a short form: it is the object
node whose properties are the entries of the mapping.

A mapping that is read as a node inside of itself is an issue. So on the way from a node to one of
its parts no container is read twice, and the number of containers in a value bounds the levels of
its node.
-/

namespace ApiDoc.Node

open Checked (issue)

/-- The fields of a node, each with the names it is found under. -/
def fieldNames : List (List String) :=
  [["kind"], ["description"], ["required"], ["min"], ["max"], ["pattern"], ["enum"], ["format"],
    ["default"], ["example"], ["items"], ["properties"], ["alternatives"],
    ["additionalProperties", "additional_properties"], ["ref"]]

/-- Joins the fields of a node, whose parts are read by `read`. -/
def assemble (read : Value → Checked Node) (entries : Entries) (whole : Value) : Checked Node :=
  (fun kind description required min max pattern enum format defaultValue exampleValue items
      properties alternatives additionalProperties ref (_ : Unit) =>
    { kind, description, required, min, max, pattern, enum, format, defaultValue, exampleValue,
      items, properties, alternatives, additionalProperties, ref : Node })
  <$> Checked.field entries whole ["kind"] Checked.text
  <*> Checked.fieldOr none entries ["description"] (Checked.optional Checked.text)
  <*> Checked.fieldOr false entries ["required"] Checked.bool
  <*> Checked.fieldOr none entries ["min"] (Checked.optional Checked.number)
  <*> Checked.fieldOr none entries ["max"] (Checked.optional Checked.number)
  <*> Checked.fieldOr none entries ["pattern"] (Checked.optional Checked.text)
  <*> Checked.fieldOr none entries ["enum"] (Checked.optional (Checked.listOf Checked.any))
  <*> Checked.fieldOr none entries ["format"] (Checked.optional Checked.text)
  <*> Checked.fieldOr .null entries ["default"] Checked.any
  <*> Checked.fieldOr .null entries ["example"] Checked.any
  <*> Checked.fieldOr none entries ["items"] (Checked.optional read)
  <*> Checked.fieldOr none entries ["properties"] (Checked.optional (Checked.mappingOf read))
  <*> Checked.fieldOr none entries ["alternatives"] (Checked.optional (Checked.listOf read))
  <*> Checked.fieldOr none entries ["additionalProperties", "additional_properties"]
    (Checked.optional Checked.bool)
  <*> Checked.fieldOr none entries ["ref"] (Checked.optional Checked.text)
  <*> Checked.noExtras (Checked.usedNames entries fieldNames) entries

/-- Reads a node of at most a number of levels, inside of the containers with the labels `path`. -/
def readWithin : Nat → List Label → Value → Checked Node
  | 0, _, v => issue .recursionLoop v
  | fuel + 1, path, v =>
    -- A container inside of itself is met again on the way down.
    if v.label ≠ .none ∧ v.label ∈ path then issue .recursionLoop v
    else
      let part := readWithin fuel (v.label :: path)
      match v.entries? with
      | none => issue (.modelType "SchemaNode") v
      | some entries =>
        -- Without a kind the mapping holds the members of an object.
        if Entries.has entries "kind" then assemble part entries v
        else
          (fun properties => { kind := Kind.object.name, properties := some properties })
            <$> (Checked.mappingOf part v).under (.name "properties")

def read (v : Value) : Checked Node := readWithin (v.size + 1) [] v

end ApiDoc.Node
