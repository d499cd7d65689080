import ApiDoc.Schema.Node

/-!
# Writing validation schemas

A node is written as the mapping of the fields it sets, in the order of their declaration.
-/

namespace ApiDoc

/-- The entry of a field, when it is set. -/
def optionalEntry {α : Type} (name : String) (write : α → Value) (field : Option α) :
    List (String × Value) :=
  match field with
  | some a => [(name, write a)]
  | none => []

/-- The entry of a field that holds any value, unless that is null. -/
def anyEntry (name : String) : Value → List (String × Value)
  | .null => []
  | v => [(name, v)]

namespace Node

mutual

/-- The mapping of the fields that a node sets. -/
def write : Node → Value
  | ⟨kind, description, required, min, max, pattern, enum, format, defaultValue, exampleValue,
      items, properties, alternatives, additionalProperties, ref⟩ =>
    .object (
      [("kind", .str kind)]
      ++ optionalEntry "description" .str description
      ++ (if required then [("required", .bool true)] else [])
      ++ optionalEntry "min" .number min
      ++ optionalEntry "max" .number max
      ++ optionalEntry "pattern" .str pattern
      ++ optionalEntry "enum" .listOf enum
      ++ optionalEntry "format" .str format
      ++ anyEntry "default" defaultValue
      ++ anyEntry "example" exampleValue
      ++ writeItems items
      ++ writeProperties properties
      ++ writeAlternatives alternatives
      ++ optionalEntry "additional_properties" .bool additionalProperties
      ++ optionalEntry "ref" .str ref)

/-- The entry of the items. -/
def writeItems : Option Node → List (String × Value)
  | none => []
  | some n => [("items", write n)]

/-- The entry of the properties. -/
def writeProperties : Option (List (String × Node)) → List (String × Value)
  | none => []
  | some ps => [("properties", .object (writeNamed ps))]

/-- The entry of the alternatives. -/
def writeAlternatives : Option (List Node) → List (String × Value)
  | none => []
  | some ns => [("alternatives", .listOf (writeList ns))]

def writeNamed : List (String × Node) → List (String × Value)
  | [] => []
  | (name, n) :: ps => (name, write n) :: writeNamed ps

def writeList : List Node → List Value
  | [] => []
  | n :: ns => write n :: writeList ns

end

end Node

end ApiDoc
