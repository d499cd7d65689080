import ApiDoc.Schema.Basic

/-!
# Simple schemas

Parameters outside of the body, and headers, take only simple schemas: scalars and arrays of them,
with a fixed set of keywords. `Schema.simple` keeps of a schema what is simple in it.
-/

namespace ApiDoc

/-- Whether a simple schema can ask for a type. -/
def SchemaType.isSimple : SchemaType → Bool
  | object => false
  | _ => true

/-- The names of the keywords that a simple schema can have. -/
def simpleNames : List String :=
  ["type", "format", "items", "default", "maximum", "minimum", "maxLength", "minLength", "pattern",
    "maxItems", "minItems", "enum", "description"]

/-- Whether a name belongs to an extension. -/
def isExtension (name : String) : Bool := ['x', '-'].isPrefixOf name.toList

/-- Whether a simple schema can have a keyword. -/
def Keyword.isSimple : Keyword → Bool
  | .ref _ | .exampleValue _ | .properties _ | .required _ | .additionalProperties _ | .allOf _ =>
    false
  | .custom name _ => name ∈ simpleNames || isExtension name
  | _ => true

namespace Schema

/-- Makes sure that the type is a simple one: anything else becomes a text. -/
def withSimpleType (s : Schema) : Schema :=
  if (type? s).any SchemaType.isSimple then s else put s (.type .string)

def withoutDescription (s : Schema) : Schema := s.filter (·.name ≠ "description")

mutual

/-- The simple keywords of a schema, with their items made simple. -/
def simpleKeywords : List Keyword → List Keyword
  | [] => []
  | k :: ks => simpleKeyword k ++ simpleKeywords ks

/-- A keyword made simple, if it can be. -/
def simpleKeyword : Keyword → List Keyword
  | .items s => [.items (withoutDescription (withSimpleType (simpleKeywords s)))]
  | k => if k.isSimple then [k] else []

end

/-- What is simple in a schema. -/
def simple (s : Schema) : Schema := withSimpleType (simpleKeywords s)

end Schema

end ApiDoc
