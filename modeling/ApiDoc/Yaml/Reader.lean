import ApiDoc.Yaml.Construction
import ApiDoc.Yaml.GraphReader

/-!
# Reading values

`Yaml.read` gives the value of a text in YAML 1.1.
-/

namespace ApiDoc.Yaml

/-- The value of a text. A text without a document has no value, which is null. -/
def read (text : List Char) : Except Error Value := do
  match ← readGraph text with
  | none => return .null
  | some (g, root) => g.value root

end ApiDoc.Yaml
