import ApiDoc.Document.Config
import ApiDoc.Document.References
import ApiDoc.Operation.Assembly

/-!
# Building documents

A document is built from routes and a configuration. The definitions are translated first, then the
routes in order. Of several routes with the same path and method the last one counts. The tags of
the routes are added to the configured ones. At the end every reference has to have its definition.
-/

namespace ApiDoc

/-- A finished document. -/
structure Document where
  swagger : String
  info : List (String × Value)
  basePath : String
  /-- The operations by path and method, in order. -/
  paths : List (String × List (String × Operation))
  definitions : List (String × Schema)
  tags : List (List (String × Value))
  extra : List (String × Value)

namespace Document

/-- The fields that every document has. -/
def fields (d : Document) : List (String × Value) :=
  [("swagger", .str d.swagger), ("info", .object d.info), ("basePath", .str d.basePath),
    ("paths", .object (d.paths.map fun (path, methods) =>
      (path, .object (methods.map fun (method, o) =>
        (method, o.toValueAt [method, path, "paths"]))))),
    ("definitions", .object (d.definitions.map fun (name, s) =>
      (name, s.toValueAt [name, "definitions"]))),
    ("tags", .listOf (d.tags.map .object))]

/-- A document as a value. Further fields do not replace those that every document has. -/
def toValue (d : Document) : Value :=
  .object (d.extra.foldl (fun es (key, v) =>
    if (getNamed? key es).isSome then es else es ++ [(key, v)]) d.fields)

end Document

namespace Work

/-- The definitions of a configuration, translated. -/
def definitions (config : DocumentConfig) : Work (List (String × Schema)) :=
  config.definitions.mapM fun (name, n) => do
    return (name, ← inline (some n))

/-- What is known of the paths of a document while its routes are added. -/
structure Paths where
  paths : List (String × List (String × Operation)) := []
  /-- The tags of the routes so far, in order. -/
  tags : List String := []

def addRoute (defaults : List (String × Output)) (known : Paths) (r : Route) : Work Paths := do
  let operation ← operation defaults r
  let path := r.fullPath
  let methods := (getNamed? path known.paths).getD []
  -- The new operation takes the place of the old one all the same.
  if (getNamed? r.method.name methods).isSome then notify (.duplicate r.method path)
  return {
    paths := putNamed path (putNamed r.method.name operation methods) known.paths
    tags := known.tags ++ operation.info.tags }

/-- The type of the first container in a value that cannot be compared as a name. -/
def unhashable? : Value → Option String
  | .tuple _ vs => inItems vs
  | .list .. | .again _ false => some "list"
  | .set .. => some "set"
  | .map .. | .again _ true => some "dict"
  | _ => none
where
  /-- The first one among items. -/
  inItems : List Value → Option String
    | [] => none
    | v :: vs => (unhashable? v).or (inItems vs)

/-- The name of a configured tag. -/
def tagName (tag : List (String × Value)) : Except Fault Value :=
  let name := (getNamed? "name" tag).getD .null
  match unhashable? name with
  | some t => .error (.unhashable t)
  | none => .ok name

/-- The names that are neither known nor repeated, in order. -/
def newNames (known : List Value) : List String → List String
  | [] => []
  | name :: names =>
    if known.any (·.sameKey (.str name)) then newNames known names
    else name :: newNames (.str name :: known) names

/-- The configured tags, and after them those tags of routes that are new. -/
def mergeTags (configured : List (List (String × Value))) (used : List String) :
    Except Fault (List (List (String × Value))) := do
  let known ← configured.mapM tagName
  return configured ++ (newNames known used).map fun name => [("name", .str name)]

/-- A result that may be a fault. -/
def ofExcept {α : Type} (r : Except Fault α) : Work α :=
  match r with
  | .ok a => pure a
  | .error f => throw (.fault f)

/-- Puts a document together from routes, before anybody looks at its references. -/
def draft (config : DocumentConfig) (options : Options) (routes : List Route) : Work Document := do
  let definitions ← definitions config
  let known ← routes.foldlM (addRoute options.effectiveResponses) {}
  let tags ← ofExcept (mergeTags config.tags known.tags)
  return {
    swagger := config.swagger, info := config.info, basePath := config.basePath
    paths := known.paths, definitions, tags, extra := config.extra }

/-- Makes sure that the references of a document, and all that were recorded, have definitions. -/
def checkReferences (d : Document) : Work Unit := do
  let session ← get
  match References.check d.toValue session.registry.pointers with
  | .ok () => pure ()
  | .error e => throw e

/-- Builds a document from routes. -/
def document (config : DocumentConfig) (options : Options) (routes : List Route) :
    Work Document := do
  let d ← draft config options routes
  checkReferences d
  notify (.built d.paths.length d.definitions.length)
  return d

end Work

end ApiDoc
