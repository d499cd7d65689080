import ApiDoc.Router.Basic
import ApiDoc.Schema.NodeWriter

/-!
# Writing the parts of routers

Each part is written as the mapping of the fields that are set, in the order of their declaration.
-/

namespace ApiDoc

/-- A list as an entry, unless it is empty. -/
def listEntry (name : String) {α : Type} (write : α → Value) (items : List α) :
    List (String × Value) :=
  if items.isEmpty then [] else [(name, .listOf (items.map write))]

/-- A mapping as an entry, unless it is empty. -/
def mapEntry (name : String) {α : Type} (write : α → Value) (items : List (String × α)) :
    List (String × Value) :=
  if items.isEmpty then [] else [(name, .object (items.map fun (k, a) => (k, write a)))]

/-- A truth value as an entry, unless it is false. -/
def flagEntry (name : String) (b : Bool) : List (String × Value) :=
  if b then [(name, .bool true)] else []

/-- The information about a route. -/
def RouteInfo.write (i : RouteInfo) : Value :=
  .object (optionalEntry "summary" .str i.summary ++ optionalEntry "description" .str i.description
    ++ listEntry "tags" .str i.tags ++ optionalEntry "operation_id" .str i.operationId
    ++ optionalEntry "deprecated" .bool i.deprecated ++ flagEntry "ignore" i.ignore)

def Output.write (o : Output) : Value :=
  .object (optionalEntry "body" Node.write o.body ++ optionalEntry "ref" .str o.ref
    ++ optionalEntry "description" .str o.description ++
    optionalEntry "headers" Node.write o.headers)

/-- What a request has to look like. -/
def RequestSpec.write (r : RequestSpec) : Value :=
  .object (optionalEntry "type" (fun t => .str t.name) r.contentType ++
    optionalEntry "body" Node.write r.body
    ++ optionalEntry "query" Node.write r.query ++ optionalEntry "params" Node.write r.params
    ++ optionalEntry "headers" Node.write r.headers ++ optionalEntry "ref" .str r.ref
    ++ mapEntry "output" Output.write r.output)

/-- Whether the information about a route is all left out. -/
def RouteInfo.isDefault (i : RouteInfo) : Bool := i == {}

def RouteRecord.write (r : RouteRecord) : Value :=
  .object ([("method", .listOf (r.methods.map fun m => .str m.name)), ("path", .str r.path)]
    ++ (if r.info.isDefault then [] else [("meta", r.info.write)])
    ++ optionalEntry "validate_" RequestSpec.write r.request ++
      mapEntry "output" Output.write r.output)

def Router.write (r : Router) : Value :=
  .object (optionalEntry "prefix" .str r.mount ++ listEntry "routes" RouteRecord.write r.records)

end ApiDoc
