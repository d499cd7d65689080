import ApiDoc.Error
import ApiDoc.Operation.Basic
import ApiDoc.Notice
import ApiDoc.Operation.Status
import ApiDoc.Router.Collection
import ApiDoc.Schema.Reference
import ApiDoc.Schema.Simple

/-!
# Assembling operations

An operation is assembled from a route. The work records the references it makes in a registry and
reports what it does; what was recorded before a failure stays recorded.

**Parameters** come from the path, the query and the headers as declared, then from the path itself
for the names that are not declared, and last from the body.

**Responses** are those of the route in order; a later one takes the place of an earlier one of the
same status. Default responses fill in the statuses that are still missing.
-/

namespace ApiDoc

/-- The state of the work on a document. -/
structure Session where
  registry : Registry := {}
  notices : List Notice := []

/-- Work on a document: it can fail, and what it did until then stays. -/
abbrev Work := ExceptT Error (StateM Session)

namespace Work

/-- Reports something. -/
def notify (n : Notice) : Work Unit := modify fun s => { s with notices := s.notices ++ [n] }

/-- Records a reference, and reports it when its pointer is new. -/
def record (ref : String) : Work Unit := modify fun s =>
  let notices :=
    if s.registry.isNew (pointerTo ref) then s.notices ++ [.recorded (pointerTo ref)] else s.notices
  { registry := s.registry.record ref, notices }

/-- Records the references of a translation and goes on with its outcome. -/
def ofTranslation {α : Type} (t : Translation α) : Work α := do
  t.refs.forM record
  match t.result with
  | .ok a => return a
  | .error e => throw (.translation e)

/-- The schema that a node stands for, whether it has a tag or not. -/
def inline (node : Option Node) : Work Schema :=
  match node with
  | some n => ofTranslation (n.inline referenceTo)
  | none => throw (.fault (.noPart "NoneType" "kind"))

/-- The schema for a node: a reference when a definition is given, or else its translation. -/
def resolve (node : Option Node) (ref : Option String) : Work Schema :=
  let translated : Work Schema :=
    match node with
    | some n => ofTranslation (n.translate referenceTo)
    | none => throw (.fault (.noPart "NoneType" "ref"))
  match ref with
  | some r =>
    -- An empty reference counts as none.
    if r.isEmpty then translated
    else do
      record r
      return referenceTo r
  | none => translated

/-! ## Parameters -/

/-- The parts of a node, in order. -/
def parts (n : Node) : List (String × Node) := n.properties.getD []

/-- The parameters that the parts of a node declare. -/
def declaredParameters (location : Location) (node : Option Node) : Work (List Parameter) :=
  match node with
  | none => pure []
  | some n => (parts n).mapM fun (name, part) => do
    let schema ← inline (some part)
    return .simple name location (part.required || location = .path) schema.simple

/-- The parameters of the path that are not declared. -/
def undeclaredParameters (declared : List Parameter) (path : String) : List Parameter :=
  let names := declared.filterMap fun
    | .simple name .path .. => some name
    | _ => none
  (Path.templateNames path).filterMap fun name =>
    if name ∈ names then none else some (.simple name .path true [.type .string])

/-- The parameters of a route with a full path. -/
def parameters (r : Route) (path : String) : Work (List Parameter) := do
  let inPath ← declaredParameters .path (r.request.bind (·.params))
  let inQuery ← declaredParameters .query (r.request.bind (·.query))
  let inHeader ← declaredParameters .header (r.request.bind (·.headers))
  let declared := inPath ++ inQuery ++ inHeader
  let simple := declared ++ undeclaredParameters declared path
  match r.request with
  | some { body := some body, ref, .. } =>
    return simple ++ [.body (← resolve (some body) ref)]
  | _ => return simple

/-! ## Responses -/

def statuses (key : String) : Work (List String) :=
  match Status.expand key with
  | .ok ss => pure ss
  | .error s => throw (.badStatus s)

/-- The text about a response: its description unless that is empty, or else the phrase. -/
def responseText (status : String) (o : Output) : String :=
  match o.description with
  | some d => if d.isEmpty then Status.phrase status else d
  | none => Status.phrase status

/-- The schema of a response, if it has a body or refers to a definition. -/
def responseSchema (o : Output) : Work (Option Schema) :=
  match o.body, o.ref with
  | some body, ref => some <$> resolve (some body) ref
  | none, some r => if r.isEmpty then pure none else some <$> resolve none (some r)
  | none, none => pure none

/-- The headers of a response, if they are declared. -/
def responseHeaders (o : Output) : Work (Option (List (String × Schema))) :=
  match o.headers with
  | none => pure none
  | some n => some <$> (parts n).mapM fun (name, part) => do
    return (name, (← inline (some part)).simple)

def response (status : String) (o : Output) : Work Response := do
  let schema ← responseSchema o
  let headers ← responseHeaders o
  return { description := responseText status o, schema, headers }

/-- Sets the responses for the statuses of a key. -/
def addDeclared (responses : List (String × Response)) (declared : String × Output) :
    Work (List (String × Response)) := do
  (← statuses declared.1).foldlM (fun rs status => do
    return putNamed status (← response status declared.2) rs) responses

/-- Sets the responses for those statuses of a key that have none yet. -/
def addDefault (responses : List (String × Response)) (default : String × Output) :
    Work (List (String × Response)) := do
  (← statuses default.1).foldlM (fun rs status => do
    if (getNamed? status rs).isSome then return rs
    else return putNamed status (← response status default.2) rs) responses

def responses (defaults : List (String × Output)) (r : Route) :
    Work (List (String × Response)) := do
  defaults.foldlM addDefault (← r.outputs.foldlM addDeclared [])

/-! ## Operations -/

def operation (defaults : List (String × Output)) (r : Route) : Work Operation := do
  let path := r.fullPath
  let parameters ← parameters r path
  let responses ← responses defaults r
  notify (.assembled r.method path)
  return { info := r.info, consumes := r.request.bind (·.contentType), parameters, responses }

end Work

end ApiDoc
