import ApiDoc.Router.Basic
import ApiDoc.Schema.Basic

/-!
# Operations

An operation is what a document says about one method of a path: its parameters and its responses.
-/

namespace ApiDoc

/-- Where a parameter outside of the body stands. -/
inductive Location where
  | path
  | query
  | header
  deriving DecidableEq, Repr

def Location.name : Location → String
  | path => "path"
  | query => "query"
  | header => "header"

/-- A parameter of an operation. -/
inductive Parameter where
  | simple (name : String) (location : Location) (required : Bool) (schema : Schema)
  | body (schema : Schema)

namespace Parameter

/-- The name of a parameter; the body has one too. -/
def name : Parameter → String
  | simple name .. => name
  | body _ => "body"

/-- The name of the place that a parameter stands in. -/
def locationName : Parameter → String
  | simple _ location .. => location.name
  | body _ => "body"

/-- A parameter at a place of a document. -/
def toValueAt (at_ : Place) : Parameter → Value
  | simple name location required schema =>
    .map .none ([(.str "name", .str name), (.str "in", .str location.name),
      (.str "required", .bool required)] ++ schema.flatEntries at_)
  | body schema =>
    .object [("name", .str "body"), ("in", .str "body"), ("required", .bool true),
      ("schema", schema.toValueAt ("schema" :: at_))]

end Parameter

/-- A response of an operation. -/
structure Response where
  description : String
  schema : Option Schema := none
  headers : Option (List (String × Schema)) := none

/-- A response at a place of a document. -/
def Response.toValueAt (at_ : Place) (r : Response) : Value :=
  let schema := match r.schema with
    | some s => [("schema", s.toValueAt ("schema" :: at_))]
    | none => []
  let headers := match r.headers with
    | some hs =>
      [("headers", Value.object (hs.map fun (name, s) => (name, s.flatValueAt (name :: at_))))]
    | none => []
  .object ([("description", .str r.description)] ++ schema ++ headers)

/-- What a document says about one method of a path. -/
structure Operation where
  info : RouteInfo
  consumes : Option ContentType
  parameters : List Parameter
  /-- The responses by their status, in order. -/
  responses : List (String × Response)

namespace Operation

/-- The parameters from position `n` on. -/
def parameterValues (at_ : Place) (n : Nat) : List Parameter → List Value
  | [] => []
  | p :: ps => p.toValueAt (toString n :: at_) :: parameterValues at_ (n + 1) ps

/-- An entry for a text that may be absent. -/
def textEntry (name : String) (text : Option String) : List (String × Value) :=
  match text with
  | some s => [(name, .str s)]
  | none => []

/-- An operation at a place of a document. -/
def toValueAt (at_ : Place) (o : Operation) : Value :=
  let deprecated := match o.info.deprecated with
    | some b => [("deprecated", Value.bool b)]
    | none => []
  let consumes := match o.consumes with
    | some t => [("consumes", Value.strings [t.mediaType])]
    | none => []
  .object (
    (if o.info.tags.isEmpty then [] else [("tags", .strings o.info.tags)])
    ++ textEntry "summary" o.info.summary
    ++ textEntry "description" o.info.description
    ++ textEntry "operationId" o.info.operationId
    ++ deprecated
    ++ consumes
    ++ [("parameters", .listOf (parameterValues ("parameters" :: at_) 0 o.parameters)),
      ("responses", .object (o.responses.map fun (status, r) =>
        (status, r.toValueAt (status :: "responses" :: at_))))])

/-- An operation as a value of its own. -/
def toValue (o : Operation) : Value := o.toValueAt []

end Operation

end ApiDoc
