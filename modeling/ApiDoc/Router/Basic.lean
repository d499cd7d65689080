import ApiDoc.Http.Method
import ApiDoc.Schema.Node

/-!
# Routers

A router is what a route table declares: records in order, each of which can serve several methods,
below a common path. A `Route` is one method of one record, ready to become an operation.
-/

namespace ApiDoc

/-- What the documentation of a route says about it. -/
structure RouteInfo where
  summary : Option String := none
  description : Option String := none
  tags : List String := []
  operationId : Option String := none
  deprecated : Option Bool := none
  /-- The route is left out of the document. -/
  ignore : Bool := false
  deriving DecidableEq, Repr

/-- A declared response. -/
structure Output where
  body : Option Node := none
  /-- The definition that stands for the body. -/
  ref : Option String := none
  description : Option String := none
  headers : Option Node := none

/-- What a request has to look like, and the responses declared with it. -/
structure RequestSpec where
  contentType : Option ContentType := none
  body : Option Node := none
  query : Option Node := none
  params : Option Node := none
  headers : Option Node := none
  /-- The definition that stands for the body. -/
  ref : Option String := none
  output : List (String × Output) := []

/-- A route as it is declared. -/
structure RouteRecord where
  methods : List Method
  path : String
  info : RouteInfo := {}
  request : Option RequestSpec := none
  output : List (String × Output) := []

/-- A router: the path its routes are below, and its records in order. -/
structure Router where
  mount : Option String := none
  records : List RouteRecord := []

/-- One method of a record. -/
structure Route where
  method : Method
  path : String
  /-- The path that the route is below. -/
  mount : String := ""
  info : RouteInfo := {}
  request : Option RequestSpec := none
  outputs : List (String × Output) := []

end ApiDoc
