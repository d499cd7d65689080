import ApiDoc.Document.Build

/-!
# Route tables and their documents

The entry point of the library: routers are added to an `Api` one after the other, and documents are
generated from the routes it holds.
-/

namespace ApiDoc

def Router.ofValue (v : Value) : Except Error Router := (Router.read v).toExcept .router

/-- Reads the configuration of a document. -/
def DocumentConfig.ofValue (v : Value) : Except Error DocumentConfig :=
  (DocumentConfig.read v).toExcept .document

def Options.ofValue (v : Value) : Except Error Options := (Options.read v).toExcept .options

/-- The routes collected so far. -/
structure Api where
  routes : List Route := []

namespace Api

/-- Adds the routes of a router that a filter keeps. -/
def addRouter (api : Api) (r : Router) (mount : Option String)
    (keep : RouteRecord → Bool := fun _ => true) : Api :=
  { routes := api.routes ++ r.collect mount keep }

/-- Generates a document from the routes, with the notices of the work. -/
def generate (api : Api) (config : DocumentConfig) (options : Options) :
    Except Error Document × List Notice :=
  let (result, session) := (Work.document config options api.routes).run.run {}
  (result, session.notices)

/-- Generates a document from values. The configuration is read before any route is looked at. -/
def generateFrom (api : Api) (config options : Value) : Except Error Document × List Notice :=
  match DocumentConfig.ofValue config, Options.ofValue options with
  | .error e, _ => (.error e, [])
  | _, .error e => (.error e, [])
  | .ok config, .ok options => api.generate config options

end Api

end ApiDoc
