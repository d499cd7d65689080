import ApiDoc.Notice
import ApiDoc.Router.Basic
import ApiDoc.Router.Path

/-!
# The routes of a router

A record gives one route for each of its methods, unless it is to be ignored or a filter rejects
it. The filter may have effects of its own; it is asked once for every record that is not ignored,
in order.
-/

namespace ApiDoc

namespace RouteRecord

/-- The methods of a record, each once. With GET there is no HEAD: servers answer it by
themselves. -/
def distinctMethods (r : RouteRecord) : List Method :=
  let methods := r.methods.eraseDups
  if .get ∈ methods ∧ .head ∈ methods then methods.erase .head else methods

/-- The responses of a record: those of the route, and over them those of its request. -/
def mergedOutputs (r : RouteRecord) : List (String × Output) :=
  match r.request with
  | none => r.output
  | some request => request.output.foldl (fun out (name, o) => putNamed name o out) r.output

/-- The routes of a record, all below one path. -/
def routes (mount : String) (r : RouteRecord) : List Route :=
  r.distinctMethods.map fun method =>
    { method, path := r.path, mount, info := r.info, request := r.request
      outputs := r.mergedOutputs }

end RouteRecord

namespace Router

/-- The path that the routes are below: the given one, or else the router's own. An empty path
counts as none. -/
def mountWith (given : Option String) (r : Router) : String :=
  match given with
  | some p => if p.isEmpty then r.mount.getD "" else p
  | none => r.mount.getD ""

/-- The routes of records that a filter keeps. -/
def collectFrom {m : Type → Type} [Monad m] (keep : RouteRecord → m Bool) (mount : String) :
    List RouteRecord → m (List Route)
  | [] => pure []
  | r :: rs => do
    if r.info.ignore then collectFrom keep mount rs
    else if ← keep r then
      return r.routes mount ++ (← collectFrom keep mount rs)
    else collectFrom keep mount rs

/-- The routes of a router that a filter with effects keeps. -/
def collectM {m : Type → Type} [Monad m] (given : Option String) (keep : RouteRecord → m Bool)
    (r : Router) : m (List Route) :=
  collectFrom keep (r.mountWith given) r.records

/-- The routes of a router that a filter keeps. -/
def collect (given : Option String) (keep : RouteRecord → Bool) (r : Router) : List Route :=
  (r.collectM (m := Id) given keep).run

/-- What collecting the routes of a router reports. -/
def notices (given : Option String) (r : Router) : List Notice :=
  (r.records.filter (·.info.ignore)).map (fun record => .skipped record.path)
    ++ [.collected (r.collect given fun _ => true).length (r.mountWith given)]

end Router

def Route.fullPath (r : Route) : String := Path.join r.mount r.path

end ApiDoc
