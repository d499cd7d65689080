import ApiDoc.Proofs.Operation.Recorded
import ApiDoc.Proofs.Schema.Simple

/-!
# The parameters of a route

What the parameters of an operation say beside their schemas can be told from the route alone
(`Route.heads`): the declared ones by location, then the names in the path that are not declared,
last the body.

Main statement: `Work.heads_of_parameters`. The operation of a route has exactly these parameters,
in this order, and those outside of the body have what is simple in a translated schema.
-/

namespace ApiDoc

namespace Location

theorem name_injective : Function.Injective name := by
  intro l m h
  cases l <;> cases m <;> first | rfl | simp [name] at h

theorem name_ne_body (l : Location) : l.name ≠ "body" := by
  cases l <;> simp [name]

end Location

namespace Parameter

/-- What a parameter says beside its schema. -/
structure Head where
  name : String
  location : String
  required : Bool
  deriving DecidableEq

/-- The head of a parameter. The body is always required. -/
def head : Parameter → Head
  | simple name location required _ => ⟨name, location.name, required⟩
  | body _ => ⟨"body", "body", true⟩

def Head.pathName? (h : Head) : Option String := if h.location = "path" then some h.name else none

end Parameter

open Parameter (Head)

/-- What a request declares for a location. -/
def RequestSpec.node? (request : RequestSpec) : Location → Option Node
  | .path => request.params
  | .query => request.query
  | .header => request.headers

namespace Route

/-- The parts that a route declares for a location, in order. -/
def declared (r : Route) (l : Location) : List (String × Node) :=
  ((r.request.bind (·.node? l)).map Work.parts).getD []

/-- What a declared parameter says: one of the path has to be there. -/
def headOf (l : Location) (part : String × Node) : Head :=
  ⟨part.1, l.name, part.2.required || l = .path⟩

/-- The names in the path of a route that it does not declare, in order. -/
def undeclared (r : Route) : List String :=
  (Path.templateNames r.fullPath).filter (· ∉ (r.declared .path).map (·.1))

/-- What the declared parameters of a route say. -/
def declaredHeads (r : Route) : List Head :=
  [.path, .query, .header].flatMap fun l => (r.declared l).map (headOf l)

/-- What the parameters say that stand for the names in the path that are not declared. -/
def undeclaredHeads (r : Route) : List Head := r.undeclared.map (⟨·, "path", true⟩)

/-- What the parameter of the body says, if there is a body. -/
def bodyHeads (r : Route) : List Head :=
  (r.request.bind (·.body)).toList.map fun _ => ⟨"body", "body", true⟩

/-- What the parameters of a route say beside their schemas. -/
def heads (r : Route) : List Head := r.declaredHeads ++ r.undeclaredHeads ++ r.bodyHeads

end Route

/-- A schema is what is simple in a translated one. -/
def Schema.IsFlat (s : Schema) : Prop := ∃ u known, Schema.Shape known u ∧ s = u.simple

namespace Work

variable {s s' : Session}

/-! ## Declared parameters -/

theorem shape_of_inline {node : Option Node} {schema : Schema} (h : Run (inline node) s schema s') :
    ∃ known, schema.Shape known := by
  cases node with
  | none => exact absurd h not_run_throw
  | some n => exact ⟨_, Node.shape_of_translateTagged (run_ofTranslation h).1⟩

theorem run_declaredParameters {l : Location} {node : Option Node} {ps : List Parameter}
    (h : Run (declaredParameters l node) s ps s') :
    ps.map (·.head) = ((node.map parts).getD []).map (Route.headOf l) ∧
      ∀ p ∈ ps, p.schema.IsFlat := by
  cases node with
  | none =>
    obtain ⟨rfl, -⟩ := run_pure.mp h
    simp
  | some n =>
    constructor
    · refine map_eq_of_run_mapM (fun part t p t' hpart => ?_) h
      obtain ⟨schema, t'', -, hend⟩ := run_bind.mp hpart
      obtain ⟨rfl, -⟩ := run_pure.mp hend
      rfl
    · intro p hp
      unfold declaredParameters at h
      obtain ⟨part, -, t, t', hpart, -⟩ :=
        run_of_mem_mapM h (fun _ => (steady_inline _).bind fun _ => .pure _) hp
      obtain ⟨schema, t'', hin, hend⟩ := run_bind.mp hpart
      obtain ⟨rfl, -⟩ := run_pure.mp hend
      obtain ⟨known, hshape⟩ := shape_of_inline hin
      exact ⟨schema, known, hshape, rfl⟩

/-! ## Parameters of the path -/

theorem heads_undeclaredParameters (declared : List Parameter) (path : String) :
    (undeclaredParameters declared path).map (·.head) =
      ((Path.templateNames path).filter
        (· ∉ (declared.map (·.head)).filterMap Head.pathName?)).map (⟨·, "path", true⟩) := by
  unfold undeclaredParameters
  dsimp only
  generalize hdeclared : List.filterMap _ declared = names
  have hnames : names = (declared.map (·.head)).filterMap Head.pathName? := by
    rw [← hdeclared, List.filterMap_map]
    congr 1
    funext p
    cases p with
    | simple name l => cases l <;> rfl
    | body => rfl
  rw [← hnames]
  induction Path.templateNames path with
  | nil => rfl
  | cons name rest ih =>
    by_cases h : name ∈ names
    · simpa [h] using ih
    · simpa [h, Parameter.head, Location.name] using ih

theorem flat_undeclaredParameters {declared : List Parameter} {path : String} :
    ∀ p ∈ undeclaredParameters declared path, p.schema.IsFlat := by
  intro p hp
  obtain ⟨name, -, h⟩ := List.mem_filterMap.mp hp
  split at h
  · cases h
  · obtain rfl := Option.some.inj h
    exact ⟨[], [], .empty, rfl⟩

theorem pathNames_headOf (l : Location) (parts : List (String × Node)) :
    (parts.map (Route.headOf l)).filterMap Head.pathName? =
      if l = .path then parts.map (·.1) else [] := by
  cases l <;>
    simp [List.filterMap_map, Route.headOf, Head.pathName?, Location.name, Function.comp_def]

/-! ## All parameters -/

theorem pathNames_declaredHeads (r : Route) :
    r.declaredHeads.filterMap Head.pathName? = (r.declared .path).map (·.1) := by
  simp only [Route.declaredHeads, List.flatMap_cons, List.flatMap_nil, List.filterMap_append,
    pathNames_headOf]
  simp

/-- **Parameters of a route** say what the route declares, and outside of the body they are flat. -/
theorem heads_of_parameters {r : Route} {ps : List Parameter}
    (h : Run (parameters r r.fullPath) s ps s') :
    ps.map (·.head) = r.heads ∧ ∀ p ∈ ps, p.head.location ≠ "body" → p.schema.IsFlat := by
  obtain ⟨inPath, _, inQuery, _, inHeader, _, body, hpath, hquery, hheader, rfl, hbody⟩ :=
    run_parameters h
  obtain ⟨hpathHeads, hpathFlat⟩ := run_declaredParameters hpath
  obtain ⟨hqueryHeads, hqueryFlat⟩ := run_declaredParameters hquery
  obtain ⟨hheaderHeads, hheaderFlat⟩ := run_declaredParameters hheader
  have hdeclared : (inPath ++ inQuery ++ inHeader).map (·.head) = r.declaredHeads := by
    rw [List.map_append, List.map_append, hpathHeads, hqueryHeads, hheaderHeads]
    simp [Route.declaredHeads, Route.declared, RequestSpec.node?]
  -- A name counts as declared by the head of its parameter, so heads are enough here.
  have hundeclared :
      (undeclaredParameters (inPath ++ inQuery ++ inHeader) r.fullPath).map (·.head) =
      r.undeclaredHeads := by
    rw [heads_undeclaredParameters, hdeclared, pathNames_declaredHeads]
    rfl
  have hbodyHeads : body.map (·.head) = r.bodyHeads ∧ ∀ p ∈ body, p.head.location = "body" := by
    unfold Route.bodyHeads
    obtain ⟨hnone, rfl, -⟩ | ⟨node, ref, schema, hsome, rfl, -⟩ := hbody
    · simp [hnone]
    · simp [hsome, Parameter.head]
  constructor
  · rw [List.map_append, List.map_append, hdeclared, hundeclared, hbodyHeads.1, Route.heads]
  · simp only [List.forall_mem_append]
    refine ⟨⟨⟨⟨?_, ?_⟩, ?_⟩, ?_⟩, fun p hp hne => absurd (hbodyHeads.2 p hp) hne⟩
    · exact fun p hp _ => hpathFlat p hp
    · exact fun p hp _ => hqueryFlat p hp
    · exact fun p hp _ => hheaderFlat p hp
    · exact fun p hp _ => flat_undeclaredParameters p hp

end Work

end ApiDoc
