import ApiDoc.Proofs.Schema.Masked
import ApiDoc.Proofs.Work

/-!
# Operations without their data

The data of a route is that of its nodes, and the data of an operation is that of its schemas. A
route without its data gives the operation without its data, and all that happens on the way to it
is the same.

Everything here is an equation between two pieces of work, so it speaks of results, of failures and
of what is left in the session at the same time.

Main statement: `Work.operation_masked`.
-/

namespace ApiDoc

/-- A declared response without its data. -/
def Output.masked (o : Output) : Output :=
  { o with body := o.body.map Node.masked, headers := o.headers.map Node.masked }

def RequestSpec.masked (r : RequestSpec) : RequestSpec :=
  { r with
    body := r.body.map Node.masked
    query := r.query.map Node.masked
    params := r.params.map Node.masked
    headers := r.headers.map Node.masked
    output := mapNamed Output.masked r.output }

def Route.masked (r : Route) : Route :=
  { r with
    request := r.request.map RequestSpec.masked
    outputs := mapNamed Output.masked r.outputs }

def Parameter.masked : Parameter → Parameter
  | simple name location required schema => simple name location required schema.masked
  | body schema => body schema.masked

def Response.masked (r : Response) : Response :=
  { r with schema := r.schema.map Schema.masked, headers := r.headers.map (mapNamed Schema.masked) }

def Operation.masked (o : Operation) : Operation :=
  { o with
    parameters := o.parameters.map Parameter.masked
    responses := mapNamed Response.masked o.responses }

namespace Work

variable {α β : Type}

/-! ## Schemas -/

theorem ofTranslation_map (f : α → β) (t : Translation α) :
    ofTranslation (f <$> t) = f <$> ofTranslation t := by
  obtain ⟨refs, e | a⟩ := t
  · unfold ofTranslation
    rw [map_bind]
    rfl
  · unfold ofTranslation
    rw [map_bind]
    show (refs ++ []).forM record >>= _ = _
    rw [List.append_nil]
    rfl

theorem inline_masked (n : Option Node) :
    inline (n.map Node.masked) = Schema.masked <$> inline n := by
  cases n with
  | none => rfl
  | some n => rw [Option.map_some, inline, inline, Node.inline_masked, ofTranslation_map]

theorem resolve_masked (n : Option Node) (ref : Option String) :
    resolve (n.map Node.masked) ref = Schema.masked <$> resolve n ref := by
  have hreference (r : String) : (record r >>= fun _ => pure (referenceTo r) : Work Schema) =
      Schema.masked <$> (record r >>= fun _ => pure (referenceTo r)) :=
    bind_hom_left _ fun _ => by rw [map_pure, Node.masked_referenceTo]
  cases n with
  | none =>
    unfold resolve
    cases ref with
    | none => rfl
    | some r =>
      dsimp only
      split
      · rfl
      · exact hreference r
  | some n =>
    have htranslated : ofTranslation (n.masked.translate referenceTo) =
        Schema.masked <$> ofTranslation (n.translate referenceTo) := by
      rw [Node.translate_masked, ofTranslation_map]
    unfold resolve
    cases ref with
    | none => exact htranslated
    | some r =>
      dsimp only
      split
      · exact htranslated
      · exact hreference r

/-! ## Parameters -/

theorem parts_masked (n : Node) : parts n.masked = mapNamed Node.masked (parts n) := by
  unfold parts
  rw [Node.properties_masked]
  cases n.properties <;> rfl

/-- A loop over the parts of a node gives other results when every round does. -/
theorem mapM_parts_masked {f : String × Node → Work α} {f' : String × Node → Work β} {h : α → β}
    (n : Node) (hround : ∀ name part, f' (name, part.masked) = h <$> f (name, part)) :
    (parts n.masked).mapM f' = List.map h <$> (parts n).mapM f := by
  rw [parts_masked, mapM_mapNamed]
  exact mapM_hom fun e => hround e.1 e.2

theorem declaredParameters_masked (location : Location) (n : Option Node) :
    declaredParameters location (n.map Node.masked) =
      List.map Parameter.masked <$> declaredParameters location n := by
  cases n with
  | none => rfl
  | some n =>
    refine mapM_parts_masked n fun name part => bind_hom (inline_masked (some part)) fun schema =>
      ?_
    rw [map_pure, Parameter.masked, Node.required_masked, Schema.simple_masked]

theorem undeclaredParameters_masked (declared : List Parameter) (path : String) :
    undeclaredParameters (declared.map Parameter.masked) path =
      (undeclaredParameters declared path).map Parameter.masked := by
  unfold undeclaredParameters
  dsimp only
  -- The names that are declared in the path do not depend on data.
  generalize hmasked : List.filterMap _ (declared.map Parameter.masked) = names
  generalize hdeclared : List.filterMap _ declared = names'
  have hnames : names = names' := by
    rw [← hmasked, ← hdeclared, List.filterMap_map]
    congr 1
    funext p
    cases p with
    | simple name location => cases location <;> rfl
    | body => rfl
  rw [hnames, List.map_filterMap]
  congr 1
  funext name
  split <;> rfl

theorem parameters_masked (r : Route) (path : String) :
    parameters r.masked path = List.map Parameter.masked <$> parameters r path := by
  have hnode (part : RequestSpec → Option Node)
      (hpart : ∀ q, part q.masked = (part q).map Node.masked) :
      r.masked.request.bind part = (r.request.bind part).map Node.masked := by
    unfold Route.masked
    cases r.request with
    | none => rfl
    | some q => exact hpart q
  unfold parameters
  rw [hnode (·.params) fun _ => rfl, hnode (·.query) fun _ => rfl, hnode (·.headers) fun _ => rfl]
  refine bind_hom (declaredParameters_masked .path _) fun inPath =>
    bind_hom (declaredParameters_masked .query _) fun inQuery =>
    bind_hom (declaredParameters_masked .header _) fun inHeader => ?_
  dsimp only
  rw [← List.map_append, ← List.map_append, undeclaredParameters_masked, ← List.map_append]
  -- Without a body there is nothing left to compare.
  cases hrequest : r.request with
  | none =>
    rw [Route.masked, hrequest]
    exact (map_pure _ _).symm
  | some q =>
    obtain ⟨contentType, body, query, params, headers, ref, output⟩ := q
    rw [Route.masked, hrequest]
    cases body with
    | none => exact (map_pure _ _).symm
    | some body =>
      refine bind_hom (resolve_masked (some body) ref) fun schema => ?_
      simp only [map_pure, List.map_append, List.map_cons, List.map_nil, Parameter.masked]

/-! ## Responses -/

theorem responseSchema_masked (o : Output) :
    responseSchema o.masked = Option.map Schema.masked <$> responseSchema o := by
  obtain ⟨body, ref, description, headers⟩ := o
  unfold responseSchema Output.masked
  cases body with
  | some body =>
    dsimp only
    rw [Option.map_some]
    dsimp only
    rw [← Option.map_some, resolve_masked, Functor.map_map, Functor.map_map]
    rfl
  | none =>
    dsimp only
    rw [Option.map_none]
    cases ref with
    | none => rfl
    | some r =>
      dsimp only
      split
      · rfl
      · have hreference : resolve none (some r) = Schema.masked <$> resolve none (some r) :=
          resolve_masked none (some r)
        conv_lhs => rw [hreference]
        rw [Functor.map_map, Functor.map_map]
        rfl

theorem responseHeaders_masked (o : Output) :
    responseHeaders o.masked = Option.map (mapNamed Schema.masked) <$> responseHeaders o := by
  obtain ⟨body, ref, description, headers⟩ := o
  unfold responseHeaders Output.masked
  cases headers with
  | none => rfl
  | some n =>
    have hheaders : ((parts n.masked).mapM fun e => do return (e.1, (← inline (some e.2)).simple)) =
        mapNamed Schema.masked <$>
          (parts n).mapM fun e => do return (e.1, (← inline (some e.2)).simple) := by
      refine mapM_parts_masked n fun name part => bind_hom (inline_masked (some part)) fun schema =>
        ?_
      rw [map_pure, Schema.simple_masked]
    refine (congrArg (some <$> ·) hheaders).trans ?_
    dsimp only
    rw [Functor.map_map, Functor.map_map]
    rfl

theorem response_masked (status : String) (o : Output) :
    response status o.masked = Response.masked <$> response status o :=
  bind_hom (responseSchema_masked o) fun _ => bind_hom (responseHeaders_masked o) fun _ =>
    (map_pure _ _).symm

theorem putResponse_masked (responses : List (String × Response)) (status : String) (o : Output) :
    (response status o.masked >>= fun r =>
      pure (putNamed status r (mapNamed Response.masked responses))) =
      mapNamed Response.masked <$>
        (response status o >>= fun r => pure (putNamed status r responses)) :=
  bind_hom (response_masked status o) fun r => by rw [map_pure, putNamed_mapNamed]

theorem addDeclared_masked (responses : List (String × Response)) (declared : String × Output) :
    addDeclared (mapNamed Response.masked responses) (declared.1, declared.2.masked) =
      mapNamed Response.masked <$> addDeclared responses declared :=
  bind_hom_left _ fun _ => foldlM_hom fun rs status => putResponse_masked rs status declared.2

theorem addDefault_masked (responses : List (String × Response)) (default : String × Output) :
    addDefault (mapNamed Response.masked responses) (default.1, default.2.masked) =
      mapNamed Response.masked <$> addDefault responses default := by
  refine bind_hom_left _ fun _ => foldlM_hom fun rs status => ?_
  rw [getNamed?_mapNamed, Option.isSome_map]
  split
  · rw [map_pure]
  · exact putResponse_masked rs status default.2

theorem responses_masked (defaults : List (String × Output)) (r : Route) :
    responses (mapNamed Output.masked defaults) r.masked =
      mapNamed Response.masked <$> responses defaults r := by
  have hdeclared : (mapNamed Output.masked r.outputs).foldlM addDeclared [] =
      mapNamed Response.masked <$> r.outputs.foldlM addDeclared [] := by
    rw [foldlM_mapNamed, ← mapNamed_nil Response.masked]
    exact foldlM_hom addDeclared_masked
  refine bind_hom hdeclared fun rs => ?_
  rw [foldlM_mapNamed]
  exact foldlM_hom addDefault_masked

/-! ## Operations -/

/-- **An operation without data** is made of a route and of default responses without their data, by
the same work. -/
theorem operation_masked (defaults : List (String × Output)) (r : Route) :
    operation (mapNamed Output.masked defaults) r.masked =
      Operation.masked <$> operation defaults r := by
  have hpath : r.masked.fullPath = r.fullPath := rfl
  have htype : r.masked.request.bind (·.contentType) = r.request.bind (·.contentType) := by
    unfold Route.masked
    cases r.request <;> rfl
  unfold operation
  dsimp only
  rw [hpath, htype]
  refine bind_hom (parameters_masked r r.fullPath) fun ps =>
    bind_hom (responses_masked defaults r) fun rs =>
    bind_hom_left _ fun _ => ?_
  rw [map_pure]
  rfl

end Work

end ApiDoc
