import ApiDoc.Proofs.Named
import ApiDoc.Proofs.Schema.Shape
import ApiDoc.Proofs.Work

/-!
# What an operation refers to

All work on an operation is steady (`Work.steady_operation`), and all references in the schemas of
an operation are to pointers that are recorded when the operation is done (`Work.among_operation`).
The first fact is what makes the second one simple: a pointer that is recorded for one part stays
recorded while the other parts are made.
-/

namespace ApiDoc

def Parameter.schema : Parameter → Schema
  | simple _ _ _ s | body s => s

/-- The schemas of a response: that of its body and those of its headers. -/
def Response.schemas (r : Response) : List Schema :=
  r.schema.toList ++ (r.headers.getD []).map (·.2)

def Operation.schemas (o : Operation) : List Schema :=
  o.parameters.map (·.schema) ++ o.responses.flatMap (·.2.schemas)

/-- A route has no body unless it has a request with one. -/
theorem Route.body_eq_none (r : Route)
    (hnone : ∀ contentType body query params headers ref output,
      r.request = some ⟨contentType, some body, query, params, headers, ref, output⟩ → False) :
    r.request.bind (·.body) = none := by
  cases hrequest : r.request with
  | none => rfl
  | some request =>
    obtain ⟨contentType, body, query, params, headers, ref, output⟩ := request
    cases body with
    | none => rfl
    | some body => exact absurd hrequest (hnone _ _ _ _ _ _ _)

namespace Work

variable {s s' : Session}

/-! ## Steadiness -/

theorem steady_recordAll (refs : List String) : Steady (refs.forM record) := by
  induction refs with
  | nil => exact .pure ()
  | cons r refs ih => exact (Steady.record r).bind fun _ => ih

theorem steady_ofTranslation {α : Type} (t : Translation α) : Steady (ofTranslation t) := by
  refine (steady_recordAll t.refs).bind fun _ => ?_
  cases t.result with
  | ok a => exact .pure a
  | error e => exact .throw _

theorem steady_inline (node : Option Node) : Steady (inline node) := by
  cases node with
  | some n => exact steady_ofTranslation _
  | none => exact .throw _

theorem steady_resolve (node : Option Node) (ref : Option String) : Steady (resolve node ref) := by
  unfold resolve
  cases ref with
  | none =>
    cases node with
    | none => exact .throw _
    | some n => exact steady_ofTranslation _
  | some r =>
    dsimp only
    split
    · cases node with
      | none => exact .throw _
      | some n => exact steady_ofTranslation _
    · exact (Steady.record r).bind fun _ => .pure _

theorem steady_declaredParameters (location : Location) (node : Option Node) :
    Steady (declaredParameters location node) := by
  cases node with
  | none => exact .pure []
  | some n => exact .mapM (fun _ => (steady_inline _).bind fun _ => .pure _) _

theorem steady_parameters (r : Route) (path : String) : Steady (parameters r path) := by
  refine (steady_declaredParameters _ _).bind fun _ => (steady_declaredParameters _ _).bind fun _ =>
    (steady_declaredParameters _ _).bind fun _ => ?_
  split
  · exact (steady_resolve _ _).bind fun _ => .pure _
  · exact .pure _

theorem steady_statuses (key : String) : Steady (statuses key) := by
  unfold statuses
  split
  · exact .pure _
  · exact .throw _

theorem steady_responseSchema (o : Output) : Steady (responseSchema o) := by
  unfold responseSchema
  split
  · exact (steady_resolve _ _).map _
  · split
    · exact .pure _
    · exact (steady_resolve _ _).map _
  · exact .pure _

theorem steady_responseHeaders (o : Output) : Steady (responseHeaders o) := by
  unfold responseHeaders
  split
  · exact .pure _
  · exact .map _ (.mapM (fun _ => (steady_inline _).bind fun _ => .pure _) _)

theorem steady_response (status : String) (o : Output) : Steady (response status o) :=
  (steady_responseSchema o).bind fun _ => (steady_responseHeaders o).bind fun _ => .pure _

theorem steady_addDeclared (rs : List (String × Response)) (declared : String × Output) :
    Steady (addDeclared rs declared) :=
  (steady_statuses _).bind fun _ =>
    .foldlM (fun _ _ => (steady_response _ _).bind fun _ => .pure _) _ _

theorem steady_addDefault (rs : List (String × Response)) (default : String × Output) :
    Steady (addDefault rs default) := by
  refine (steady_statuses _).bind fun _ => .foldlM (fun rs status => ?_) _ _
  split
  · exact .pure _
  · exact (steady_response _ _).bind fun _ => .pure _

theorem steady_responses (defaults : List (String × Output)) (r : Route) :
    Steady (responses defaults r) :=
  (Steady.foldlM steady_addDeclared _ _).bind fun _ => .foldlM steady_addDefault _ _

theorem steady_operation (defaults : List (String × Output)) (r : Route) :
    Steady (operation defaults r) :=
  (steady_parameters _ _).bind fun _ => (steady_responses _ _).bind fun _ =>
    (Steady.notify rfl).bind fun _ => .pure _

theorem steady_definitions (config : DocumentConfig) : Steady (definitions config) :=
  .mapM (fun _ => (steady_inline _).bind fun _ => .pure _) _

/-! ## Recorded pointers -/

theorem pointers_of_recordAll {refs : List String} {u : Unit} (h : Run (refs.forM record) s u s') :
    refs.map pointerTo ⊆ s'.registry.pointers := by
  induction refs generalizing s with
  | nil => simp
  | cons r refs ih =>
    have hbind : Run (record r >>= fun _ => refs.forM record) s u s' := h
    obtain ⟨_, t, hr, hrest⟩ := run_bind.mp hbind
    obtain rfl : s.apply (.record r) = t := (Prod.mk.inj hr).2
    have hnew : pointerTo r ∈ (s.apply (.record r)).registry.pointers :=
      Registry.mem_record.mpr (.inr rfl)
    rw [List.map_cons]
    exact List.cons_subset.mpr ⟨hrest.pointers_subset (steady_recordAll refs) hnew, ih hrest⟩

theorem run_ofTranslation {α : Type} {t : Translation α} {a : α}
    (h : Run (ofTranslation t) s a s') :
    t = ⟨t.refs, .ok a⟩ ∧ t.refs.map pointerTo ⊆ s'.registry.pointers := by
  obtain ⟨_, t', hrefs, hend⟩ := run_bind.mp h
  obtain ⟨refs, r⟩ := t
  cases r with
  | error e => exact absurd hend not_run_throw
  | ok b =>
    obtain ⟨rfl, rfl⟩ := run_pure.mp hend
    exact ⟨rfl, pointers_of_recordAll hrefs⟩

theorem among_inline {node : Option Node} {schema : Schema} (h : Run (inline node) s schema s') :
    schema.Among s'.registry.pointers := by
  cases node with
  | none => exact absurd h not_run_throw
  | some n =>
    obtain ⟨ht, hsub⟩ := run_ofTranslation h
    exact (Node.among_of_translateTagged ht).subset hsub

theorem among_translated {n : Node} {schema : Schema}
    (h : Run (ofTranslation (n.translate referenceTo)) s schema s') :
    schema.Among s'.registry.pointers := by
  obtain ⟨ht, hsub⟩ := run_ofTranslation h
  exact (Node.among_of_translateTagged ht).subset hsub

theorem among_resolve {node : Option Node} {ref : Option String} {schema : Schema}
    (h : Run (resolve node ref) s schema s') : schema.Among s'.registry.pointers := by
  have htranslated (h : Run (resolve node none) s schema s') :
      schema.Among s'.registry.pointers := by
    cases node with
    | none => exact absurd h not_run_throw
    | some n => exact among_translated h
  cases ref with
  | none => exact htranslated h
  | some r =>
    unfold resolve at h
    dsimp only at h
    split at h
    · exact htranslated h
    · obtain ⟨_, t, hr, hend⟩ := run_bind.mp h
      obtain ⟨rfl, rfl⟩ := run_pure.mp hend
      obtain rfl : s.apply (.record r) = s' := (Prod.mk.inj hr).2
      have hrecorded : pointerTo r ∈ (s.apply (.record r)).registry.pointers :=
        Registry.mem_record.mpr (.inr rfl)
      exact Schema.everywhere_singleton ⟨hrecorded, by simp [Keyword.schemas]⟩

/-! ## Parameters -/

theorem among_declaredParameters {location : Location} {node : Option Node} {ps : List Parameter}
    (h : Run (declaredParameters location node) s ps s') :
    ∀ p ∈ ps, p.schema.Among s'.registry.pointers := by
  cases node with
  | none =>
    obtain ⟨rfl, -⟩ := run_pure.mp h
    simp
  | some n =>
    intro p hp
    unfold declaredParameters at h
    obtain ⟨part, -, t, t', hpart, hsub⟩ :=
      run_of_mem_mapM h (fun _ => (steady_inline _).bind fun _ => .pure _) hp
    obtain ⟨schema, t'', hin, hend⟩ := run_bind.mp hpart
    obtain ⟨rfl, rfl⟩ := run_pure.mp hend
    exact (Schema.among_simple (among_inline hin)).subset hsub

theorem among_undeclaredParameters {declared : List Parameter} {path : String}
    {known : List String} : ∀ p ∈ undeclaredParameters declared path, p.schema.Among known := by
  intro p hp
  obtain ⟨name, -, h⟩ := List.mem_filterMap.mp hp
  split at h
  · simp at h
  · obtain rfl := Option.some.inj h
    exact Schema.everywhere_singleton ⟨trivial, by simp [Keyword.schemas]⟩

/-- The parameters of a route: the declared ones by location, those of the path that are not
declared, and the body if there is one. -/
theorem run_parameters {r : Route} {path : String} {ps : List Parameter}
    (h : Run (parameters r path) s ps s') :
    ∃ inPath t₁ inQuery t₂ inHeader t₃ body,
      Run (declaredParameters .path (r.request.bind (·.params))) s inPath t₁ ∧
      Run (declaredParameters .query (r.request.bind (·.query))) t₁ inQuery t₂ ∧
      Run (declaredParameters .header (r.request.bind (·.headers))) t₂ inHeader t₃ ∧
      ps = inPath ++ inQuery ++ inHeader ++
        undeclaredParameters (inPath ++ inQuery ++ inHeader) path ++ body ∧
      (r.request.bind (·.body) = none ∧ body = [] ∧ s' = t₃ ∨
        ∃ node ref schema, r.request.bind (·.body) = some node ∧ body = [.body schema] ∧
          Run (resolve (some node) ref) t₃ schema s') := by
  obtain ⟨inPath, t₁, hpath, h₁⟩ := run_bind.mp h
  obtain ⟨inQuery, t₂, hquery, h₂⟩ := run_bind.mp h₁
  obtain ⟨inHeader, t₃, hheader, h₃⟩ := run_bind.mp h₂
  dsimp only at h₃
  split at h₃
  · rename_i hrequest
    obtain ⟨schema, t₄, hbody, hend⟩ := run_bind.mp h₃
    obtain ⟨rfl, rfl⟩ := run_pure.mp hend
    refine ⟨inPath, t₁, inQuery, t₂, inHeader, t₃, _, hpath, hquery, hheader, rfl, .inr ?_⟩
    exact ⟨_, _, schema, by rw [hrequest]; rfl, rfl, hbody⟩
  · rename_i hnone
    obtain ⟨rfl, rfl⟩ := run_pure.mp h₃
    refine ⟨inPath, t₁, inQuery, t₂, inHeader, _, [], hpath, hquery, hheader, by simp, .inl ?_⟩
    exact ⟨r.body_eq_none hnone, rfl, rfl⟩

theorem among_parameters {r : Route} {path : String} {ps : List Parameter}
    (h : Run (parameters r path) s ps s') : ∀ p ∈ ps, p.schema.Among s'.registry.pointers := by
  obtain ⟨inPath, t₁, inQuery, t₂, inHeader, t₃, body, hpath, hquery, hheader, rfl, hbody⟩ :=
    run_parameters h
  -- Pointers are only ever added, so a schema stays among the recorded ones.
  have hsub₂ := hquery.pointers_subset (steady_declaredParameters _ _)
  have hsub₃ := hheader.pointers_subset (steady_declaredParameters _ _)
  have hsimple : ∀ p ∈ inPath ++ inQuery ++ inHeader ++
      undeclaredParameters (inPath ++ inQuery ++ inHeader) path,
      p.schema.Among t₃.registry.pointers := by
    simp only [List.forall_mem_append]
    refine ⟨⟨⟨fun p hp => ?_, fun p hp => ?_⟩, fun p hp => ?_⟩, among_undeclaredParameters⟩
    · exact (among_declaredParameters hpath p hp).subset (List.Subset.trans hsub₂ hsub₃)
    · exact (among_declaredParameters hquery p hp).subset hsub₃
    · exact among_declaredParameters hheader p hp
  obtain ⟨-, rfl, rfl⟩ | ⟨node, ref, schema, -, rfl, hresolve⟩ := hbody
  · simpa using hsimple
  · have hsub₄ := hresolve.pointers_subset (steady_resolve _ _)
    intro p hp
    rcases List.mem_append.mp hp with hp | hp
    · exact (hsimple p hp).subset hsub₄
    · rw [List.mem_singleton.mp hp]
      exact among_resolve hresolve

/-! ## Responses -/

theorem among_responseSchema {o : Output} {schema : Option Schema}
    (h : Run (responseSchema o) s schema s') :
    ∀ u ∈ schema, u.Among s'.registry.pointers := by
  have hresolved {node : Option Node} {ref : Option String}
      (h : Run (some <$> resolve node ref) s schema s') :
      ∀ u ∈ schema, u.Among s'.registry.pointers := by
    obtain ⟨u, hu, rfl⟩ := run_map.mp h
    intro v hv
    obtain rfl := Option.some.inj hv
    exact among_resolve hu
  unfold responseSchema at h
  split at h
  · exact hresolved h
  · split at h
    · obtain ⟨rfl, -⟩ := run_pure.mp h
      simp
    · exact hresolved h
  · obtain ⟨rfl, -⟩ := run_pure.mp h
    simp

theorem among_responseHeaders {o : Output} {headers : Option (List (String × Schema))}
    (h : Run (responseHeaders o) s headers s') :
    ∀ e ∈ headers.getD [], e.2.Among s'.registry.pointers := by
  unfold responseHeaders at h
  split at h
  · obtain ⟨rfl, -⟩ := run_pure.mp h
    simp
  · obtain ⟨es, hes, rfl⟩ := run_map.mp h
    intro e he
    obtain ⟨part, -, t, t', hpart, hsub⟩ :=
      run_of_mem_mapM hes (fun _ => (steady_inline _).bind fun _ => .pure _) he
    obtain ⟨u, t'', hu, hend⟩ := run_bind.mp hpart
    obtain ⟨rfl, rfl⟩ := run_pure.mp hend
    exact (Schema.among_simple (among_inline hu)).subset hsub

theorem among_response {status : String} {o : Output} {response : Response}
    (h : Run (Work.response status o) s response s') :
    ∀ u ∈ response.schemas, u.Among s'.registry.pointers := by
  obtain ⟨schema, t, hschema, hrest⟩ := run_bind.mp h
  obtain ⟨headers, t', hheaders, hend⟩ := run_bind.mp hrest
  obtain ⟨rfl, rfl⟩ := run_pure.mp hend
  have hsub := hheaders.pointers_subset (steady_responseHeaders o)
  simp only [Response.schemas, List.forall_mem_append, Option.mem_toList, List.mem_map]
  constructor
  · exact fun u hu => (among_responseSchema hschema u hu).subset hsub
  · rintro u ⟨e, he, rfl⟩
    exact among_responseHeaders hheaders e he

/-- All responses have been made, each for its status, and what was recorded for them still is. -/
def ResponsesMade (rs : List (String × Response)) (s : Session) : Prop :=
  ∀ e ∈ rs, ∃ o t t', Run (response e.1 o) t e.2 t' ∧ t'.registry.pointers ⊆ s.registry.pointers

theorem ResponsesMade.later {rs : List (String × Response)} (h : ResponsesMade rs s)
    (hsub : s.registry.pointers ⊆ s'.registry.pointers) : ResponsesMade rs s' := fun e he => by
  obtain ⟨o, t, t', hmade, hkept⟩ := h e he
  exact ⟨o, t, t', hmade, List.Subset.trans hkept hsub⟩

/-- Setting one more response, whether it may replace another or not. -/
theorem made_putResponse {rs rs' : List (String × Response)} {status : String} {o : Output}
    (h : Run (do return putNamed status (← response status o) rs) s rs' s')
    (hrs : ResponsesMade rs s) : ResponsesMade rs' s' := by
  obtain ⟨r, t, hr, hend⟩ := run_bind.mp h
  obtain ⟨rfl, rfl⟩ := run_pure.mp hend
  intro e he
  rcases mem_putNamed he with rfl | he
  · exact ⟨o, s, _, hr, List.Subset.refl _⟩
  · exact hrs.later (hr.pointers_subset (steady_response status o)) e he

theorem statuses_eq {key : String} {ss : List String} (h : Run (statuses key) s ss s') :
    Status.expand key = .ok ss ∧ s' = s := by
  unfold statuses at h
  split at h
  · rename_i hss
    obtain ⟨rfl, rfl⟩ := run_pure.mp h
    exact ⟨hss, rfl⟩
  · exact absurd h not_run_throw

theorem made_addDeclared {rs rs' : List (String × Response)} {declared : String × Output}
    (h : Run (addDeclared rs declared) s rs' s') (hrs : ResponsesMade rs s) :
    ResponsesMade rs' s' := by
  obtain ⟨ss, t, hss, hfold⟩ := run_bind.mp h
  obtain ⟨-, rfl⟩ := statuses_eq hss
  exact run_foldlM (fun _ => ResponsesMade) (fun _ _ _ _ _ _ hc hx => made_putResponse hx hc)
    hrs hfold

theorem made_addDefault {rs rs' : List (String × Response)} {default : String × Output}
    (h : Run (addDefault rs default) s rs' s') (hrs : ResponsesMade rs s) :
    ResponsesMade rs' s' := by
  obtain ⟨ss, t, hss, hfold⟩ := run_bind.mp h
  obtain ⟨-, rfl⟩ := statuses_eq hss
  refine run_foldlM (fun _ => ResponsesMade) (fun _ status c t c' t' hc hx => ?_) hrs hfold
  split at hx
  · obtain ⟨rfl, rfl⟩ := run_pure.mp hx
    exact hc
  · exact made_putResponse hx hc

/-- The responses of a route are the declared ones, and default ones after them. -/
theorem run_responses {defaults : List (String × Output)} {r : Route}
    {rs : List (String × Response)} (h : Run (responses defaults r) s rs s') :
    ∃ declared t, Run (r.outputs.foldlM addDeclared []) s declared t ∧
      Run (defaults.foldlM addDefault declared) t rs s' := run_bind.mp h

theorem made_responses {defaults : List (String × Output)} {r : Route}
    {rs : List (String × Response)} (h : Run (responses defaults r) s rs s') :
    ResponsesMade rs s' := by
  obtain ⟨declared, t, hdeclared, hdefaults⟩ := run_responses h
  have hfirst : ResponsesMade declared t :=
    run_foldlM (fun _ => ResponsesMade) (fun _ _ _ _ _ _ hc hx => made_addDeclared hx hc)
      (by simp [ResponsesMade]) hdeclared
  exact run_foldlM (fun _ => ResponsesMade) (fun _ _ _ _ _ _ hc hx => made_addDefault hx hc)
    hfirst hdefaults

/-! ## Operations and definitions -/

/-- An operation has its parameters assembled first and its responses after them. -/
theorem run_operation {defaults : List (String × Output)} {r : Route} {o : Operation}
    (h : Run (operation defaults r) s o s') :
    ∃ ps t rs t', Run (parameters r r.fullPath) s ps t ∧ Run (responses defaults r) t rs t' ∧
      s' = t'.apply (.notify (.assembled r.method r.fullPath)) ∧
      o = { info := r.info, consumes := r.request.bind (·.contentType), parameters := ps
            responses := rs } := by
  obtain ⟨ps, t, hps, h₁⟩ := run_bind.mp h
  obtain ⟨rs, t', hrs, h₂⟩ := run_bind.mp h₁
  obtain ⟨_, t'', hnotice, hend⟩ := run_bind.mp h₂
  obtain ⟨rfl, rfl⟩ := run_pure.mp hend
  exact ⟨ps, t, rs, t', hps, hrs, (Prod.mk.inj hnotice).2.symm, rfl⟩

/-- **An operation refers only to recorded pointers.** -/
theorem among_operation {defaults : List (String × Output)} {r : Route} {o : Operation}
    (h : Run (operation defaults r) s o s') : ∀ u ∈ o.schemas, u.Among s'.registry.pointers := by
  obtain ⟨ps, t, rs, t', hps, hrs, rfl, rfl⟩ := run_operation h
  have hsub := hrs.pointers_subset (steady_responses defaults r)
  simp only [Operation.schemas, List.forall_mem_append, List.mem_map, List.mem_flatMap]
  constructor
  · rintro u ⟨p, hp, rfl⟩
    exact (among_parameters hps p hp).subset hsub
  · rintro u ⟨e, he, hu⟩
    obtain ⟨output, t, t', hmade, hkept⟩ := made_responses hrs e he
    exact (among_response hmade u hu).subset hkept

theorem among_definitions {config : DocumentConfig} {defs : List (String × Schema)}
    (h : Run (definitions config) s defs s') : ∀ e ∈ defs, e.2.Among s'.registry.pointers := by
  intro e he
  unfold definitions at h
  obtain ⟨part, -, t, t', hpart, hsub⟩ :=
    run_of_mem_mapM h (fun _ => (steady_inline _).bind fun _ => .pure _) he
  obtain ⟨u, t'', hu, hend⟩ := run_bind.mp hpart
  obtain ⟨rfl, rfl⟩ := run_pure.mp hend
  exact (among_inline hu).subset hsub

end Work

end ApiDoc
