import ApiDoc.Proofs.Document.Routes
import ApiDoc.Proofs.Document.Tags
import ApiDoc.Proofs.Document.Way

/-!
# Documents from different routes

What is said here relates the documents that two lists of routes give with one configuration.

**Success.** Whether a document is finished depends only on which stops are on the way of its draft:
each of them has to pass on its own (`Api.generate_ok_iff`). How often a stop is made, and when,
does not matter.

**Paths.** The operation of a path and a method is that of the last route there, and is made of this
route alone (`Work.RoundsDone.getNamed?_methodsAt_iff`). So two lists of routes with the same last
routes give the same operations, whatever the order they are found in
(`Work.sameBesidesTags_of_draft`).

The tags depend on the other routes too. They are compared where the lists are known.
-/

namespace ApiDoc

/-! ## Success -/

/-- A pointer leads to a definition of a configuration. -/
def DocumentConfig.Resolves (config : DocumentConfig) (p : String) : Prop :=
  ∃ name, References.target p.toList = .ok name ∧ name ∈ config.definitions.map (·.1)

/-- A stop has no error, and the definition of its reference is there. -/
def Stop.Passes (config : DocumentConfig) (stop : Stop) : Prop :=
  stop.error? = none ∧ ∀ ref ∈ stop.ref?, config.Resolves (pointerTo ref)

theorem Stop.passes_all_iff {config : DocumentConfig} {way : List Stop} :
    (∀ stop ∈ way, stop.Passes config) ↔
      firstError? way = none ∧ ∀ ref ∈ refs way, config.Resolves (pointerTo ref) := by
  simp only [Passes, firstError?_eq_none_iff, refs, List.mem_filterMap, forall_exists_index,
    and_imp]
  constructor
  · exact fun h => ⟨fun stop hstop => (h stop hstop).1, fun ref stop hstop => (h stop hstop).2 ref⟩
  · exact fun h stop hstop => ⟨h.1 stop hstop, fun ref => h.2 ref stop hstop⟩

namespace Work

variable {s s' : Session} {config : DocumentConfig} {options : Options} {routes : List Route}
  {d : Document}

theorem resolves_of_draft_iff (h : Run (draft config options routes) s d s') {p : String} :
    d.Resolves p ↔ config.Resolves p := by
  rw [Document.resolves_iff, names_definitions h]
  rfl

/-- Work that goes a way ends well, with references that lead to definitions, exactly when every
stop passes. -/
theorem Follows.passes_iff {α : Type} {x : Work α} {way : List Stop} (h : x.Follows way) :
    (∃ a t, Run x {} a t ∧ ∀ p ∈ t.registry.pointers, config.Resolves p) ↔
      ∀ stop ∈ way, stop.Passes config := by
  rw [Stop.passes_all_iff]
  cases hfirst : Stop.firstError? way with
  | some e =>
    -- The first error ends the work, so there is no result to speak of.
    obtain ⟨t, ht⟩ := h.fails e hfirst {}
    refine iff_of_false ?_ (by simp)
    rintro ⟨a, t', hrun, -⟩
    cases (Prod.mk.inj (ht.symm.trans hrun)).1
  | none =>
    obtain ⟨a, t, hrun, ht⟩ := h.succeeds hfirst {}
    have hpointers : t.registry.pointers = ((Stop.refs way).map pointerTo).eraseDups := by
      rw [ht, Registry.pointers_recordAll]
    have hall : (∀ p ∈ t.registry.pointers, config.Resolves p) ↔
        ∀ ref ∈ Stop.refs way, config.Resolves (pointerTo ref) := by
      simp [hpointers, List.mem_eraseDups]
    rw [and_iff_right rfl, ← hall]
    constructor
    · rintro ⟨b, t', hrun', hresolved⟩
      obtain ⟨-, rfl⟩ := Prod.mk.inj (hrun.symm.trans hrun')
      exact hresolved
    · exact fun hresolved => ⟨a, t, hrun, hresolved⟩

end Work

namespace Api

variable {config : DocumentConfig} {options : Options} {routes : List Route}

theorem draft_of_result {d : Document} (h : ((Api.mk routes).generate config options).1 = .ok d) :
    ∃ t, Work.Run (Work.draft config options routes) {} d t :=
  have ⟨t, hdraft, _⟩ := draft_of_generate (Prod.ext h rfl)
  ⟨t, hdraft⟩

/-- **A generation succeeds** exactly when every stop on its way passes. -/
theorem generate_ok_iff :
    (∃ d, ((Api.mk routes).generate config options).1 = .ok d) ↔
      ∀ stop ∈ Work.draftWay config options routes, stop.Passes config := by
  rw [← (Work.follows_draft config options routes).passes_iff]
  constructor
  · rintro ⟨d, hd⟩
    obtain ⟨t, hdraft⟩ := draft_of_result hd
    refine ⟨d, t, hdraft, fun p hp => (Work.resolves_of_draft_iff hdraft).mp ?_⟩
    obtain ⟨hresolved, -⟩ | ⟨p, -, -, herror⟩ := generate_of_run hdraft
    · exact hresolved p hp
    · cases hd.symm.trans herror
  · rintro ⟨d, t, hdraft, hresolved⟩
    obtain ⟨-, hd⟩ | ⟨p, hp, hnot, -⟩ := generate_of_run hdraft
    · exact ⟨d, hd⟩
    · exact absurd ((Work.resolves_of_draft_iff hdraft).mpr (hresolved p hp)) hnot

end Api

/-! ## Paths -/

/-- Two documents differ at most in their tags, in the order of their paths and in the order of the
methods of a path. -/
structure Document.SameBesidesTags (d e : Document) : Prop where
  swagger : d.swagger = e.swagger
  info : d.info = e.info
  basePath : d.basePath = e.basePath
  definitions : d.definitions = e.definitions
  extra : d.extra = e.extra
  paths : SameNames List.Perm d.paths e.paths

/-- Two documents differ at most in the order of their paths, of the methods of a path, and of the
tags that follow the configured ones. -/
def Document.SameUpToOrder (configured : List (List (String × Value))) (d e : Document) : Prop :=
  d.SameBesidesTags e ∧ ∃ added added',
    d.tags = configured ++ added ∧ e.tags = configured ++ added' ∧
    added.Perm added'

namespace Route

/-- The path and the method of a route. -/
def place (r : Route) : String × Method := (r.fullPath, r.method)

theorem place_eq_iff {r q : Route} : r.place = q.place ↔ r.IsAt q.fullPath q.method.name := by
  unfold place IsAt
  rw [Prod.mk.injEq]
  exact and_congr_right fun _ => ⟨congrArg Method.name, Method.name_injective⟩

theorem IsAt.place_eq {r q : Route} {path method : String} (hr : r.IsAt path method)
    (hq : q.IsAt path method) : r.place = q.place := by
  obtain ⟨rfl, rfl⟩ := hq
  exact place_eq_iff.mpr hr

theorem IsAt.of_place_eq {r q : Route} {path method : String} (hq : q.IsAt path method)
    (h : r.place = q.place) : r.IsAt path method := by
  obtain ⟨rfl, rfl⟩ := hq
  exact place_eq_iff.mp h

/-- Two lists of routes have the same last route for each path and method. -/
def SameLast (routes routes' : List Route) : Prop :=
  ∀ path method r, IsLast (·.IsAt path method) routes r ↔ IsLast (·.IsAt path method) routes' r

theorem SameLast.exists_at {routes routes' : List Route} (h : SameLast routes routes')
    {path method : String} (hr : ∃ r ∈ routes, r.IsAt path method) :
    ∃ r ∈ routes', r.IsAt path method := by
  obtain ⟨r, hlast⟩ := exists_isLast hr
  have hlast' := (h path method r).mp hlast
  exact ⟨r, hlast'.mem, hlast'.prop⟩

end Route

namespace Work

variable {defaults : List (String × Output)} {done done' routes routes' : List Route}
  {known known' : Paths} {s s' t t' : Session} {config : DocumentConfig} {options : Options}

namespace RoundsDone

theorem nodup_paths (h : RoundsDone defaults done known s) : (known.paths.map (·.1)).Nodup := by
  rw [h.paths]
  exact nodup_eraseDups _

theorem nodup_methods (h : RoundsDone defaults done known s) (path : String) :
    ((known.methodsAt path).map (·.1)).Nodup := by
  rw [h.methods]
  exact nodup_eraseDups _

/-- The operation of a path and a method is what the last route there gives on its own. -/
theorem getNamed?_methodsAt_iff (h : RoundsDone defaults done known s) {path method : String}
    {o : Operation} :
    getNamed? method (known.methodsAt path) = some o ↔
      ∃ r, IsLast (·.IsAt path method) done r ∧ (exec (operation defaults r) {}).1 = .ok o := by
  constructor
  · exact h.operations path method o
  · rintro ⟨r, hlast, ho⟩
    have hthere : method ∈ (known.methodsAt path).map (·.1) := by
      rw [h.methods, List.mem_eraseDups, List.mem_map]
      exact ⟨r, List.mem_filter.mpr ⟨hlast.mem, by simpa using hlast.prop.1⟩, hlast.prop.2⟩
    obtain ⟨u, hu⟩ := Option.isSome_iff_exists.mp (isSome_getNamed?_iff.mpr hthere)
    obtain ⟨q, hlast', hq⟩ := h.operations path method u hu
    rw [hlast'.unique hlast, ho] at hq
    rw [hu, Except.ok.inj hq]

theorem mem_paths_iff (h : RoundsDone defaults done known s) {path : String} :
    path ∈ known.paths.map (·.1) ↔ ∃ method, ∃ r ∈ done, r.IsAt path method := by
  rw [h.paths, List.mem_eraseDups, List.mem_map]
  constructor
  · rintro ⟨r, hr, hpath⟩
    exact ⟨r.method.name, r, hr, hpath, rfl⟩
  · rintro ⟨method, r, hr, hpath, -⟩
    exact ⟨r, hr, hpath⟩

/-- Routes with the same last ones give the same paths and methods. -/
theorem sameNames (h : RoundsDone defaults done known s) (h' : RoundsDone defaults done' known' s')
    (hlast : Route.SameLast done done') : SameNames List.Perm known.paths known'.paths := by
  have hlast' : Route.SameLast done' done := fun path method r => (hlast path method r).symm
  have hmethods (path : String) : (known.methodsAt path).Perm (known'.methodsAt path) := by
    refine perm_of_getNamed? (h.nodup_methods path) (h'.nodup_methods path) fun method => ?_
    refine Option.ext fun o => ?_
    rw [h.getNamed?_methodsAt_iff, h'.getNamed?_methodsAt_iff]
    exact exists_congr fun r => and_congr_left fun _ => hlast path method r
  refine sameNames_of_mem h.nodup_paths h'.nodup_paths (fun path => ?_) fun path v w hv hw => ?_
  · rw [h.mem_paths_iff, h'.mem_paths_iff]
    exact exists_congr fun method => ⟨hlast.exists_at, hlast'.exists_at⟩
  · have hat := hmethods path
    unfold Paths.methodsAt at hat
    rwa [getNamed?_of_mem h.nodup_paths hv, getNamed?_of_mem h'.nodup_paths hw] at hat

end RoundsDone

/-- **Drafts from routes with the same last ones** differ at most in their tags and in the order of
paths and methods. -/
theorem sameBesidesTags_of_draft {d d' : Document} (h : Run (draft config options routes) {} d t)
    (h' : Run (draft config options routes') {} d' t') (hlast : Route.SameLast routes routes') :
    d.SameBesidesTags d' := by
  obtain ⟨known, hpaths, hdone⟩ := roundsDone_of_draft h
  obtain ⟨known', hpaths', hdone'⟩ := roundsDone_of_draft h'
  have hsame := hdone.sameNames hdone' hlast
  rw [← hpaths, ← hpaths'] at hsame
  obtain ⟨defs, u, _, _, hdefs, -, -, rfl⟩ := run_draft h
  obtain ⟨defs', u', _, _, hdefs', -, -, rfl⟩ := run_draft h'
  obtain ⟨heq, -⟩ := Prod.mk.inj (hdefs.symm.trans hdefs')
  exact ⟨rfl, rfl, rfl, Except.ok.inj heq, rfl, hsame⟩

end Work

end ApiDoc
