import ApiDoc.Proofs.Router.Ignored
import ApiDoc.RouteFile

/-!
# Paths that routes are below

A router has a path of its own that its routes are below, and another one can be given when they are
collected. A given path that is not empty takes the place of the router's own: collecting is then
the same program for all routers with the same records, whatever they are mounted at
(`Router.collectM_some`), and each route stands at the given path joined with that of its record. An
empty path counts as none is given, so the router's own path counts again (`Router.collectM_empty`).
Routes tell which path they are below, so no routers but those with the same own path, or without
any route that is kept, have the same routes then.

A route file is made of routers, and what it gives is the same as long as each of its routers gives
the same (`RouteFile.SameButMounts`).

Main statement: `Router.collect_some_eq_iff`.
-/

namespace ApiDoc

namespace Router

variable {r r' : Router} {p : String} {keep : RouteRecord → Bool}

theorem mountWith_some (hp : p ≠ "") (r : Router) : r.mountWith (some p) = p := by
  rw [mountWith, if_neg (mt String.isEmpty_iff.mp hp)]

/-- **A given path hides the router's own**: collecting is then made from the records alone. -/
theorem collectM_some {m : Type → Type} [Monad m] (hp : p ≠ "") (r : Router)
    (keep : RouteRecord → m Bool) :
    r.collectM (some p) keep = collectFrom keep p r.records := by
  rw [collectM, mountWith_some hp]

/-- An empty path counts as none. -/
theorem collectM_empty {m : Type → Type} [Monad m] (r : Router) (keep : RouteRecord → m Bool) :
    r.collectM (some "") keep = r.collectM none keep := rfl

theorem collect_empty (r : Router) (keep : RouteRecord → Bool) :
    r.collect (some "") keep = r.collect none keep := by
  rw [collect, collectM_empty, collect]

/-- A route that is collected comes from a record that is kept, and stands at the given path joined
with that of the record. -/
theorem mem_collect_some (hp : p ≠ "") {route : Route} (h : route ∈ r.collect (some p) keep) :
    ∃ record ∈ r.records,
      record.info.ignore = false ∧ keep record = true ∧ route ∈ record.routes p ∧
      route.fullPath = Path.join p record.path := by
  rw [collect_eq, mountWith_some hp, List.mem_flatMap] at h
  obtain ⟨record, hrecord, hroute⟩ := h
  obtain ⟨hmem, hkept⟩ := List.mem_filter.mp hrecord
  rw [Bool.and_eq_true, Bool.not_eq_true'] at hkept
  obtain ⟨method, -, hmade⟩ := List.mem_map.mp hroute
  refine ⟨record, hmem, hkept.1, hkept.2, hroute, ?_⟩
  rw [← hmade, Route.fullPath]

/-- Routes tell which path they are below. -/
theorem mount_of_mem_collect {given : Option String} {route : Route}
    (h : route ∈ r.collect given keep) :
    route.mount = r.mountWith given := by
  rw [collect_eq, List.mem_flatMap] at h
  obtain ⟨record, -, hroute⟩ := h
  obtain ⟨method, -, rfl⟩ := List.mem_map.mp hroute
  rfl

/-- What is left when no path is given depends on the records and on the router's own path. -/
theorem collect_none_of_mountWith (h : r.records = r'.records)
    (hmount : r.mountWith none = r'.mountWith none) :
    r.collect none keep = r'.collect none keep := by
  rw [collect_eq, collect_eq, h, hmount]

/-- Without any method among the kept records there are no routes, wherever they are. -/
theorem collect_none_eq_nil (h : r.records = r'.records) (hnil : r.collect none keep = []) :
    r'.collect none keep = [] := by
  rw [collect_eq, List.flatMap_eq_nil_iff] at hnil ⊢
  intro record hrecord
  exact List.map_eq_nil_iff.mpr (List.map_eq_nil_iff.mp (hnil record (h ▸ hrecord)))

/-- **Which given paths hide the routers' own:** those that are not empty. For the empty path,
routers with the same records have the same routes only if their own paths are the same or no route
is kept. -/
theorem collect_some_eq_iff (h : r.records = r'.records) :
    r.collect (some p) keep = r'.collect (some p) keep ↔
      p ≠ "" ∨ r.mountWith none = r'.mountWith none ∨ r.collect none keep = [] := by
  by_cases hp : p = ""
  · subst hp
    rw [collect_empty, collect_empty, or_iff_right (not_not_intro rfl)]
    constructor
    · intro hsame
      rcases hroutes : r.collect none keep with _ | ⟨route, routes⟩
      · exact .inr rfl
      · have hmem : route ∈ r.collect none keep := hroutes ▸ List.mem_cons_self
        exact .inl ((mount_of_mem_collect hmem).symm.trans (mount_of_mem_collect (hsame ▸ hmem)))
    · rintro (hmount | hnil)
      · exact collect_none_of_mountWith h hmount
      · rw [hnil, collect_none_eq_nil h hnil]
  · refine iff_of_true ?_ (.inl hp)
    rw [collect, collect, collectM_some hp, collectM_some hp, h]

theorem notices_some (hp : p ≠ "") (h : r.records = r'.records) :
    r.notices (some p) = r'.notices (some p) := by
  rw [notices, notices, mountWith_some hp, mountWith_some hp, h,
    (collect_some_eq_iff h).mpr (.inl hp)]

end Router

/-! ## Route files -/

namespace RouteFile

variable {f g : RouteFile} {p : String}

/-- Two route files say the same, except for the paths that their routers are mounted at. -/
structure SameButMounts (f g : RouteFile) : Prop where
  config : f.config = g.config
  records : List.Forall₂ (fun r r' => r.records = r'.records) f.routers g.routers

theorem api_some (hp : p ≠ "") (h : f.SameButMounts g) : f.api (some p) = g.api (some p) := by
  obtain ⟨-, hrecords⟩ := h
  unfold api
  generalize f.routers = routers, g.routers = routers', ({} : Api) = api at hrecords ⊢
  induction hrecords generalizing api with
  | nil => rfl
  | cons hr _ ih =>
    rw [List.foldl_cons, List.foldl_cons, ih, Api.addRouter, Api.addRouter,
      (Router.collect_some_eq_iff hr).mpr (.inl hp)]

theorem notices_some (hp : p ≠ "") (h : f.SameButMounts g) :
    f.notices (some p) = g.notices (some p) := by
  obtain ⟨-, hrecords⟩ := h
  unfold notices
  generalize f.routers = routers, g.routers = routers' at hrecords ⊢
  induction hrecords with
  | nil => rfl
  | cons hr _ ih => rw [List.flatMap_cons, List.flatMap_cons, Router.notices_some hp hr, ih]

end RouteFile

end ApiDoc
