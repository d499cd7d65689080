import ApiDoc.Proofs.Document.Draft

/-!
# Routes of finished documents

What a finished document says about its paths is read off the list of routes. Paths and methods
stand in the order of their first occurrence, an operation is that of the last route of its path and
method, and it is what this route gives on its own. A route is warned of when its path and method
occurred before.

The rounds keep an invariant (`Work.RoundsDone`), stated of what is found at a path and a method, so
that a round changes it at one path only. The main statement `Api.paths_of_generate` reads it off
the entries of the document.
-/

namespace ApiDoc

theorem Method.name_injective {m n : Method} (h : m.name = n.name) : m = n := by
  cases m <;> cases n <;> simp_all [Method.name]

namespace Route

/-- A route belongs to a path and the name of a method. -/
def IsAt (r : Route) (path method : String) : Prop := r.fullPath = path ∧ r.method.name = method

/-- The routes whose path and method occurred already, in order. The first list holds the routes
that came before. -/
def repeated (before : List Route) : List Route → List Route
  | [] => []
  | r :: rs =>
    if ∃ q ∈ before, q.fullPath = r.fullPath ∧ q.method = r.method then
      r :: repeated (before ++ [r]) rs
    else repeated (before ++ [r]) rs

theorem repeated_concat (before routes : List Route) (r : Route) :
    repeated before (routes ++ [r]) =
      if ∃ q ∈ before ++ routes, q.fullPath = r.fullPath ∧ q.method = r.method then
        repeated before routes ++ [r]
      else repeated before routes := by
  induction routes generalizing before with
  | nil => simp [repeated]
  | cons p routes ih =>
    rw [show before ++ p :: routes = before ++ [p] ++ routes by simp, List.cons_append, repeated,
      repeated, ih]
    by_cases hr : ∃ q ∈ before ++ [p] ++ routes, q.fullPath = r.fullPath ∧ q.method = r.method
    · rw [if_pos hr, if_pos hr]
      split <;> rfl
    · rw [if_neg hr, if_neg hr]

end Route

/-! ## Rounds -/

namespace Work

/-- What holds when routes are done: the names stand in the order of their first occurrence, the
operation of a path and a method is that of the last route there, and each repetition is warned
of. -/
structure RoundsDone (defaults : List (String × Output)) (done : List Route) (known : Paths)
    (s : Session) : Prop where
  paths : known.paths.map (·.1) = (done.map (·.fullPath)).eraseDups
  methods : ∀ path, (known.methodsAt path).map (·.1) =
    ((done.filter (·.fullPath = path)).map (·.method.name)).eraseDups
  operations : ∀ path method o, getNamed? method (known.methodsAt path) = some o →
    ∃ r, IsLast (·.IsAt path method) done r ∧ (exec (operation defaults r) {}).1 = .ok o
  warnings : s.warnings = (Route.repeated [] done).map fun r => .duplicate r.method r.fullPath

variable {defaults : List (String × Output)} {done : List Route} {known : Paths} {s s' : Session}
  {r : Route} {o : Operation}

namespace RoundsDone

theorem isTaken_iff (h : RoundsDone defaults done known s) :
    known.isTaken r ↔ ∃ q ∈ done, q.fullPath = r.fullPath ∧ q.method = r.method := by
  unfold Paths.isTaken
  rw [isSome_getNamed?_iff, h.methods, List.mem_eraseDups, List.mem_map]
  constructor
  · rintro ⟨q, hq, hname⟩
    obtain ⟨hmem, hpath⟩ := List.mem_filter.mp hq
    exact ⟨q, hmem, by simpa using hpath, Method.name_injective hname⟩
  · rintro ⟨q, hq, hpath, hmethod⟩
    exact ⟨q, List.mem_filter.mpr ⟨hq, by simpa using hpath⟩, congrArg Method.name hmethod⟩

theorem paths_withRoute (h : RoundsDone defaults done known s) :
    (known.withRoute r o).paths.map (·.1) = ((done ++ [r]).map (·.fullPath)).eraseDups := by
  unfold Paths.withRoute
  rw [names_putNamed, List.map_append, List.map_singleton, eraseDups_concat, h.paths]
  simp only [List.mem_eraseDups]

theorem methods_withRoute (h : RoundsDone defaults done known s) (path : String) :
    ((known.withRoute r o).methodsAt path).map (·.1) =
      (((done ++ [r]).filter (·.fullPath = path)).map (·.method.name)).eraseDups := by
  rw [Paths.methodsAt_withRoute, List.filter_append]
  by_cases hpath : path = r.fullPath
  · rw [if_pos hpath, names_putNamed, h.methods, List.filter_cons_of_pos (by simp [hpath]),
      List.filter_nil, List.map_append, List.map_singleton, eraseDups_concat]
    simp only [List.mem_eraseDups]
  · rw [if_neg hpath, h.methods, List.filter_cons_of_neg (by simp [Ne.symm hpath]), List.filter_nil,
      List.append_nil]

theorem operations_withRoute (h : RoundsDone defaults done known s)
    (ho : (exec (operation defaults r) {}).1 = .ok o) {path method : String} {u : Operation}
    (hu : getNamed? method ((known.withRoute r o).methodsAt path) = some u) :
    ∃ q, IsLast (·.IsAt path method) (done ++ [r]) q ∧
      (exec (operation defaults q) {}).1 = .ok u := by
  rw [Paths.methodsAt_withRoute] at hu
  by_cases hat : r.IsAt path method
  · -- The operation of this route is the one that is found now.
    rw [if_pos hat.1.symm, getNamed?_putNamed, if_pos hat.2.symm] at hu
    exact ⟨r, .concat_self done hat, Option.some.inj hu ▸ ho⟩
  · have hold : getNamed? method (known.methodsAt path) = some u := by
      split at hu
      · rename_i hpath
        rwa [getNamed?_putNamed, if_neg fun hmethod => hat ⟨hpath.symm, hmethod.symm⟩] at hu
      · exact hu
    obtain ⟨q, hlast, hq⟩ := h.operations path method u hold
    exact ⟨q, hlast.append (by simpa using hat), hq⟩

theorem round (h : RoundsDone defaults done known s) {known' : Paths}
    (hround : Run (addRoute defaults known r) s known' s') :
    RoundsDone defaults (done ++ [r]) known' s' := by
  obtain ⟨o, t, ho, rfl, rfl⟩ := run_addRoute hround
  have hsteady := steady_operation defaults r
  refine ⟨h.paths_withRoute, h.methods_withRoute,
    fun _ _ _ hu => h.operations_withRoute (ho.result_eq hsteady {}) hu, ?_⟩
  have ht : t.warnings = s.warnings := ho.warnings_eq hsteady
  rw [Route.repeated_concat, List.nil_append]
  by_cases htaken : known.isTaken r
  · rw [if_pos htaken, if_pos (h.isTaken_iff.mp htaken), List.map_append, ← h.warnings, ← ht]
    simp [Session.warnings, Session.after, Session.apply, Notice.isWarning]
  · rw [if_neg htaken, if_neg (mt h.isTaken_iff.mpr htaken), ← h.warnings, ← ht]
    rfl

end RoundsDone

theorem roundsDone_nil (defaults : List (String × Output)) (hs : s.warnings = []) :
    RoundsDone defaults [] {} s :=
  ⟨rfl, fun _ => rfl, fun path method o ho => by simp [Paths.methodsAt, getNamed?] at ho, hs⟩

theorem roundsDone_of_draft {config : DocumentConfig} {options : Options} {routes : List Route}
    {d : Document} (h : Run (draft config options routes) {} d s) :
    ∃ known, d.paths = known.paths ∧ RoundsDone options.effectiveResponses routes known s := by
  obtain ⟨defs, t, known, tags, hdefs, hknown, -, rfl⟩ := run_draft h
  have ht : t.warnings = [] := hdefs.warnings_eq (steady_definitions config)
  refine ⟨known, rfl, ?_⟩
  exact run_foldlM (RoundsDone options.effectiveResponses)
    (fun _ _ _ _ _ _ hdone hround => hdone.round hround) (roundsDone_nil _ ht) hknown

end Work

/-! ## Finished documents -/

namespace Api

variable {config : DocumentConfig} {options : Options} {routes : List Route} {d : Document}
  {notices : List Notice}

/-- **Paths, methods and operations of a finished document**, and the warnings about it. -/
theorem paths_of_generate (h : (Api.mk routes).generate config options = (.ok d, notices)) :
    d.paths.map (·.1) = (routes.map (·.fullPath)).eraseDups ∧
    (∀ path methods, (path, methods) ∈ d.paths → methods.map (·.1) =
      ((routes.filter (·.fullPath = path)).map (·.method.name)).eraseDups) ∧
    (∀ path methods method o, (path, methods) ∈ d.paths → (method, o) ∈ methods →
      ∃ r, IsLast (·.IsAt path method) routes r ∧
        (Work.exec (Work.operation options.effectiveResponses r) {}).1 = .ok o) ∧
    notices.filter (·.isWarning) =
      (Route.repeated [] routes).map fun r => .duplicate r.method r.fullPath := by
  obtain ⟨t, hdraft, -, rfl⟩ := draft_of_generate h
  obtain ⟨known, hpaths, hdone⟩ := Work.roundsDone_of_draft hdraft
  have hnodup : (d.paths.map (·.1)).Nodup := by
    rw [hpaths, hdone.paths]
    exact nodup_eraseDups _
  -- No path is listed twice, so looking one up finds the methods listed with it.
  have hat {path : String} {methods : List (String × Operation)}
      (hmem : (path, methods) ∈ d.paths) : known.methodsAt path = methods := by
    unfold Work.Paths.methodsAt
    rw [← hpaths, getNamed?_of_mem hnodup hmem, Option.getD_some]
  refine ⟨hpaths ▸ hdone.paths, ?_, ?_, ?_⟩
  · intro path methods hmem
    rw [← hat hmem]
    exact hdone.methods path
  · intro path methods method o hmem ho
    refine hdone.operations path method o ?_
    rw [hat hmem]
    refine getNamed?_of_mem ?_ ho
    rw [← hat hmem, hdone.methods]
    exact nodup_eraseDups _
  · rw [List.filter_append, ← hdone.warnings]
    simp [Session.warnings, Notice.isWarning]

theorem paths_of_generate_repeated :
    ∃ d notices, (Api.mk [{ method := .get, path := "/a" }, { method := .get, path := "/b" },
        { method := .get, path := "/a", info := { deprecated := some true } }]).generate
          { info := [], basePath := "/" } {} = (.ok d, notices) ∧
      d.paths.map (·.1) = ["/a", "/b"] ∧ notices.filter (·.isWarning) = [.duplicate .get "/a"] := by
  have h : ∃ d notices, (Api.mk [{ method := .get, path := "/a" }, { method := .get, path := "/b" },
      { method := .get, path := "/a", info := { deprecated := some true } }]).generate
        { info := [], basePath := "/" } {} = (.ok d, notices) := ⟨_, _, rfl⟩
  obtain ⟨d, notices, h⟩ := h
  obtain ⟨hpaths, -, -, hwarnings⟩ := paths_of_generate h
  exact ⟨d, notices, h, hpaths.trans (by decide +kernel), hwarnings.trans (by decide +kernel)⟩

end Api

end ApiDoc
