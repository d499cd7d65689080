import ApiDoc.Proofs.Document.Comparison

/-!
# The order of routes

When no two routes have the same path and method, their order matters only for the order of what is
in the document. Each route is the last one at its place (`Route.isLast_iff`), the way of the draft
has the same stops in another order, and the tags that are added are the same. Nothing is warned of:
a warning is about a place that is taken, and every place is taken once (`Work.warnings_generate`).

Main statement: `Api.generate_perm`.
-/

namespace ApiDoc

namespace Route

/-- A route that has its place for itself is the last one there. -/
theorem isLast_iff {routes : List Route} (h : (routes.map place).Nodup) {path method : String}
    {r : Route} : IsLast (·.IsAt path method) routes r ↔ r ∈ routes ∧ r.IsAt path method := by
  refine ⟨fun hlast => ⟨hlast.mem, hlast.prop⟩, fun ⟨hmem, hat⟩ => ?_⟩
  obtain ⟨before, after, rfl⟩ := List.append_of_mem hmem
  refine ⟨before, after, rfl, hat, fun q hq hqat => ?_⟩
  rw [List.map_append, List.map_cons, List.nodup_append, List.nodup_cons] at h
  exact h.2.1.1 (List.mem_map.mpr ⟨q, hq, hqat.place_eq hat⟩)

theorem sameLast_of_perm {routes routes' : List Route} (hperm : routes.Perm routes')
    (h : (routes.map place).Nodup) : SameLast routes routes' := fun path method r => by
  rw [isLast_iff h, isLast_iff ((hperm.map place).nodup h), hperm.mem_iff]

end Route

namespace Work

/-! ## Warnings -/

/-- Work warns of nothing when it starts in a session, whether it ends well or not. -/
def Silent {α : Type} (x : Work α) (s : Session) : Prop := (exec x s).2.warnings = s.warnings

variable {α β : Type} {x : Work α} {s : Session}

theorem Steady.silent (h : Steady x) (s : Session) : x.Silent s := h.warnings_eq s

theorem Silent.bind {f : α → Work β} (hx : x.Silent s) (hf : ∀ a t, Run x s a t → (f a).Silent t) :
    (x >>= f).Silent s := by
  unfold Silent
  rw [exec_bind]
  unfold Silent at hx
  rcases hrun : exec x s with ⟨e | a, t⟩
  · rwa [hrun] at hx
  · rw [hrun] at hx
    exact (hf a t hrun).trans hx

theorem steady_ofExcept (r : Except Fault α) : Steady (ofExcept r) := by
  cases r with
  | ok a => exact .pure a
  | error f => exact .throw _

variable {defaults : List (String × Output)} {known : Paths} {done routes : List Route} {r : Route}
  {config : DocumentConfig} {options : Options}

theorem silent_addRoute (h : known.isTaken r = false) : (addRoute defaults known r).Silent s := by
  refine ((steady_operation defaults r).silent s).bind fun o t _ => ?_
  have hfree : ¬ (getNamed? r.method.name ((getNamed? r.fullPath known.paths).getD [])).isSome := by
    unfold Paths.isTaken Paths.methodsAt at h
    simpa using h
  dsimp only
  rw [if_neg hfree]
  exact (Steady.pure _).silent t

/-- Rounds for routes whose places are free, and differ from each other, warn of nothing. -/
theorem silent_rounds (h : RoundsDone defaults done known s)
    (hdistinct : ((done ++ routes).map Route.place).Nodup) :
    (routes.foldlM (addRoute defaults) known).Silent s := by
  induction routes generalizing done known s with
  | nil => exact (Steady.pure known).silent s
  | cons r routes ih =>
    -- No route before has this place, since the places differ.
    have hfree : known.isTaken r = false := by
      rw [Bool.eq_false_iff, ne_eq, h.isTaken_iff]
      rintro ⟨q, hq, hpath, hmethod⟩
      rw [List.map_append, List.map_cons, List.nodup_append] at hdistinct
      exact hdistinct.2.2 q.place (List.mem_map_of_mem hq) r.place List.mem_cons_self
        (Prod.ext hpath hmethod)
    rw [List.foldlM_cons]
    refine (silent_addRoute hfree).bind fun known' t hround => ih (h.round hround) ?_
    rwa [List.append_assoc, List.singleton_append]

theorem silent_draft (hdistinct : (routes.map Route.place).Nodup) :
    (draft config options routes).Silent {} := by
  refine ((steady_definitions config).silent {}).bind fun defs t hdefs => ?_
  have hstart : t.warnings = [] := hdefs.warnings_eq (steady_definitions config)
  refine (silent_rounds (roundsDone_nil _ hstart) hdistinct).bind fun known t' _ => ?_
  exact ((steady_ofExcept _).bind fun _ => .pure _).silent t'

theorem warnings_document (hdistinct : (routes.map Route.place).Nodup) :
    (exec (document config options routes) {}).2.warnings = [] := by
  have hdraft : (exec (draft config options routes) {}).2.warnings = [] := silent_draft hdistinct
  rw [exec_document]
  rcases hrun : exec (draft config options routes) {} with ⟨e | d, t⟩
  · rwa [hrun] at hdraft
  · rw [hrun] at hdraft
    dsimp only
    cases References.check d.toValue t.registry.pointers with
    | error e => exact hdraft
    | ok _ => exact (Session.warnings_apply rfl t).trans hdraft

end Work

namespace Api

variable {config : DocumentConfig} {options : Options} {routes routes' : List Route}

theorem warnings_generate (hdistinct : (routes.map Route.place).Nodup) :
    ((Api.mk routes).generate config options).2.filter (·.isWarning) = [] :=
  Work.warnings_document hdistinct

/-- **Order of routes.** Routes with paths and methods that differ from each other give a document
in any order or in none, without a warning, and the documents differ at most in the order of the
paths, of the methods of a path and of the tags that are added. -/
theorem generate_perm (config : DocumentConfig) (options : Options) (hperm : routes.Perm routes')
    (hdistinct : (routes.map fun r => (r.fullPath, r.method)).Nodup) :
    ((∃ d, ((Api.mk routes).generate config options).1 = .ok d) ↔
        ∃ d, ((Api.mk routes').generate config options).1 = .ok d) ∧
      (∀ d d', ((Api.mk routes).generate config options).1 = .ok d →
        ((Api.mk routes').generate config options).1 = .ok d' → d.SameUpToOrder config.tags d') ∧
      ((Api.mk routes).generate config options).2.filter (·.isWarning) = [] ∧
      ((Api.mk routes').generate config options).2.filter (·.isWarning) = [] := by
  have hdistinct' : (routes'.map Route.place).Nodup := (hperm.map Route.place).nodup hdistinct
  refine ⟨?_, fun d d' h h' => ?_, warnings_generate hdistinct, warnings_generate hdistinct'⟩
  · -- The ways differ in order only, and each stop passes or not on its own.
    rw [generate_ok_iff, generate_ok_iff]
    refine forall_congr' fun stop => imp_congr_left ?_
    simp only [Work.draftWay, List.mem_append, List.mem_flatMap, hperm.mem_iff]
  · obtain ⟨t, hdraft⟩ := draft_of_result h
    obtain ⟨t', hdraft'⟩ := draft_of_result h'
    refine ⟨Work.sameBesidesTags_of_draft hdraft hdraft' (Route.sameLast_of_perm hperm hdistinct),
      ?_⟩
    refine ⟨_, _, Work.tags_of_draft hdraft, Work.tags_of_draft hdraft', .map _ ?_⟩
    refine (List.perm_ext_iff_of_nodup (Work.nodup_newTags _ _) (Work.nodup_newTags _ _)).mpr
      fun name => ?_
    simp only [Work.mem_newTags, hperm.mem_iff]

namespace Sample

def forUsers : Route := { method := .get, path := "/a", info := { tags := ["users"] } }

/-- A route on the same path that is not for users. -/
def forAdmins : Route := { method := .post, path := "/a", info := { tags := ["admins"] } }

end Sample

theorem generate_perm_sample :
    [Sample.forUsers, Sample.forAdmins].Perm [Sample.forAdmins, Sample.forUsers] ∧
      ([Sample.forUsers, Sample.forAdmins].map fun r => (r.fullPath, r.method)).Nodup ∧
      ∃ d d', ((Api.mk [Sample.forUsers, Sample.forAdmins]).generate
            { info := [], basePath := "/" } {}).1 = .ok d ∧
          ((Api.mk [Sample.forAdmins, Sample.forUsers]).generate
            { info := [], basePath := "/" } {}).1 = .ok d' ∧
        d.SameUpToOrder [] d' ∧ d ≠ d' := by
  have hperm : [Sample.forUsers, Sample.forAdmins].Perm [Sample.forAdmins, Sample.forUsers] :=
    .swap _ _ []
  have hdistinct :
      ([Sample.forUsers, Sample.forAdmins].map fun r => (r.fullPath, r.method)).Nodup := by
    decide +kernel
  have h : ∃ d, ((Api.mk [Sample.forUsers, Sample.forAdmins]).generate
      { info := [], basePath := "/" } {}).1 = .ok d ∧ d.tags = [[("name", .str "users")],
        [("name", .str "admins")]] := ⟨_, rfl, rfl⟩
  have h' : ∃ d, ((Api.mk [Sample.forAdmins, Sample.forUsers]).generate
      { info := [], basePath := "/" } {}).1 = .ok d ∧ d.tags = [[("name", .str "admins")],
        [("name", .str "users")]] := ⟨_, rfl, rfl⟩
  obtain ⟨d, hd, htags⟩ := h
  obtain ⟨d', hd', htags'⟩ := h'
  obtain ⟨-, hsame, -⟩ := generate_perm { info := [], basePath := "/" } {} hperm hdistinct
  refine ⟨hperm, hdistinct, d, d', hd, hd', hsame d d' hd hd', ?_⟩
  rintro rfl
  exact absurd (htags.symm.trans htags') (by simp)

end Api

end ApiDoc
