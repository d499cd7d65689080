import ApiDoc.Api
import ApiDoc.Proofs.Operation.Recorded

/-!
# Drafts of documents

A document is drafted first, and its references are checked after that (`Work.exec_document`). A run
that drafts a document is taken apart into the translation of the definitions and one round for
each route (`Work.run_draft`, `Work.run_addRoute`).

Main statement: `Work.references_of_draft`. All references of a draft are to pointers that were
recorded while it was made.
-/

namespace ApiDoc

/-- All references of a document are to some pointers, and its operations stand under names of
methods. -/
structure Document.RefersAmong (d : Document) (known : List String) : Prop where
  definitions : ∀ e ∈ d.definitions, e.2.Among known
  operations : ∀ e ∈ d.paths, ∀ f ∈ e.2, ∀ u ∈ f.2.schemas, u.Among known
  methods : ∀ e ∈ d.paths, ∀ f ∈ e.2, ∃ m : Method, f.1 = m.name

namespace Work

variable {s s' : Session} {config : DocumentConfig} {options : Options} {routes : List Route}
  {defaults : List (String × Output)}

/-! ## Rounds -/

namespace Paths

/-- The operations of a path by method. -/
def methodsAt (known : Paths) (path : String) : List (String × Operation) :=
  (getNamed? path known.paths).getD []

/-- Whether there is already an operation for the method and the path of a route. -/
def isTaken (known : Paths) (r : Route) : Bool :=
  (getNamed? r.method.name (known.methodsAt r.fullPath)).isSome

/-- The paths with an operation for a route. -/
def withRoute (known : Paths) (r : Route) (o : Operation) : Paths where
  paths := putNamed r.fullPath (putNamed r.method.name o (known.methodsAt r.fullPath)) known.paths
  tags := known.tags ++ o.info.tags

theorem methodsAt_withRoute (known : Paths) (r : Route) (o : Operation) (path : String) :
    (known.withRoute r o).methodsAt path =
      if path = r.fullPath then putNamed r.method.name o (known.methodsAt path)
      else known.methodsAt path := by
  unfold methodsAt withRoute
  rw [getNamed?_putNamed]
  split
  · rename_i h
    rw [h]
    rfl
  · rfl

end Paths

/-- A round assembles the operation, and warns when it replaces another one. -/
theorem run_addRoute {known known' : Paths} {r : Route}
    (h : Run (addRoute defaults known r) s known' s') :
    ∃ o t, Run (operation defaults r) s o t ∧ known' = known.withRoute r o ∧
      s' = t.after
        (if known.isTaken r then [.notify (.duplicate r.method r.fullPath)] else []) := by
  obtain ⟨o, t, ho, hrest⟩ := run_bind.mp h
  refine ⟨o, t, ho, ?_⟩
  unfold Paths.isTaken Paths.methodsAt
  dsimp only at hrest
  split at hrest
  · rename_i htaken
    obtain ⟨_, t', hnotice, hend⟩ := run_bind.mp hrest
    obtain ⟨rfl, rfl⟩ := run_pure.mp hend
    exact ⟨rfl, by rw [if_pos htaken]; exact (Prod.mk.inj hnotice).2.symm⟩
  · rename_i htaken
    obtain ⟨rfl, rfl⟩ := run_pure.mp hrest
    exact ⟨rfl, by rw [if_neg htaken]; rfl⟩

theorem pointers_of_addRoute {known known' : Paths} {r : Route}
    (h : Run (addRoute defaults known r) s known' s') :
    s.registry.pointers ⊆ s'.registry.pointers := by
  obtain ⟨o, t, ho, -, rfl⟩ := run_addRoute h
  exact List.Subset.trans (ho.pointers_subset (steady_operation defaults r))
    (t.pointers_subset_after _)

theorem run_draft {d : Document} (h : Run (draft config options routes) s d s') :
    ∃ defs t known tags, Run (definitions config) s defs t ∧
      Run (routes.foldlM (addRoute options.effectiveResponses) {}) t known s' ∧
      mergeTags config.tags known.tags = .ok tags ∧
      d = { swagger := config.swagger, info := config.info, basePath := config.basePath
            paths := known.paths, definitions := defs, tags, extra := config.extra } := by
  obtain ⟨defs, t, hdefs, h₁⟩ := run_bind.mp h
  obtain ⟨known, t', hknown, h₂⟩ := run_bind.mp h₁
  obtain ⟨tags, t'', htags, hend⟩ := run_bind.mp h₂
  obtain ⟨rfl, rfl⟩ := run_pure.mp hend
  unfold ofExcept at htags
  split at htags
  · rename_i hmerge
    obtain ⟨rfl, rfl⟩ := run_pure.mp htags
    exact ⟨defs, t, known, _, hdefs, hknown, hmerge, rfl⟩
  · exact absurd htags not_run_throw

/-! ## References -/

/-- What holds of the paths after every round. -/
def PathsAmong (paths : List (String × List (String × Operation))) (known : List String) : Prop :=
  ∀ e ∈ paths, ∀ f ∈ e.2, (∃ m : Method, f.1 = m.name) ∧ ∀ u ∈ f.2.schemas, u.Among known

theorem PathsAmong.withRoute {known : Paths} {ps : List String} (h : PathsAmong known.paths ps)
    {r : Route} {o : Operation} (ho : ∀ u ∈ o.schemas, u.Among ps) :
    PathsAmong (known.withRoute r o).paths ps := by
  intro e he f hf
  rcases mem_putNamed he with rfl | he
  · rcases mem_putNamed hf with rfl | hf
    · exact ⟨⟨r.method, rfl⟩, ho⟩
    · -- The other operations of the path have stood there before.
      unfold Paths.methodsAt at hf
      cases hmethods : getNamed? r.fullPath known.paths with
      | none => simp [hmethods] at hf
      | some methods =>
        rw [hmethods, Option.getD_some] at hf
        exact h _ (mem_of_getNamed? hmethods) f hf
  · exact h e he f hf

theorem pathsAmong_addRoute {known known' : Paths} {r : Route}
    (h : Run (addRoute defaults known r) s known' s')
    (hknown : PathsAmong known.paths s.registry.pointers) :
    PathsAmong known'.paths s'.registry.pointers := by
  have hsub := pointers_of_addRoute h
  obtain ⟨o, t, ho, rfl, hs'⟩ := run_addRoute h
  have hsub' : t.registry.pointers ⊆ s'.registry.pointers := by
    rw [hs']
    exact t.pointers_subset_after _
  refine PathsAmong.withRoute (fun e he f hf => ?_)
    fun u hu => (among_operation ho u hu).subset hsub'
  exact ⟨(hknown e he f hf).1, fun u hu => ((hknown e he f hf).2 u hu).subset hsub⟩

/-- **A draft refers only to recorded pointers.** -/
theorem references_of_draft {d : Document} (h : Run (draft config options routes) s d s') :
    d.RefersAmong s'.registry.pointers := by
  obtain ⟨defs, t, known, tags, hdefs, hknown, -, rfl⟩ := run_draft h
  have hpaths : PathsAmong known.paths s'.registry.pointers ∧
      t.registry.pointers ⊆ s'.registry.pointers :=
    run_foldlM (fun _ known s => PathsAmong known.paths s.registry.pointers ∧
        t.registry.pointers ⊆ s.registry.pointers)
      (fun _ _ _ _ _ _ hc hx =>
        ⟨pathsAmong_addRoute hx hc.1, List.Subset.trans hc.2 (pointers_of_addRoute hx)⟩)
      ⟨by simp [PathsAmong], List.Subset.refl _⟩ hknown
  exact {
    definitions := fun e he => (among_definitions hdefs e he).subset hpaths.2
    operations := fun e he f hf => (hpaths.1 e he f hf).2
    methods := fun e he f hf => (hpaths.1 e he f hf).1 }

theorem local_addRoute {known known' : Paths} {r : Route}
    (h : Run (addRoute defaults known r) s known' s') (hs : s.Local) : s'.Local := by
  obtain ⟨o, t, ho, -, rfl⟩ := run_addRoute h
  exact (ho.isLocal (steady_operation defaults r) hs).after _

/-- Every pointer that a draft records is to a place within the document. -/
theorem local_of_draft {d : Document} (h : Run (draft config options routes) s d s')
    (hs : s.Local) : s'.Local := by
  obtain ⟨defs, t, known, tags, hdefs, hknown, -, -⟩ := run_draft h
  exact run_foldlM (fun _ _ s => s.Local) (fun _ _ _ _ _ _ hc hx => local_addRoute hx hc)
    (hdefs.isLocal (steady_definitions config) hs) hknown

/-! ## The check -/

/-- What a document is built from a draft: nothing else when the check succeeds, and the failure of
the check otherwise. -/
theorem exec_document (config : DocumentConfig) (options : Options) (routes : List Route)
    (s : Session) :
    exec (document config options routes) s =
      match exec (draft config options routes) s with
      | (.error e, t) => (.error e, t)
      | (.ok d, t) =>
        match References.check d.toValue t.registry.pointers with
        | .ok () => (.ok d, t.apply (.notify (.built d.paths.length d.definitions.length)))
        | .error e => (.error e, t) := by
  unfold document
  rw [exec_bind]
  rcases exec (draft config options routes) s with ⟨e | d, t⟩
  · rfl
  · -- The check reads the recorded pointers and leaves the session as it is.
    have hcheck : exec (checkReferences d) t =
        match References.check d.toValue t.registry.pointers with
        | .ok () => (.ok (), t)
        | .error e => (.error e, t) := by
      have hget : checkReferences d = (get : Work Session) >>= fun session =>
          match References.check d.toValue session.registry.pointers with
          | .ok () => pure ()
          | .error e => throw e := rfl
      rw [hget, exec_bind, show exec (get : Work Session) t = (.ok t, t) from rfl]
      dsimp only
      split <;> rfl
    dsimp only
    rw [exec_bind, hcheck]
    cases References.check d.toValue t.registry.pointers <;> rfl

end Work

namespace Api

variable {config : DocumentConfig} {options : Options} {routes : List Route} {d : Document}
  {notices : List Notice}

theorem generate_eq (config : DocumentConfig) (options : Options) (routes : List Route) :
    (Api.mk routes).generate config options =
      ((Work.exec (Work.document config options routes) {}).1,
        (Work.exec (Work.document config options routes) {}).2.notices) := rfl

/-- A finished document is a draft whose references are all there, and it is reported last. -/
theorem draft_of_generate (h : (Api.mk routes).generate config options = (.ok d, notices)) :
    ∃ t, Work.Run (Work.draft config options routes) {} d t ∧
      References.check d.toValue t.registry.pointers = .ok () ∧
      notices = t.notices ++ [.built d.paths.length d.definitions.length] := by
  rw [generate_eq, Work.exec_document] at h
  rcases hdraft : Work.exec (Work.draft config options routes) {} with ⟨e | d', t⟩
  · rw [hdraft] at h
    cases (Prod.mk.inj h).1
  · rw [hdraft] at h
    dsimp only at h
    cases hcheck : References.check d'.toValue t.registry.pointers with
    | error e =>
      rw [hcheck] at h
      cases (Prod.mk.inj h).1
    | ok u =>
      rw [hcheck] at h
      obtain ⟨hresult, hnotices⟩ := Prod.mk.inj h
      obtain rfl := Except.ok.inj hresult
      exact ⟨t, hdraft, hcheck, hnotices.symm⟩

end Api

end ApiDoc
