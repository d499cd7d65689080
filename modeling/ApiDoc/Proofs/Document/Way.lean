import ApiDoc.Proofs.Document.References
import ApiDoc.Proofs.Operation.Way

/-!
# The way of a document

A document is drafted along one way (`Work.draftWay`): the definitions, the operations of the
routes, the configured tags. The first error on it is the error of the generation. If there is none,
the draft is made and has recorded exactly the references on the way, and then only a reference that
is not resolved can stop the generation.

Main statements: `Work.follows_draft`; and for the generation `Api.generate_of_error`,
`Api.draft_of_way` and `Api.generate_of_run`.
-/

namespace ApiDoc

namespace Work

variable {config : DocumentConfig} {options : Options} {routes : List Route}

def definitionWay (config : DocumentConfig) : List Stop :=
  config.definitions.flatMap fun definition => (definition.2.visits false).map .visit

def draftWay (config : DocumentConfig) (options : Options) (routes : List Route) : List Stop :=
  definitionWay config ++
    (routes.flatMap (Route.way options.effectiveResponses) ++ config.tags.map .configured)

theorem follows_definitions (config : DocumentConfig) :
    (definitions config).Follows (definitionWay config) :=
  .mapM fun definition _ => (follows_inline definition.2).bind_nil fun _ _ _ _ => .pure _

theorem follows_addRoute (defaults : List (String × Output)) (known : Paths) (r : Route) :
    (addRoute defaults known r).Follows (r.way defaults) := by
  refine (follows_operation defaults r).bind_nil fun _ o _ _ => ?_
  dsimp only
  split
  · exact (Follows.notify _).bind_nil fun _ _ _ _ => .pure _
  · exact .pure _

theorem ofExcept_bind {α β : Type} (x : Except Fault α) (f : α → Except Fault β) :
    ofExcept (x >>= f) = ofExcept x >>= fun a => ofExcept (f a) := by
  cases x <;> rfl

theorem follows_tagName (tag : List (String × Value)) :
    (ofExcept (tagName tag)).Follows [.configured tag] := by
  cases hname : tagName tag with
  | ok name => exact .pass (by simp [Stop.error?, hname]) rfl name
  | error f => exact .throw (by simp [Stop.error?, hname]) []

theorem follows_tagNames (tags : List (List (String × Value))) :
    (ofExcept (tags.mapM tagName)).Follows (tags.map .configured) := by
  induction tags with
  | nil => exact .pure []
  | cons tag tags ih =>
    rw [List.mapM_cons, ofExcept_bind, List.map_cons]
    refine (follows_tagName tag).bind_cons fun _ name _ _ => ?_
    rw [ofExcept_bind]
    exact ih.bind_nil fun _ names _ _ => .pure (name :: names)

theorem follows_mergeTags (configured : List (List (String × Value))) (used : List String) :
    (ofExcept (mergeTags configured used)).Follows (configured.map .configured) := by
  unfold mergeTags
  rw [ofExcept_bind]
  exact (follows_tagNames configured).bind_nil fun _ names _ _ => .pure _

/-- **A draft** goes its way. -/
theorem follows_draft (config : DocumentConfig) (options : Options) (routes : List Route) :
    (draft config options routes).Follows (draftWay config options routes) := by
  refine (follows_definitions config).bind fun _ defs _ _ => ?_
  refine (Follows.foldlM {} fun known r _ => follows_addRoute _ known r).bind fun _ known _ _ => ?_
  exact (follows_mergeTags config.tags known.tags).bind_nil fun _ tags _ _ => .pure _

/-- The definitions of a draft have the names that are configured. -/
theorem names_definitions {d : Document} {s s' : Session}
    (h : Run (draft config options routes) s d s') :
    d.definitions.map (·.1) = config.definitions.map (·.1) := by
  obtain ⟨defs, t, known, tags, hdefs, -, -, rfl⟩ := run_draft h
  refine map_eq_of_run_mapM (fun definition t e t' he => ?_) hdefs
  obtain ⟨schema, t'', -, hend⟩ := run_bind.mp he
  obtain ⟨rfl, -⟩ := run_pure.mp hend
  rfl

end Work

namespace Api

variable {config : DocumentConfig} {options : Options} {routes : List Route}

/-- The first error on the way of a draft is that of the generation. -/
theorem generate_of_error {e : Error}
    (h : Stop.firstError? (Work.draftWay config options routes) = some e) :
    ((Api.mk routes).generate config options).1 = .error e := by
  obtain ⟨t, ht⟩ := (Work.follows_draft config options routes).fails e h {}
  rw [generate_eq, Work.exec_document, ht]

/-- Without an error on the way there is a draft, and the recorded pointers are those of the
references on the way. -/
theorem draft_of_way (h : Stop.firstError? (Work.draftWay config options routes) = none) :
    ∃ d t, Work.Run (Work.draft config options routes) {} d t ∧
      t.registry.pointers =
        ((Stop.refs (Work.draftWay config options routes)).map pointerTo).eraseDups := by
  obtain ⟨d, t, hdraft, ht⟩ := (Work.follows_draft config options routes).succeeds h {}
  exact ⟨d, t, hdraft, by rw [ht, Registry.pointers_recordAll]⟩

/-- A draft is finished when every recorded pointer is resolved, and otherwise one that is not is
reported. -/
theorem generate_of_run {d : Document} {t : Session}
    (h : Work.Run (Work.draft config options routes) {} d t) :
    (∀ p ∈ t.registry.pointers, d.Resolves p) ∧
        ((Api.mk routes).generate config options).1 = .ok d ∨
      ∃ p ∈ t.registry.pointers, ¬ d.Resolves p ∧
        ((Api.mk routes).generate config options).1 =
          .error (.dangling (References.named p) p) := by
  rw [generate_eq, Work.exec_document, h]
  dsimp only
  rw [Work.check_of_draft h]
  cases hfind : (References.inDocument d.entries ++ t.registry.pointers).find? (¬ d.Resolves ·) with
  | none =>
    refine .inl ⟨fun p hp => ?_, rfl⟩
    simpa using List.find?_eq_none.mp hfind p (List.mem_append_right _ hp)
  | some p =>
    refine .inr ⟨p, ?_, by simpa using List.find?_some hfind, rfl⟩
    rcases List.mem_append.mp (List.mem_of_find?_eq_some hfind) with hp | hp
    · exact (Work.recorded_of_search h hp).1
    · exact hp

end Api

end ApiDoc
