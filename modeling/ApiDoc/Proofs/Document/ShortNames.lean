import ApiDoc.Proofs.Document.Way

/-!
# References by short names

A short name is pasted into a pointer, and the check cuts the pointer at the next slash to find the
name of the definition again. So it finds the first segment of the short name
(`References.target_pointerTo`), which is the name itself only as long as there is no slash in it. A
definition whose name has a slash can be written down, but a reference to it is looked up under
another name.

Main statement: `Api.generate_of_names`.
-/

namespace ApiDoc

namespace References

/-- The part of a name before its first slash. -/
def firstSegment (name : String) : String := .ofList (name.toList.takeWhile (· ≠ '/'))

theorem firstSegment_eq {name : String} (h : '/' ∉ name.toList) : firstSegment name = name := by
  rw [firstSegment, ← String.toList_inj, String.toList_ofList, List.takeWhile_eq_self_iff]
  intro c hc
  simpa using fun heq : c = '/' => h (heq ▸ hc)

variable {ref : String}

/-- A short name is completed. -/
theorem pointerTo_eq (h : ¬ ['#', '/'] <+: ref.toList) :
    pointerTo ref = "#/definitions/" ++ ref := by
  unfold pointerTo
  split
  · rename_i hprefix
    exact absurd (List.isPrefixOf_iff_prefix.mp hprefix) h
  · rfl

theorem target_append (cs : List Char) :
    target (definitionsPrefix ++ cs) = .ok (.ofList (cs.takeWhile (· ≠ '/'))) := by
  have hprefix : definitionsPrefix.isPrefixOf (definitionsPrefix ++ cs) :=
    List.isPrefixOf_iff_prefix.mpr (List.prefix_append _ _)
  rw [target, if_pos hprefix, List.drop_left]

/-- The pointer of a short name leads to the definition that has its first segment as name. -/
theorem target_pointerTo (h : ¬ ['#', '/'] <+: ref.toList) :
    target (pointerTo ref).toList = .ok (firstSegment ref) := by
  rw [pointerTo_eq h, String.toList_append]
  exact target_append ref.toList

end References

open References (firstSegment)

theorem Document.resolves_pointerTo_iff {d : Document} {ref : String}
    (h : ¬ ['#', '/'] <+: ref.toList) :
    d.Resolves (pointerTo ref) ↔ firstSegment ref ∈ d.definitions.map (·.1) := by
  rw [resolves_iff, References.target_pointerTo h]
  simp

namespace Api

variable {config : DocumentConfig} {options : Options} {routes : List Route}

/-- **References by names of definitions.** Everything on the way is fine, and all references are
short names of definitions. Then the document is finished exactly when the first segments of these
names are names of definitions too, and if one is not, a reference is reported. A name without a
slash is its own first segment. -/
theorem generate_of_names
    (hway : ∀ stop ∈ Work.draftWay config options routes, stop.error? = none)
    (hnames : ∀ ref ∈ Stop.refs (Work.draftWay config options routes),
      ref ∈ config.definitions.map (·.1) ∧ ¬ ['#', '/'] <+: ref.toList) :
    ((∃ d, ((Api.mk routes).generate config options).1 = .ok d) ↔
      ∀ ref ∈ Stop.refs (Work.draftWay config options routes),
        firstSegment ref ∈ config.definitions.map (·.1)) ∧
    ((∃ name p, ((Api.mk routes).generate config options).1 = .error (.dangling name p)) ↔
      ∃ ref ∈ Stop.refs (Work.draftWay config options routes),
        firstSegment ref ∉ config.definitions.map (·.1)) ∧
    ∀ ref : String, '/' ∉ ref.toList → firstSegment ref = ref := by
  obtain ⟨d, t, hdraft, hpointers⟩ := draft_of_way (Stop.firstError?_eq_none_iff.mpr hway)
  have hmem {p : String} : p ∈ t.registry.pointers ↔
      ∃ ref ∈ Stop.refs (Work.draftWay config options routes), pointerTo ref = p := by
    rw [hpointers, List.mem_eraseDups, List.mem_map]
  -- A recorded pointer leads where the first segment of its name says.
  have hresolves {ref : String} (href : ref ∈ Stop.refs (Work.draftWay config options routes)) :
      d.Resolves (pointerTo ref) ↔ firstSegment ref ∈ config.definitions.map (·.1) := by
    rw [Document.resolves_pointerTo_iff (hnames ref href).2, Work.names_definitions hdraft]
  have hall : (∀ p ∈ t.registry.pointers, d.Resolves p) ↔
      ∀ ref ∈ Stop.refs (Work.draftWay config options routes),
        firstSegment ref ∈ config.definitions.map (·.1) := by
    constructor
    · exact fun h ref href => (hresolves href).mp (h _ (hmem.mpr ⟨ref, href, rfl⟩))
    · intro h p hp
      obtain ⟨ref, href, rfl⟩ := hmem.mp hp
      exact (hresolves href).mpr (h ref href)
  have hsome : (∃ ref ∈ Stop.refs (Work.draftWay config options routes),
      firstSegment ref ∉ config.definitions.map (·.1)) ↔
      ∃ p ∈ t.registry.pointers, ¬ d.Resolves p := by
    rw [← not_iff_not]
    push Not
    exact hall.symm
  rw [← hall, hsome]
  obtain ⟨hresolved, hresult⟩ | ⟨p, hp, hnot, hresult⟩ := generate_of_run hdraft
  · simp only [hresult]
    refine ⟨iff_of_true ⟨d, rfl⟩ hresolved, iff_of_false nofun ?_,
      fun _ => References.firstSegment_eq⟩
    exact fun ⟨p, hp, hnot⟩ => hnot (hresolved p hp)
  · simp only [hresult]
    refine ⟨iff_of_false nofun fun h => hnot (h p hp), iff_of_true ⟨_, p, rfl⟩ ⟨p, hp, hnot⟩, ?_⟩
    exact fun _ => References.firstSegment_eq

namespace Sample

/-- A configuration with two definitions, one of which has a slash in its name. -/
def slashed : DocumentConfig where
  info := []
  basePath := "/"
  definitions := [("A", { kind := "string" }), ("a/b", { kind := "string" })]

/-- A route whose response is a definition. -/
def routeTo (name : String) : Route :=
  { method := .get, path := "/a", outputs := [("200", { ref := some name })] }

theorem draftWay_routeTo (name : String) (h : name ≠ "") :
    Work.draftWay slashed {} [routeTo name] =
      [.visit (.node { kind := "string" }), .visit (.node { kind := "string" }), .key "200",
        .visit (.tag name), .key "200"] := by
  have hdefinition : Node.visits false { kind := "string" } = [.node { kind := "string" }] := by
    simp [Node.visits_eq, Node.usedParts, Kind.ofName?, Kind.all, Kind.name]
  have hlisted : Status.listed "200" = ["200"] := by decide +kernel
  have hfresh : Status.fresh ["200"] ["200"] = [] := by decide +kernel
  have hname : name.isEmpty = false := by simpa using h
  simp [Work.draftWay, Work.definitionWay, slashed, hdefinition, Route.way, Route.parameterWay,
    Route.declaredWay, Route.declared, Route.bodyWay, Route.responseWay, routeTo,
    Output.declaredWay, Output.defaultWay, Output.way, Options.effectiveResponses,
    Options.builtInResponses, hlisted, hfresh, Registry.Use.way, Option.filter, hname]

theorem error?_routeTo (name : String) (h : name ≠ "") :
    ∀ stop ∈ Work.draftWay slashed {} [routeTo name], stop.error? = none := by
  rw [draftWay_routeTo name h]
  simp only [List.forall_mem_cons]
  exact ⟨rfl, rfl, rfl, rfl, rfl, List.forall_mem_nil _⟩

theorem refs_routeTo (name : String) (h : name ≠ "") :
    Stop.refs (Work.draftWay slashed {} [routeTo name]) = [name] := by
  rw [draftWay_routeTo name h]
  rfl

end Sample

theorem generate_of_names_sample :
    (∀ stop ∈ Work.draftWay Sample.slashed {} [Sample.routeTo "A"], stop.error? = none) ∧
      (∀ ref ∈ Stop.refs (Work.draftWay Sample.slashed {} [Sample.routeTo "A"]),
        ref ∈ Sample.slashed.definitions.map (·.1) ∧ ¬ ['#', '/'] <+: ref.toList) ∧
      ∃ d, ((Api.mk [Sample.routeTo "A"]).generate Sample.slashed {}).1 = .ok d := by
  have hway := Sample.error?_routeTo "A" (by decide)
  have hnames : ∀ ref ∈ Stop.refs (Work.draftWay Sample.slashed {} [Sample.routeTo "A"]),
      ref ∈ Sample.slashed.definitions.map (·.1) ∧ ¬ ['#', '/'] <+: ref.toList := by
    rw [Sample.refs_routeTo "A" (by decide)]
    decide
  obtain ⟨hfinished, -, hsegment⟩ := generate_of_names hway hnames
  refine ⟨hway, hnames, hfinished.mpr ?_⟩
  rw [Sample.refs_routeTo "A" (by decide)]
  decide

/-- A reference by the name of a definition can be reported as one that leads nowhere. -/
theorem not_finished_of_slash :
    "a/b" ∈ Sample.slashed.definitions.map (·.1) ∧
      (∀ stop ∈ Work.draftWay Sample.slashed {} [Sample.routeTo "a/b"], stop.error? = none) ∧
      Stop.refs (Work.draftWay Sample.slashed {} [Sample.routeTo "a/b"]) = ["a/b"] ∧
      ((Api.mk [Sample.routeTo "a/b"]).generate Sample.slashed {}).1 =
        .error (.dangling "a" "#/definitions/a/b") :=
  ⟨by decide, Sample.error?_routeTo "a/b" (by decide), Sample.refs_routeTo "a/b" (by decide), rfl⟩

end Api

end ApiDoc
