import ApiDoc.Proofs.Document.References
import ApiDoc.Proofs.Document.Roles
import ApiDoc.Proofs.Operation.Masked

/-!
# Data does not matter

Default values, examples and the values of enumerations are passed on to the document as they are,
and nothing else depends on them. Inputs that differ only in their data give documents that differ
only in their data, or they give the same error.

The draft of inputs without data is the draft without data (`Work.draft_masked`). As a value, a
document is the same as the masked document except for data (`Document.withoutData_masked`), and so
the check sees no difference between the two (`Document.check_masked`).

How deep data may be nested is not limited here. A program with a bounded stack can fail on data
that are nested too deeply for it, and then they do matter; that failure is not modelled.

Main statement: `Api.generate_of_masked`.
-/

namespace ApiDoc

open Value (withoutData entriesWithoutData itemsWithoutData left)

/-! ## Written documents -/

namespace Schema

mutual

theorem origin_masked (name : String) (at_ : Place) :
    ∀ s : List Keyword, origin name at_ (masked s) = origin name at_ s
  | [] => rfl
  | .branches ss :: s => by
    rw [masked_cons, Keyword.masked_branches, origin, origin, originInFirst_masked name at_ ss]
  | .ref _ :: s | .type _ :: s | .bound .. :: s | .pattern _ :: s | .format _ :: s
  | .description _ :: s | .enum _ :: s | .defaultValue _ :: s | .exampleValue _ :: s
  | .properties _ :: s | .required _ :: s | .additionalProperties _ :: s | .items _ :: s
  | .allOf _ :: s | .custom .. :: s => by
    have h := origin_masked name at_ s
    simpa [origin, Keyword.masked] using h

theorem originInFirst_masked (name : String) (at_ : Place) :
    ∀ ss : List (List Keyword), originInFirst name at_ (ss.map masked) = originInFirst name at_ ss
  | [] => rfl
  | s :: ss => by
    have href : (masked s).any Keyword.isRef = s.any Keyword.isRef := isReference_masked s
    rw [List.map_cons, originInFirst, originInFirst, href, origin_masked name (branchPlace 0 at_) s]

end

/-- A schema is written the same with and without its data, apart from the data. -/
def WrittenAlike (s : Schema) : Prop := ∀ flat self at_ made,
  entriesWithoutData .schema (entries flat self at_ made s.masked) =
    entriesWithoutData .schema (entries flat self at_ made s)

theorem WrittenAlike.map {s : Schema} (h : s.WrittenAlike) (l : Label) (flat : Bool)
    (self place : Place) :
    withoutData .schema (.map l (entries flat self place (origin · place s.masked) s.masked)) =
      withoutData .schema (.map l (entries flat self place (origin · place s) s)) := by
  simp only [origin_masked]
  rw [withoutData, withoutData, h]

theorem memberEntries_masked {ms : List (String × Schema)} (h : ∀ m ∈ ms, m.2.WrittenAlike)
    (place : Place) : entriesWithoutData .members (memberEntries place (mapNamed masked ms)) =
      entriesWithoutData .members (memberEntries place ms) := by
  induction ms with
  | nil => rfl
  | cons m ms ih =>
    obtain ⟨name, s⟩ := m
    rw [List.forall_mem_cons] at h
    have hat : Role.at_ .members (.str name) = .schema := rfl
    rw [mapNamed_cons, memberEntries, memberEntries, entriesWithoutData, entriesWithoutData, ih h.2,
      hat, if_neg (by simp), if_neg (by simp), h.1.map]

theorem values_masked {ss : List Schema} (h : ∀ s ∈ ss, s.WrittenAlike) (place : Nat → Place)
    (n : Nat) :
    itemsWithoutData .schema (values place n (ss.map masked)) =
      itemsWithoutData .schema (values place n ss) := by
  induction ss generalizing n with
  | nil => rfl
  | cons s ss ih =>
    rw [List.forall_mem_cons] at h
    rw [List.map_cons, values, values, itemsWithoutData, itemsWithoutData, h.1.map, ih h.2]

theorem keywordValue_masked {k : Keyword} (h : ∀ s ∈ k.schemas, s.WrittenAlike) (flat : Bool)
    (self at_ : Place) (made : String → Place) :
    left (Role.underSchema k.name) (keywordValue flat self at_ made k.masked) =
      left (Role.underSchema k.name) (keywordValue flat self at_ made k) := by
  -- Below a data keyword everything is cut away, so it does not matter what stood there.
  have hdata (key : String) (hkey : key ∈ References.dataKeywords) (v w : Value) :
      left (Role.underSchema key) v = left (Role.underSchema key) w := by
    rw [Role.underSchema_eq_data_iff.mpr hkey]
    rfl
  cases k with
  | enum | defaultValue | exampleValue =>
    exact hdata _ (by simp [Keyword.name, References.dataKeywords]) _ _
  | properties members =>
    have hrole : Role.underSchema "properties" = .members := by decide
    have hmembers := memberEntries_masked (fun m hm => h m.2 (List.mem_map.mpr ⟨m, hm, rfl⟩))
      (made "properties")
    rw [Keyword.name, hrole, Keyword.masked_properties, keywordValue, keywordValue, left, left,
      withoutData, withoutData, hmembers]
  | items s =>
    have hrole : Role.underSchema "items" = .schema := by decide
    have hitems : WrittenAlike s := h s (by simp [Keyword.schemas])
    rw [Keyword.name, hrole, Keyword.masked_items, keywordValue, keywordValue, left, left,
      hitems.map]
  | allOf ss =>
    have hrole : Role.underSchema "allOf" = .alternatives := by decide
    have hitem : Role.item .alternatives = .schema := rfl
    have hschemas : ∀ s ∈ ss, WrittenAlike s := h
    rw [Keyword.name, hrole, Keyword.masked_allOf, keywordValue, keywordValue, left, left,
      withoutData, withoutData, hitem, values_masked hschemas]
  | branches ss =>
    have hrole : Role.underSchema "x-alternatives" = .alternatives := by decide
    have hitem : Role.item .alternatives = .schema := rfl
    have hschemas : ∀ s ∈ ss, WrittenAlike s := h
    rw [Keyword.name, hrole, Keyword.masked_branches, keywordValue, keywordValue, left, left,
      withoutData, withoutData, hitem, values_masked hschemas]
  | _ => rfl

/-- Keywords are written alike when their values are, for what these are at their place. -/
theorem entries_masked {role : Role} {s : Schema} {flat : Bool} {self at_ : Place}
    {made : String → Place}
    (h : ∀ k ∈ s, left (role.under k.name) (keywordValue flat self at_ made k.masked) =
      left (role.under k.name) (keywordValue flat self at_ made k)) :
    entriesWithoutData role (entries flat self at_ made s.masked) =
      entriesWithoutData role (entries flat self at_ made s) := by
  rw [Value.entriesWithoutData_eq, Value.entriesWithoutData_eq, entries_eq, entries_eq, masked,
    List.map_map, List.map_map, List.map_map]
  refine List.map_congr_left fun k hk => Prod.ext ?_ ?_
  · simp
  · simpa [Role.at_] using h k hk

/-- A schema is written the same with and without its data, apart from the data. The induction goes
to the schemas under its keywords. -/
theorem writtenAlike (s : Schema) : s.WrittenAlike := by
  induction s using Schema.induction with
  | h s ih =>
    intro flat self at_ made
    exact entries_masked fun k hk => keywordValue_masked (ih k hk) flat self at_ made

/-- The same for a schema that is a parameter. -/
theorem flatEntries_masked (place : Place) (s : Schema) :
    entriesWithoutData .parameter (s.masked.flatEntries place) =
      entriesWithoutData .parameter (s.flatEntries place) := by
  have hcustom (k : Keyword) (hname : k.name = "schema") : k.masked = k := by
    cases k <;> simp [Keyword.name] at hname <;> rfl
  unfold flatEntries
  simp only [origin_masked]
  refine entries_masked fun k _ => ?_
  by_cases hname : k.name = "schema"
  · rw [hcustom k hname]
  · rw [Role.under, if_neg hname]
    exact keywordValue_masked (fun u _ => u.writtenAlike) true place place (origin · place s)

theorem toValueAt_masked (place : Place) (s : Schema) :
    left .schema (s.masked.toValueAt place) = left .schema (s.toValueAt place) :=
  s.writtenAlike.map _ _ _ _

theorem flatValueAt_masked (place : Place) (s : Schema) :
    left .schema (s.masked.flatValueAt place) = left .schema (s.flatValueAt place) :=
  s.writtenAlike.map _ _ _ _

end Schema

/-- A mapping from names is the same without its data, if the values under the names are. -/
theorem Value.withoutData_mapNamed {α : Type} {es : List (String × α)} (role : Role) (f : α → α)
    (write : String → α → Value)
    (h : ∀ e ∈ es,
      left (role.under e.1) (write e.1 (f e.2)) = left (role.under e.1) (write e.1 e.2)) :
    withoutData role (.object ((mapNamed f es).map fun e => (e.1, write e.1 e.2))) =
      withoutData role (.object (es.map fun e => (e.1, write e.1 e.2))) := by
  rw [withoutData_object, withoutData_object, mapNamed, List.map_map, List.map_map, List.map_map]
  exact congrArg Value.object (List.map_congr_left fun e he => Prod.ext rfl (h e he))

theorem Parameter.toValueAt_masked (place : Place) (p : Parameter) :
    withoutData .parameter (p.masked.toValueAt place) =
      withoutData .parameter (p.toValueAt place) := by
  cases p with
  | simple name location required s =>
    rw [Parameter.masked, Parameter.toValueAt, Parameter.toValueAt, withoutData, withoutData,
      Value.entriesWithoutData_eq, Value.entriesWithoutData_eq, List.map_append, List.map_append,
      ← Value.entriesWithoutData_eq, ← Value.entriesWithoutData_eq, ← Value.entriesWithoutData_eq,
      Schema.flatEntries_masked]
  | body s =>
    have hschema : Role.under .parameter "schema" = .schema := rfl
    rw [Parameter.masked, Parameter.toValueAt, Parameter.toValueAt, Value.withoutData_object,
      Value.withoutData_object]
    simp only [List.map_cons, List.map_nil, hschema, Schema.toValueAt_masked]

/-- The fields of a response, each of which can be absent but the first. -/
theorem Response.toValueAt_eq (place : Place) (r : Response) :
    r.toValueAt place = .object ([("description", .str r.description)] ++
      (r.schema.map fun s => ("schema", s.toValueAt ("schema" :: place))).toList ++
      (r.headers.map fun hs => ("headers",
        Value.object (hs.map fun e => (e.1, e.2.flatValueAt (e.1 :: place))))).toList) := by
  obtain ⟨description, schema, headers⟩ := r
  cases schema <;> cases headers <;> rfl

theorem Response.toValueAt_masked (place : Place) (r : Response) :
    left .response (r.masked.toValueAt place) = left .response (r.toValueAt place) := by
  have hschema : Role.under .response "schema" = .schema := rfl
  have hheaders : Role.under .response "headers" = .members := rfl
  have hmembers (hs : List (String × Schema)) :
      left .members (.object ((mapNamed Schema.masked hs).map fun e =>
          (e.1, e.2.flatValueAt (e.1 :: place)))) =
        left .members (.object (hs.map fun e => (e.1, e.2.flatValueAt (e.1 :: place)))) :=
    Value.withoutData_mapNamed .members Schema.masked (fun name s => s.flatValueAt (name :: place))
      fun e _ => Schema.flatValueAt_masked _ e.2
  show withoutData .response _ = withoutData .response _
  rw [Response.toValueAt_eq, Response.toValueAt_eq,
    Value.withoutData_object, Value.withoutData_object]
  obtain ⟨description, schema, headers⟩ := r
  cases schema <;> cases headers <;>
    simp [Response.masked, hschema, hheaders, Schema.toValueAt_masked, hmembers]

theorem Operation.parameterValues_masked (place : Place) (n : Nat) (ps : List Parameter) :
    itemsWithoutData .parameter (parameterValues place n (ps.map Parameter.masked)) =
      itemsWithoutData .parameter (parameterValues place n ps) := by
  induction ps generalizing n with
  | nil => rfl
  | cons p ps ih =>
    rw [List.map_cons, parameterValues, parameterValues, itemsWithoutData, itemsWithoutData,
      Parameter.toValueAt_masked, ih]

theorem Operation.toValueAt_masked (place : Place) (o : Operation) :
    left .operation (o.masked.toValueAt place) = left .operation (o.toValueAt place) := by
  have hparameters : Role.under .operation "parameters" = .parameters := by decide
  have hresponses : Role.under .operation "responses" = .responses := by decide
  have hlist : left .parameters (.listOf (parameterValues ("parameters" :: place) 0
        (o.parameters.map Parameter.masked))) =
      left .parameters (.listOf (parameterValues ("parameters" :: place) 0 o.parameters)) := by
    have hitem : Role.item .parameters = .parameter := rfl
    show withoutData .parameters _ = withoutData .parameters _
    rw [withoutData, withoutData, hitem, parameterValues_masked]
  have hnamed : left .responses (.object ((mapNamed Response.masked o.responses).map fun e =>
        (e.1, e.2.toValueAt (e.1 :: "responses" :: place)))) =
      left .responses (.object (o.responses.map fun e =>
        (e.1, e.2.toValueAt (e.1 :: "responses" :: place)))) :=
    Value.withoutData_mapNamed .responses Response.masked
      (fun status r => r.toValueAt (status :: "responses" :: place))
      fun e _ => Response.toValueAt_masked _ e.2
  show withoutData .operation _ = withoutData .operation _
  unfold Operation.toValueAt Operation.masked
  dsimp only
  rw [Value.withoutData_object, Value.withoutData_object]
  simp only [List.map_append, List.map_cons, List.map_nil, hparameters, hresponses]
  exact congrArg₂ (fun ps rs => Value.object (_ ++ [("parameters", ps), ("responses", rs)])) hlist
    hnamed

/-! ## The check -/

namespace Document

def masked (d : Document) : Document :=
  { d with
    paths := mapNamed (mapNamed Operation.masked) d.paths
    definitions := mapNamed Schema.masked d.definitions }

variable {d : Document}

theorem fields_eq (d : Document) : d.fields =
    [("swagger", .str d.swagger), ("info", .object d.info), ("basePath", .str d.basePath),
      ("paths", d.pathsValue), ("definitions", d.definitionsValue),
      ("tags", .listOf (d.tags.map .object))] := rfl

/-- Further fields make no difference for what is the same up to a change of the values. -/
theorem extend_congr {fields fields' : List (String × Value)} (g : String → Value → Value)
    (extra : List (String × Value))
    (h : fields.map (fun e => (e.1, g e.1 e.2)) = fields'.map fun e => (e.1, g e.1 e.2)) :
    (extra.foldl (fun es (key, v) => if (getNamed? key es).isSome then es else es ++ [(key, v)])
      fields).map
        (fun e => (e.1, g e.1 e.2)) =
      (extra.foldl (fun es (key, v) => if (getNamed? key es).isSome then es else es ++ [(key, v)])
        fields').map fun e => (e.1, g e.1 e.2) := by
  induction extra generalizing fields fields' with
  | nil => exact h
  | cons e extra ih =>
    obtain ⟨key, v⟩ := e
    -- Whether a key is free depends on the names alone, and these agree.
    have hnames : fields.map (·.1) = fields'.map (·.1) := by
      have hfirst := congrArg (List.map (·.1)) h
      rwa [List.map_map, List.map_map] at hfirst
    have hthere : (getNamed? key fields).isSome = (getNamed? key fields').isSome := by
      rw [Bool.eq_iff_iff, isSome_getNamed?_iff, isSome_getNamed?_iff, hnames]
    rw [List.foldl_cons, List.foldl_cons]
    refine ih ?_
    dsimp only
    rw [hthere]
    split
    · exact h
    · rw [List.map_append, List.map_append, h]

/-- **A document as a value** is the same with and without its data, apart from the data. -/
theorem withoutData_masked (hmethods : ∀ e ∈ d.paths, ∀ f ∈ e.2, ∃ m : Method, f.1 = m.name) :
    withoutData .document d.masked.toValue = withoutData .document d.toValue := by
  have hpaths : left .paths d.masked.pathsValue = left .paths d.pathsValue := by
    refine Value.withoutData_mapNamed .paths (mapNamed Operation.masked)
      (fun path methods => .object (methods.map fun f => (f.1, f.2.toValueAt [f.1, path, "paths"])))
      fun e he => ?_
    refine Value.withoutData_mapNamed .pathItem Operation.masked
      (fun method o => o.toValueAt [method, e.1, "paths"]) fun f hf => ?_
    obtain ⟨m, hm⟩ := hmethods e he f hf
    -- Below a path only a method leads on to an operation, hence the hypothesis.
    have hrole : Role.under .pathItem f.1 = .operation := by
      rw [hm]
      cases m <;> decide
    rw [hrole]
    exact Operation.toValueAt_masked _ f.2
  have hdefinitions : left .members d.masked.definitionsValue = left .members d.definitionsValue :=
    Value.withoutData_mapNamed .members Schema.masked
      (fun name s => s.toValueAt [name, "definitions"]) fun e _ => Schema.toValueAt_masked _ e.2
  have hfields : d.masked.fields.map (fun e => (e.1, left (Role.under .document e.1) e.2)) =
      d.fields.map (fun e => (e.1, left (Role.under .document e.1) e.2)) := by
    have hpathsRole : Role.under .document "paths" = .paths := by decide
    have hdefinitionsRole : Role.under .document "definitions" = .members := by decide
    rw [fields_eq, fields_eq]
    simp only [List.map_cons, List.map_nil, hpathsRole, hdefinitionsRole, hpaths, hdefinitions]
    rfl
  unfold toValue
  rw [Value.withoutData_object, Value.withoutData_object]
  exact congrArg Value.object
    (extend_congr (fun key => left (Role.under .document key)) d.extra hfields)

/-- The search finds the same references in a document without its data. -/
theorem inDocument_masked (hmethods : ∀ e ∈ d.paths, ∀ f ∈ e.2, ∃ m : Method, f.1 = m.name) :
    References.inDocument d.masked.entries = References.inDocument d.entries := by
  have hentries := withoutData_masked hmethods
  rw [toValue_eq, toValue_eq, withoutData, withoutData] at hentries
  rw [← References.inDocument_withoutData, (Value.map.inj hentries).2,
    References.inDocument_withoutData]

/-- The check sees no difference between a document and the document without its data. -/
theorem check_masked (hmethods : ∀ e ∈ d.paths, ∀ f ∈ e.2, ∃ m : Method, f.1 = m.name)
    (pointers : List String) :
    References.check d.masked.toValue pointers = References.check d.toValue pointers := by
  have hpointer (p : String) : References.checkPointer d.masked.definitionsValue p =
      References.checkPointer d.definitionsValue p := by
    unfold References.checkPointer
    simp only [hasMember_definitionsValue, masked, names_mapNamed]
  rw [toValue_eq, toValue_eq, References.check, References.check, inDocument_masked hmethods,
    sectionOf_definitions, sectionOf_definitions, funext hpointer]

end Document

/-- A configuration without its data. -/
def DocumentConfig.masked (config : DocumentConfig) : DocumentConfig :=
  { config with definitions := mapNamed Node.masked config.definitions }

/-- Options without their data. -/
def Options.masked (options : Options) : Options :=
  { options with defaultResponses :=
    options.defaultResponses.map (Option.map (mapNamed Output.masked)) }

namespace Work

/-! ## Drafts -/

theorem definitions_masked (config : DocumentConfig) :
    definitions config.masked = mapNamed Schema.masked <$> definitions config := by
  unfold definitions
  rw [DocumentConfig.masked, mapM_mapNamed]
  refine mapM_hom fun e => ?_
  obtain ⟨name, n⟩ := e
  refine bind_hom (inline_masked (some n)) fun schema => ?_
  rw [map_pure]

/-- What is known of the paths, without data. -/
def Paths.masked (known : Paths) : Paths :=
  { known with paths := mapNamed (mapNamed Operation.masked) known.paths }

theorem addRoute_masked (defaults : List (String × Output)) (known : Paths) (r : Route) :
    addRoute (mapNamed Output.masked defaults) known.masked r.masked =
      Paths.masked <$> addRoute defaults known r := by
  have hpath : r.masked.fullPath = r.fullPath := rfl
  have hmethod : r.masked.method = r.method := rfl
  have hmethods : (getNamed? r.fullPath known.masked.paths).getD [] =
      mapNamed Operation.masked ((getNamed? r.fullPath known.paths).getD []) := by
    rw [Paths.masked, getNamed?_mapNamed]
    cases getNamed? r.fullPath known.paths <;> rfl
  refine bind_hom (operation_masked defaults r) fun o => ?_
  dsimp only
  rw [hpath, hmethod, hmethods, getNamed?_mapNamed, Option.isSome_map, Paths.masked]
  dsimp only
  rw [putNamed_mapNamed, putNamed_mapNamed]
  split
  · refine bind_hom_left _ fun _ => ?_
    rw [map_pure]
    rfl
  · rw [map_pure]
    rfl

theorem effectiveResponses_masked (options : Options) :
    options.masked.effectiveResponses = mapNamed Output.masked options.effectiveResponses := by
  obtain ⟨_ | _ | responses⟩ := options <;> rfl

/-- **The draft** of inputs without data is the draft without its data. -/
theorem draft_masked (config : DocumentConfig) (options : Options) (routes : List Route) :
    draft config.masked options.masked (routes.map Route.masked) =
      Document.masked <$> draft config options routes := by
  have hrounds : (routes.map Route.masked).foldlM (addRoute options.masked.effectiveResponses) {} =
      Paths.masked <$> routes.foldlM (addRoute options.effectiveResponses) {} := by
    have hstart : ({} : Paths) = Paths.masked {} := rfl
    rw [List.foldlM_map, effectiveResponses_masked, hstart]
    exact foldlM_hom (addRoute_masked _)
  refine bind_hom (definitions_masked config) fun defs => bind_hom hrounds fun known =>
    bind_hom_left _ fun tags => ?_
  rw [map_pure]
  rfl

theorem exec_map {α β : Type} (f : α → β) (x : Work α) (s : Session) :
    exec (f <$> x) s = ((exec x s).1.map f, (exec x s).2) := by
  rw [map_eq_pure_bind, exec_bind]
  rcases exec x s with ⟨e | a, t⟩ <;> rfl

/-- **The document** of inputs without data is the document without its data, and the work on it is
the same. -/
theorem exec_document_masked (config : DocumentConfig) (options : Options) (routes : List Route) :
    exec (document config.masked options.masked (routes.map Route.masked)) {} =
      ((exec (document config options routes) {}).1.map Document.masked,
        (exec (document config options routes) {}).2) := by
  rw [exec_document, exec_document, draft_masked, exec_map]
  rcases hdraft : exec (draft config options routes) {} with ⟨e | d, t⟩
  · rfl
  · dsimp only [Except.map]
    rw [Document.check_masked (references_of_draft hdraft).methods]
    cases References.check d.toValue t.registry.pointers with
    | error e => rfl
    | ok _ =>
      dsimp only
      rw [Document.masked]
      simp only [mapNamed, List.length_map]

end Work

namespace Api

variable {config config' : DocumentConfig} {options options' : Options}
    {routes routes' : List Route}

theorem generate_masked (config : DocumentConfig) (options : Options) (routes : List Route) :
    (Api.mk (routes.map Route.masked)).generate config.masked options.masked =
      (((Api.mk routes).generate config options).1.map Document.masked,
        ((Api.mk routes).generate config options).2) := by
  rw [generate_eq, Work.exec_document_masked, generate_eq]

theorem methods_of_generate {d : Document}
    (h : ((Api.mk routes).generate config options).1 = .ok d) :
    ∀ e ∈ d.paths, ∀ f ∈ e.2, ∃ m : Method, f.1 = m.name :=
  have ⟨_, hdraft, _⟩ := draft_of_generate (Prod.ext h rfl)
  (Work.references_of_draft hdraft).methods

/-- Results that a function maps to the same result are both values or the same error. -/
theorem ok_or_error_of_map_eq {α β ε : Type} {f : α → β} {x y : Except ε α}
    (h : x.map f = y.map f) :
    (∃ a b, x = .ok a ∧ y = .ok b ∧ f a = f b) ∨ ∃ e, x = .error e ∧ y = .error e := by
  cases x with
  | error e =>
    cases y with
    | error e' => exact .inr ⟨e, rfl, (Except.error.inj h).symm ▸ rfl⟩
    | ok b => cases h
  | ok a =>
    cases y with
    | error e' => cases h
    | ok b => exact .inl ⟨a, b, rfl, rfl, Except.ok.inj h⟩

/-- **Data does not matter.** From inputs that differ only in their data come documents that differ
only in their data, or the same error. The notices are the same, and so are the pointers that are
recorded and those that the search finds. -/
theorem generate_of_masked (hconfig : config.masked = config'.masked)
    (hoptions : options.masked = options'.masked)
    (hroutes : routes.map Route.masked = routes'.map Route.masked) :
    ((∃ d d', ((Api.mk routes).generate config options).1 = .ok d ∧
          ((Api.mk routes').generate config' options').1 = .ok d' ∧
          d.toValue.withoutData .document = d'.toValue.withoutData .document) ∨
        ∃ e, ((Api.mk routes).generate config options).1 = .error e ∧
          ((Api.mk routes').generate config' options').1 = .error e) ∧
      ((Api.mk routes).generate config options).2 = ((Api.mk routes').generate config' options').2 ∧
      (Work.exec (Work.draft config options routes) {}).2 =
        (Work.exec (Work.draft config' options' routes') {}).2 ∧
      ∀ d d' t t', Work.Run (Work.draft config options routes) {} d t →
        Work.Run (Work.draft config' options' routes') {} d' t' →
        References.inDocument d.entries = References.inDocument d'.entries := by
  -- Without their data the inputs are the same, so both runs are compared with one.
  have hgenerate := generate_masked config options routes
  rw [hconfig, hoptions, hroutes, generate_masked] at hgenerate
  obtain ⟨hresult, hnotices⟩ := Prod.mk.inj hgenerate
  have hdraft := congrArg (Work.exec · {}) (Work.draft_masked config options routes)
  rw [hconfig, hoptions, hroutes, Work.draft_masked] at hdraft
  rw [Work.exec_map, Work.exec_map] at hdraft
  obtain ⟨hdrafts, hsessions⟩ := Prod.mk.inj hdraft
  refine ⟨?_, hnotices.symm, hsessions.symm, fun d d' t t' h h' => ?_⟩
  · obtain ⟨d', d, h', h, heq⟩ | ⟨e, h', h⟩ := ok_or_error_of_map_eq hresult
    · refine .inl ⟨d, d', h, h', ?_⟩
      rw [← Document.withoutData_masked (methods_of_generate h),
        ← Document.withoutData_masked (methods_of_generate h'), heq]
    · exact .inr ⟨e, h, h'⟩
  · rw [h, h'] at hdrafts
    rw [← Document.inDocument_masked (Work.references_of_draft h).methods,
      ← Document.inDocument_masked (Work.references_of_draft h').methods, Except.ok.inj hdrafts]

namespace Sample

def textWith (default : Value) (values : List Value) : Node :=
  { kind := "string", enum := some values, defaultValue := default }

/-- A configuration in which a text with some data is defined. -/
def defining (default : Value) (values : List Value) : DocumentConfig :=
  { info := [], basePath := "/", definitions := [("A", textWith default values)] }

def query (default : Value) (values : List Value) : Node :=
  { kind := "object", properties := some [("default", textWith default values)] }

def taking (default : Value) (values : List Value) : Route :=
  { method := .get, path := "/a", request := some { query := some (query default values) } }

/-- Data in the form of a reference to a definition that is not there. -/
def pointing : Value := .object [("$ref", .str "#/definitions/B")]

end Sample

theorem generate_of_masked_sample :
    (Sample.defining Sample.pointing [Sample.pointing]).masked =
        (Sample.defining (.int 1) [.int 1, .int 2]).masked ∧
      [Sample.taking Sample.pointing [Sample.pointing]].map Route.masked =
        [Sample.taking (.int 1) [.int 1, .int 2]].map Route.masked ∧
      ∃ d d', ((Api.mk [Sample.taking Sample.pointing [Sample.pointing]]).generate
            (Sample.defining Sample.pointing [Sample.pointing]) {}).1 = .ok d ∧
          ((Api.mk [Sample.taking (.int 1) [.int 1, .int 2]]).generate
            (Sample.defining (.int 1) [.int 1, .int 2]) {}).1 = .ok d' ∧
        d.toValue.withoutData .document = d'.toValue.withoutData .document := by
  have hconfig : (Sample.defining Sample.pointing [Sample.pointing]).masked =
      (Sample.defining (.int 1) [.int 1, .int 2]).masked := rfl
  have hroutes : [Sample.taking Sample.pointing [Sample.pointing]].map Route.masked =
      [Sample.taking (.int 1) [.int 1, .int 2]].map Route.masked := rfl
  have hok : ∃ d, ((Api.mk [Sample.taking (.int 1) [.int 1, .int 2]]).generate
      (Sample.defining (.int 1) [.int 1, .int 2]) {}).1 = .ok d := ⟨_, rfl⟩
  have hoptions : ({} : Options).masked = ({} : Options).masked := rfl
  obtain ⟨hresult, -⟩ := generate_of_masked hconfig hoptions hroutes
  refine ⟨hconfig, hroutes, ?_⟩
  obtain hdocuments | ⟨e, -, he⟩ := hresult
  · exact hdocuments
  · obtain ⟨d, hd⟩ := hok
    rw [hd] at he
    cases he

end Api

end ApiDoc
