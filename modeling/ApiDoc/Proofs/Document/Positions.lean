import ApiDoc.Proofs.Document.Draft
import ApiDoc.Proofs.Schema.Positions

/-!
# Schema positions in documents

The schemas of a document are its definitions, the body parameters' schemas, the other parameters
themselves, the responses' schemas and the headers, and what stands in these at schema positions
(`Value.DocumentSchema`). As for a single schema, this is said of the document as a value.

A document is written from operations and definitions whose references are among some pointers
(`Document.RefersAmong`). Two facts connect the positions with that:

- every schema position of the document is a written schema whose references are among the pointers
  (`Document.writes_of_documentSchema`);
- what the search for references finds stands under `$ref` at a schema position
  (`Document.documentSchema_of_search`).
-/

namespace ApiDoc

namespace Value

/-- The schemas that an operation starts with. A parameter outside of the body is itself one. -/
inductive OperationSchema (op : Value) : Value → Prop
  | parameter {ps p : Value} :
      op.Has "parameters" ps → ps.Lists p → ¬ p.Has "in" (.str "body") → OperationSchema op p
  | body {ps p v : Value} :
      op.Has "parameters" ps → ps.Lists p → p.Has "in" (.str "body") → p.Has "schema" v →
      OperationSchema op v
  | response {rs r v : Value} {status : String} :
      op.Has "responses" rs → rs.Has status r → r.Has "schema" v → OperationSchema op v
  | header {rs r hs v : Value} {status name : String} :
      op.Has "responses" rs → rs.Has status r → r.Has "headers" hs → hs.Has name v →
      OperationSchema op v

/-- A value stands at a schema position of a document. -/
inductive DocumentSchema (doc : Value) : Value → Prop
  | definition {ds v w : Value} {name : String} :
      doc.Has "definitions" ds → ds.Has name v → v.SchemaIn w → DocumentSchema doc w
  | operation {ps item op v w : Value} {path method : String} :
      doc.Has "paths" ps → ps.Has path item → item.Has method op → op.OperationSchema v →
      v.SchemaIn w → DocumentSchema doc w

/-- What the search finds in a mapping of keywords with text keys. -/
theorem mem_inValue_object {es : List (String × Value)} {p : String}
    (h : p ∈ References.inValue false (.object es)) :
    ∃ key v, (key, v) ∈ es ∧
      ((key = "$ref" ∧ v = .str p) ∨ p ∈ References.inValue (key ∈ References.nameMaps) v) := by
  rw [object, References.inValue] at h
  obtain ⟨key, v, hmem, -, hfound⟩ := References.mem_inEntries_keywords (by
    intro e he
    obtain ⟨⟨k, v⟩, -, rfl⟩ := List.mem_map.mp he
    exact ⟨k, rfl⟩) h
  exact ⟨key, v, has_object.mp (has_map.mpr hmem), hfound⟩

/-- What the search finds in a mapping from names. -/
theorem mem_inValue_names {es : List (String × Value)} {p : String}
    (h : p ∈ References.inValue true (.object es)) :
    ∃ key v, (key, v) ∈ es ∧ p ∈ References.inValue false v := by
  rw [object, References.inValue] at h
  obtain ⟨e, he, hp⟩ := References.mem_inEntries_names h
  obtain ⟨⟨k, v⟩, hmem, rfl⟩ := List.mem_map.mp he
  exact ⟨k, v, hmem, hp⟩

end Value

/-! ## Parameters -/

namespace Parameter

variable {place : Place} {known : List String} {v w : Value}

theorem writes_simple (name : String) (location : Location) (required : Bool) (s : Schema) :
    ((simple name location required s).toValueAt place).Writes s := by
  refine ⟨.none, _, true, place, place, _, rfl, ?_⟩
  intro e he
  simp only [List.mem_cons, List.not_mem_nil, or_false] at he
  rcases he with rfl | rfl | rfl <;> simp [References.inValue]

/-- A parameter outside of the body says so. -/
theorem not_has_in_body {name : String} {location : Location} {required : Bool} {s : Schema}
    (hs : s.Among known) :
    ¬ ((simple name location required s).toValueAt place).Has "in" (.str "body") := by
  intro h
  rcases List.mem_append.mp (Value.has_map.mp h) with h | h
  · cases location <;> simp [Location.name] at h
  · rw [Schema.flatEntries, Schema.entries_eq, List.mem_map] at h
    obtain ⟨k, hk, heq⟩ := h
    have hname := Value.str.inj (Prod.mk.inj heq).1
    cases k with
    | custom => exact (Schema.everywhere_iff.mp hs _ hk).1
    | bound b n => cases b <;> simp [Keyword.name, Bound.name] at hname
    | _ => simp [Keyword.name] at hname

theorem writes_of_has_schema {p : Parameter} (hs : p.schema.Among known)
    (hin : (p.toValueAt place).Has "in" (.str "body")) (hv : (p.toValueAt place).Has "schema" v) :
    v.Writes p.schema := by
  cases p with
  | simple name location required s => exact absurd hin (not_has_in_body hs)
  | body s =>
    have hmem := Value.has_object.mp hv
    simp only [List.mem_cons, List.not_mem_nil, or_false, Prod.mk.injEq] at hmem
    rcases hmem with ⟨h, -⟩ | ⟨h, -⟩ | ⟨h, -⟩ | ⟨-, rfl⟩
    · simp at h
    · simp at h
    · simp at h
    · exact Schema.writes_toValueAt _ s

theorem mem_parameterValues {ps : List Parameter} {at_ : Place} {n : Nat}
    (h : v ∈ Operation.parameterValues at_ n ps) : ∃ p ∈ ps, ∃ place, v = p.toValueAt place := by
  induction ps generalizing n with
  | nil => simp [Operation.parameterValues] at h
  | cons p ps ih =>
    rw [Operation.parameterValues] at h
    rcases List.mem_cons.mp h with rfl | h
    · exact ⟨p, List.mem_cons_self, _, rfl⟩
    · obtain ⟨q, hq, hplace⟩ := ih h
      exact ⟨q, List.mem_cons_of_mem p hq, hplace⟩

end Parameter

/-! ## Responses -/

namespace Response

variable {place : Place} {r : Response} {v hs : Value} {name : String}

/-- Everything that a response has: its description, its schema and its headers, where it has
them. -/
theorem has_cases {key : String} (h : (r.toValueAt place).Has key v) :
    (key = "description" ∧ v = .str r.description) ∨
      (key = "schema" ∧ ∃ s, r.schema = some s ∧ v = s.toValueAt ("schema" :: place)) ∨
      key = "headers" ∧ ∃ es, r.headers = some es ∧
        v = .object (es.map fun (name, s) => (name, s.flatValueAt (name :: place))) := by
  have hmem := Value.has_object.mp h
  obtain ⟨description, schema, headers⟩ := r
  simp only [List.mem_append, List.mem_singleton, Prod.mk.injEq] at hmem
  rcases hmem with (hdescription | hmem) | hmem
  · exact .inl hdescription
  · cases schema with
    | none => simp at hmem
    | some s =>
      simp only [List.mem_singleton, Prod.mk.injEq] at hmem
      exact .inr (.inl ⟨hmem.1, s, rfl, hmem.2⟩)
  · cases headers with
    | none => simp at hmem
    | some es =>
      simp only [List.mem_singleton, Prod.mk.injEq] at hmem
      exact .inr (.inr ⟨hmem.1, es, rfl, hmem.2⟩)

theorem writes_of_has_schema (h : (r.toValueAt place).Has "schema" v) :
    ∃ s ∈ r.schemas, v.Writes s := by
  obtain ⟨hkey, -⟩ | ⟨-, s, hs, rfl⟩ | ⟨hkey, -⟩ := has_cases h
  · simp at hkey
  · exact ⟨s, by simp [schemas, hs], Schema.writes_toValueAt _ s⟩
  · simp at hkey

theorem exists_of_has_headers (h : (r.toValueAt place).Has "headers" hs) (hv : hs.Has name v) :
    ∃ e ∈ r.headers.getD [], ∃ at_, v = e.2.flatValueAt at_ := by
  obtain ⟨hkey, -⟩ | ⟨hkey, -⟩ | ⟨-, es, hes, rfl⟩ := has_cases h
  · simp at hkey
  · simp at hkey
  · obtain ⟨e, he, heq⟩ := List.mem_map.mp (Value.has_object.mp hv)
    exact ⟨e, by rwa [hes], _, (Prod.mk.inj heq).2.symm⟩

theorem writes_of_has_headers (h : (r.toValueAt place).Has "headers" hs) (hv : hs.Has name v) :
    ∃ s ∈ r.schemas, v.Writes s := by
  obtain ⟨e, he, at_, rfl⟩ := exists_of_has_headers h hv
  refine ⟨e.2, ?_, Schema.writes_flatValueAt _ e.2⟩
  simp only [schemas, List.mem_append]
  exact .inr (List.mem_map.mpr ⟨e, he, rfl⟩)

/-- What the search finds in a response is found in its schema or in one of its headers. -/
theorem search {p : String} (h : p ∈ References.inValue false (r.toValueAt place)) :
    (∃ v, (r.toValueAt place).Has "schema" v ∧ p ∈ References.inValue false v) ∨
      ∃ hs name v, (r.toValueAt place).Has "headers" hs ∧ hs.Has name v ∧
        p ∈ References.inValue false v := by
  obtain ⟨key, v, hmem, hfound⟩ := Value.mem_inValue_object h
  have hhas := Value.has_object.mpr hmem
  obtain ⟨rfl, rfl⟩ | ⟨rfl, -⟩ | ⟨rfl, es, -, rfl⟩ := has_cases hhas
  · simp [References.inValue] at hfound
  · refine .inl ⟨_, hhas, ?_⟩
    simpa [References.nameMaps] using hfound
  · rcases hfound with ⟨h, -⟩ | hfound
    · simp at h
    rw [show decide ("headers" ∈ References.nameMaps) = true by decide] at hfound
    obtain ⟨name, v, hmem, hp⟩ := Value.mem_inValue_names hfound
    exact .inr ⟨_, name, v, hhas, Value.has_object.mpr hmem, hp⟩

end Response

/-! ## Operations -/

namespace Operation

variable {at_ : Place} {o : Operation} {known : List String} {v : Value}

/-- What an operation says beside its parameters and responses is text, under keys of its own. -/
theorem toValueAt_eq (at_ : Place) (o : Operation) :
    ∃ pre : List (String × Value), o.toValueAt at_ = .object (pre ++
        [("parameters", .listOf (parameterValues ("parameters" :: at_) 0 o.parameters)),
          ("responses", .object (o.responses.map fun (status, r) =>
            (status, r.toValueAt (status :: "responses" :: at_))))]) ∧
      ∀ e ∈ pre, e.1 ∈ ["tags", "summary", "description", "operationId", "deprecated", "consumes"] ∧
        References.inValue false e.2 = [] := by
  refine ⟨_, rfl, ?_⟩
  have htext {name : String} {text : Option String} (hname : name ∈
      ["tags", "summary", "description", "operationId", "deprecated", "consumes"]) :
      ∀ e ∈ textEntry name text, e.1 ∈
        ["tags", "summary", "description", "operationId", "deprecated", "consumes"] ∧
        References.inValue false e.2 = [] := by
    cases text <;> simp_all [textEntry, References.inValue]
  simp only [List.forall_mem_append]
  refine ⟨⟨⟨⟨⟨?_, htext (by simp)⟩, htext (by simp)⟩, htext (by simp)⟩, ?_⟩, ?_⟩
  · split <;> simp [Value.strings, References.inValue, References.inItems_strs]
  · cases o.info.deprecated <;> simp [References.inValue]
  · cases o.consumes <;> simp [Value.strings, References.inValue, References.inItems]

theorem has_parameters_iff : (o.toValueAt at_).Has "parameters" v ↔
    v = .listOf (parameterValues ("parameters" :: at_) 0 o.parameters) := by
  obtain ⟨pre, heq, hpre⟩ := toValueAt_eq at_ o
  have hnot : ("parameters", v) ∉ pre := fun h => absurd (hpre _ h).1 (by simp)
  simp [heq, Value.has_object, hnot]

theorem has_responses (h : (o.toValueAt at_).Has "responses" v) :
    v = .object (o.responses.map fun (status, r) =>
      (status, r.toValueAt (status :: "responses" :: at_))) := by
  obtain ⟨pre, heq, hpre⟩ := toValueAt_eq at_ o
  rw [heq, Value.has_object, List.mem_append] at h
  rcases h with h | h
  · exact absurd (hpre _ h).1 (by simp)
  · simpa using h

theorem schema_mem_schemas {p : Parameter} (hp : p ∈ o.parameters) : p.schema ∈ o.schemas :=
  List.mem_append_left _ (List.mem_map.mpr ⟨p, hp, rfl⟩)

theorem mem_schemas_of_response {e : String × Response} {s : Schema} (he : e ∈ o.responses)
    (hs : s ∈ e.2.schemas) : s ∈ o.schemas :=
  List.mem_append_right _ (List.mem_flatMap.mpr ⟨e, he, hs⟩)

theorem exists_of_has_responses {rs r : Value} {status : String}
    (hrs : (o.toValueAt at_).Has "responses" rs) (hr : rs.Has status r) :
    ∃ e ∈ o.responses, ∃ place, r = e.2.toValueAt place := by
  rw [has_responses hrs, Value.has_object] at hr
  obtain ⟨e, he, heq⟩ := List.mem_map.mp hr
  exact ⟨e, he, _, (Prod.mk.inj heq).2.symm⟩

/-- The schemas that a written operation starts with are written schemas of the operation. -/
theorem writes_of_operationSchema (hs : ∀ s ∈ o.schemas, s.Among known)
    (h : (o.toValueAt at_).OperationSchema v) : ∃ s ∈ o.schemas, v.Writes s := by
  cases h with
  | parameter hps hp hin =>
    rw [has_parameters_iff.mp hps, Value.lists_list] at hp
    obtain ⟨p, hmem, place, rfl⟩ := Parameter.mem_parameterValues hp
    -- A simple parameter is a schema itself; a body parameter only holds one.
    cases p with
    | simple name location required s =>
      exact ⟨s, schema_mem_schemas hmem, Parameter.writes_simple name location required s⟩
    | body s => exact absurd (Value.has_object.mpr (by simp)) hin
  | body hps hp hin hv =>
    rw [has_parameters_iff.mp hps, Value.lists_list] at hp
    obtain ⟨p, hmem, place, rfl⟩ := Parameter.mem_parameterValues hp
    have hschema := schema_mem_schemas hmem
    exact ⟨p.schema, hschema, Parameter.writes_of_has_schema (hs _ hschema) hin hv⟩
  | response hrs hr hv =>
    obtain ⟨e, he, place, rfl⟩ := exists_of_has_responses hrs hr
    obtain ⟨s, hmem, hwritten⟩ := Response.writes_of_has_schema hv
    exact ⟨s, mem_schemas_of_response he hmem, hwritten⟩
  | header hrs hr hhs hv =>
    obtain ⟨e, he, place, rfl⟩ := exists_of_has_responses hrs hr
    obtain ⟨s, hmem, hwritten⟩ := Response.writes_of_has_headers hhs hv
    exact ⟨s, mem_schemas_of_response he hmem, hwritten⟩

/-- What the search finds in a parameter is found in a schema that the operation starts with. -/
theorem search_parameter {q : Parameter} {p : String} {place : Place} {ps : Value}
    (hs : q.schema.Among known) (hps : (o.toValueAt at_).Has "parameters" ps)
    (hq : ps.Lists (q.toValueAt place)) (hp : p ∈ References.inValue false (q.toValueAt place)) :
    ∃ v, (o.toValueAt at_).OperationSchema v ∧ p ∈ References.inValue false v := by
  cases q with
  | simple name location required s =>
    exact ⟨_, .parameter hps hq (Parameter.not_has_in_body hs), hp⟩
  | body s =>
    obtain ⟨key, v, hmem, hfound⟩ := Value.mem_inValue_object hp
    have hin : ((Parameter.body s).toValueAt place).Has "in" (.str "body") :=
      Value.has_object.mpr (by simp)
    have hhas := Value.has_object.mpr hmem
    simp only [List.mem_cons, List.not_mem_nil, or_false, Prod.mk.injEq] at hmem
    rcases hmem with ⟨rfl, rfl⟩ | ⟨rfl, rfl⟩ | ⟨rfl, rfl⟩ | ⟨rfl, rfl⟩
    · simp [References.inValue] at hfound
    · simp [References.inValue] at hfound
    · simp [References.inValue] at hfound
    · exact ⟨_, .body hps hq hin hhas, by simpa [References.nameMaps] using hfound⟩

/-- What the search finds in an operation is found in a schema that the operation starts with. -/
theorem search {p : String} (hs : ∀ s ∈ o.schemas, s.Among known)
    (h : p ∈ References.inValue false (o.toValueAt at_)) :
    ∃ v, (o.toValueAt at_).OperationSchema v ∧ p ∈ References.inValue false v := by
  obtain ⟨pre, heq, hpre⟩ := toValueAt_eq at_ o
  rw [heq] at h
  obtain ⟨key, v, hmem, hfound⟩ := Value.mem_inValue_object h
  have hhas : (o.toValueAt at_).Has key v := by rw [heq]; exact Value.has_object.mpr hmem
  rcases List.mem_append.mp hmem with hmem | hmem
  · -- Texts have no references.
    obtain ⟨hkey, hempty⟩ := hpre _ hmem
    have hnot : key ≠ "$ref" ∧ key ∉ References.nameMaps := by
      simp only [List.mem_cons, List.not_mem_nil, or_false] at hkey
      rcases hkey with rfl | rfl | rfl | rfl | rfl | rfl <;> simp [References.nameMaps]
    simp [hnot.1, hnot.2, hempty] at hfound
  · simp only [List.mem_cons, List.not_mem_nil, or_false, Prod.mk.injEq] at hmem
    rcases hmem with ⟨rfl, hv⟩ | ⟨rfl, hv⟩
    · have hitems :
          p ∈ References.inItems (parameterValues ("parameters" :: at_) 0 o.parameters) := by
        simpa [hv, References.nameMaps, References.inValue] using hfound
      obtain ⟨x, hx, hp⟩ := References.mem_inItems.mp hitems
      obtain ⟨q, hq, place, rfl⟩ := Parameter.mem_parameterValues hx
      have hlists : v.Lists (q.toValueAt place) := by rw [hv]; exact Value.lists_list.mpr hx
      exact search_parameter (hs _ (schema_mem_schemas hq)) hhas hlists hp
    · have hnames : p ∈ References.inValue true (.object (o.responses.map fun (status, r) =>
          (status, r.toValueAt (status :: "responses" :: at_)))) := by
        simpa [hv, References.nameMaps] using hfound
      obtain ⟨status, r, hr, hp⟩ := Value.mem_inValue_names hnames
      have hstatus : v.Has status r := by rw [hv]; exact Value.has_object.mpr hr
      obtain ⟨e, he, heq⟩ := List.mem_map.mp hr
      obtain rfl := (Prod.mk.inj heq).2
      rcases Response.search hp with ⟨x, hx, hp⟩ | ⟨hs, name, x, hhs, hx, hp⟩
      · exact ⟨x, .response hhas hstatus hx, hp⟩
      · exact ⟨x, .header hhas hstatus hhs hx, hp⟩

end Operation

/-! ## Documents -/

namespace Document

variable {d : Document} {known : List String} {v w : Value}

def entries (d : Document) : Entries :=
  (d.extra.foldl (fun es (key, v) => if (getNamed? key es).isSome then es else es ++ [(key, v)])
    d.fields).map fun (k, v) => (.str k, v)

theorem toValue_eq (d : Document) : d.toValue = .map .none d.entries := rfl

def pathsValue (d : Document) : Value :=
  .object (d.paths.map fun (path, methods) =>
    (path, .object (methods.map fun (method, o) => (method, o.toValueAt [method, path, "paths"]))))

def definitionsValue (d : Document) : Value :=
  .object (d.definitions.map fun (name, s) => (name, s.toValueAt [name, "definitions"]))

theorem extend_eq_append (extra fields : List (String × Value)) :
    ∃ rest, extra.foldl (fun es (key, v) => if (getNamed? key es).isSome then es
        else es ++ [(key, v)]) fields = fields ++ rest ∧
      ∀ e ∈ rest, e.1 ∉ fields.map (·.1) := by
  induction extra generalizing fields with
  | nil => exact ⟨[], by simp, by simp⟩
  | cons e extra ih =>
    obtain ⟨key, v⟩ := e
    simp only [List.foldl_cons]
    by_cases hnew : key ∈ fields.map (·.1)
    · rw [if_pos (isSome_getNamed?_iff.mpr hnew)]
      exact ih fields
    · rw [if_neg (mt isSome_getNamed?_iff.mp hnew)]
      obtain ⟨rest, heq, hrest⟩ := ih (fields ++ [(key, v)])
      refine ⟨(key, v) :: rest, by rw [heq, List.append_assoc]; rfl, ?_⟩
      intro e he
      rcases List.mem_cons.mp he with rfl | he
      · exact hnew
      · intro hmem
        exact hrest e he (by rw [List.map_append]; exact List.mem_append_left _ hmem)

/-- Further fields do not hide those that every document has. -/
theorem has_of_mem_fields {key : String} (hfield : (key, v) ∈ d.fields)
    (hunique : ∀ u, (key, u) ∈ d.fields → u = v) : d.toValue.Has key w ↔ w = v := by
  obtain ⟨rest, heq, hrest⟩ := extend_eq_append d.extra d.fields
  rw [toValue, heq, Value.has_object, List.mem_append]
  constructor
  · rintro (h | h)
    · exact hunique w h
    · exact absurd (List.mem_map.mpr ⟨(key, v), hfield, rfl⟩) (hrest (key, w) h)
  · rintro rfl
    exact .inl hfield

theorem has_paths : d.toValue.Has "paths" w ↔ w = d.pathsValue :=
  has_of_mem_fields (by simp [fields, pathsValue]) (by simp [fields, pathsValue])

theorem has_definitions : d.toValue.Has "definitions" w ↔ w = d.definitionsValue :=
  has_of_mem_fields (by simp [fields, definitionsValue]) (by simp [fields, definitionsValue])

theorem sectionOf_paths (d : Document) : References.sectionOf d.entries "paths" = d.pathsValue := by
  obtain ⟨rest, heq, -⟩ := extend_eq_append d.extra d.fields
  rw [References.sectionOf, entries, get?_map_str, heq]
  simp [fields, getNamed?, pathsValue]

theorem sectionOf_definitions (d : Document) :
    References.sectionOf d.entries "definitions" = d.definitionsValue := by
  obtain ⟨rest, heq, -⟩ := extend_eq_append d.extra d.fields
  rw [References.sectionOf, entries, get?_map_str, heq]
  simp [fields, getNamed?, definitionsValue]

/-- **Schema positions of a document** are written schemas that refer to some pointers only. -/
theorem writes_of_documentSchema (hd : d.RefersAmong known) (h : d.toValue.DocumentSchema w) :
    ∃ t, w.Writes t ∧ t.Among known := by
  cases h with
  | definition hds hv hw =>
    rw [has_definitions.mp hds] at hv
    obtain ⟨⟨name, s⟩, he, heq⟩ := List.mem_map.mp (Value.has_object.mp hv)
    obtain rfl := (Prod.mk.inj heq).2
    exact Value.writes_of_schemaIn hw (Schema.writes_toValueAt _ s) (hd.definitions _ he)
  | operation hps hitem hop hv hw =>
    rw [has_paths.mp hps] at hitem
    obtain ⟨⟨path, methods⟩, he, heq⟩ := List.mem_map.mp (Value.has_object.mp hitem)
    obtain rfl := (Prod.mk.inj heq).2
    obtain ⟨⟨method, o⟩, hf, heq⟩ := List.mem_map.mp (Value.has_object.mp hop)
    obtain rfl := (Prod.mk.inj heq).2
    have hs := hd.operations _ he _ hf
    obtain ⟨s, hmem, hwritten⟩ := Operation.writes_of_operationSchema hs hv
    exact Value.writes_of_schemaIn hw hwritten (hs s hmem)

theorem method_notMem_nameMaps (m : Method) : m.name ∉ References.nameMaps := by
  cases m <;> simp [Method.name, References.nameMaps]

/-- **What the search finds** in a document stands under `$ref` at a schema position. -/
theorem documentSchema_of_search {p : String} (hd : d.RefersAmong known)
    (h : p ∈ References.inDocument d.entries) :
    ∃ w, d.toValue.DocumentSchema w ∧ w.Has "$ref" (.str p) := by
  rw [References.inDocument, sectionOf_paths, sectionOf_definitions] at h
  rcases List.mem_append.mp h with h | h
  · obtain ⟨path, item, hitem, h⟩ := Value.mem_inValue_names h
    obtain ⟨⟨path', methods⟩, he, heq⟩ := List.mem_map.mp hitem
    obtain rfl := (Prod.mk.inj heq).2
    obtain ⟨method, op, hop, hfound⟩ := Value.mem_inValue_object h
    have hhas := Value.has_object.mpr hop
    obtain ⟨⟨method', o⟩, hf, heq⟩ := List.mem_map.mp hop
    obtain ⟨rfl, rfl⟩ := Prod.mk.inj heq
    obtain ⟨m, hm⟩ := hd.methods _ he _ hf
    -- No method is named like a map of names, so the search goes on among keywords.
    have hp : p ∈ References.inValue false (o.toValueAt [method', path', "paths"]) := by
      rcases hfound with ⟨-, h⟩ | h
      · obtain ⟨pre, heq, -⟩ := Operation.toValueAt_eq [method', path', "paths"] o
        simp [heq, Value.object] at h
      · have hmethod : method' = m.name := hm
        have hname : method' ∉ References.nameMaps := by
          rw [hmethod]
          exact method_notMem_nameMaps m
        simpa [hname] using h
    have hs := hd.operations _ he _ hf
    -- From the operation to a schema in it, and from there to the one that refers.
    obtain ⟨v, hv, hp⟩ := Operation.search hs hp
    obtain ⟨s, hmem, hwritten⟩ := Operation.writes_of_operationSchema hs hv
    obtain ⟨w, hw, href⟩ := Value.schemaIn_of_mem_inValue hwritten (hs s hmem) hp
    exact ⟨w, .operation (has_paths.mpr rfl) (Value.has_object.mpr hitem) hhas hv hw, href⟩
  · obtain ⟨name, v, hv, hp⟩ := Value.mem_inValue_names h
    obtain ⟨⟨name', s⟩, he, heq⟩ := List.mem_map.mp hv
    obtain rfl := (Prod.mk.inj heq).2
    obtain ⟨w, hw, href⟩ :=
      Value.schemaIn_of_mem_inValue (Schema.writes_toValueAt _ s) (hd.definitions _ he) hp
    exact ⟨w, .definition (has_definitions.mpr rfl) (Value.has_object.mpr hv) hw, href⟩

end Document

end ApiDoc
