import ApiDoc.Api
import ApiDoc.Proofs.Router.Methods
import ApiDoc.Proofs.Schema.Written

/-!
# Reading routers that are written

What is read has a normal form: written as the mapping of its fields that are set, it is read again
as what it was (`Checked.IsStable`). For each part of a router there are two lemmas. One is about
any value of the part: it is read back when the parts in it are. The other one is about the values
that are read: the parts in them have been read themselves, so they are read back.

Main statement: `Router.ofValue_write`.
-/

namespace ApiDoc

open Checked (valid)

/-! ## Information about routes -/

namespace RouteInfo

/-- What is written for the information about a route. -/
def fields (i : RouteInfo) : List (String × Option Value) :=
  [("summary", i.summary.map .str), ("description", i.description.map .str),
    ("tags", if i.tags.isEmpty then none else some (.listOf (i.tags.map .str))),
    ("operation_id", i.operationId.map .str), ("deprecated", i.deprecated.map .bool),
    ("ignore", if i.ignore then some (.bool true) else none)]

theorem write_eq (i : RouteInfo) : i.write = .object (setFields i.fields) := by
  rw [write, listEntry_eq, flagEntry_eq]
  simp only [optionalEntry_eq, ← setFields_append]
  rfl

theorem exists_entries (i : RouteInfo) :
    ∃ es, i.write.entries? = some es ∧ HasFields es i.fields := by
  have hnames : i.fields.map (·.1) =
      ["summary", "description", "tags", "operation_id", "deprecated", "ignore"] := rfl
  rw [write_eq]
  exact exists_hasFields (by rw [hnames]; decide)

/-- The information about a route is read back: nothing is written under `swagger`. -/
theorem read_write (i : RouteInfo) : read i.write = valid i := by
  obtain ⟨es, hentries, hes⟩ := i.exists_entries
  -- The writer puts nothing under `swagger`, so the reader does not go into the part.
  have hswagger : es.get? "swagger" = none := hes "swagger"
  have hunwrap : unwrap i.write = i.write := by
    unfold unwrap
    rw [hentries, Option.bind_some, hswagger]
  have hsummary :
      Checked.fieldOr none es ["summary"] (Checked.optional Checked.text) = valid i.summary :=
    Checked.fieldOr_text (hes "summary")
  have hdescription : Checked.fieldOr none es ["description"] (Checked.optional Checked.text) =
      valid i.description :=
    Checked.fieldOr_text (hes "description")
  have htags : Checked.fieldOr [] es ["tags"] (Checked.listOf Checked.text) = valid i.tags :=
    Checked.fieldOr_unlessEmpty (hes "tags") (Checked.listOf_map fun _ _ => rfl)
  have hid : Checked.fieldOr none es ["operationId", "operation_id"]
      (Checked.optional Checked.text) =
      valid i.operationId := by
    rw [Checked.fieldOr_cons (hes "operationId")]
    exact Checked.fieldOr_text (hes "operation_id")
  have hdeprecated :
      Checked.fieldOr none es ["deprecated"] (Checked.optional Checked.bool) = valid i.deprecated :=
    Checked.fieldOr_bool (hes "deprecated")
  have hignore : Checked.fieldOr false es ["ignore"] Checked.bool = valid i.ignore :=
    Checked.fieldOr_flag (hes "ignore")
  unfold read
  dsimp only
  rw [hunwrap, hentries]
  dsimp only
  rw [hsummary, hdescription, htags, hid, hdeprecated, hignore]
  rfl

end RouteInfo

/-! ## Responses -/

namespace Output

/-- What is written for a response. -/
def fields (o : Output) : List (String × Option Value) :=
  [("body", o.body.map Node.write), ("ref", o.ref.map .str),
    ("description", o.description.map .str), ("headers", o.headers.map Node.write)]

theorem write_eq (o : Output) : o.write = .object (setFields o.fields) := by
  rw [write]
  simp only [optionalEntry_eq, ← setFields_append]
  rfl

theorem exists_entries (o : Output) : ∃ es, o.write.entries? = some es ∧ HasFields es o.fields := by
  have hnames : o.fields.map (·.1) = ["body", "ref", "description", "headers"] := rfl
  rw [write_eq]
  exact exists_hasFields (by rw [hnames]; decide)

variable {o : Output}

/-- A response is read back, if its schemas are. -/
theorem read_write (hbody : ∀ n, o.body = some n → Node.read n.write = valid n)
    (hheaders : ∀ n, o.headers = some n → Node.read n.write = valid n) :
    read o.write = valid o := by
  obtain ⟨es, hentries, hes⟩ := o.exists_entries
  have href : Checked.fieldOr none es ["ref"] (Checked.optional Checked.text) = valid o.ref :=
    Checked.fieldOr_text (hes "ref")
  have hdescription : Checked.fieldOr none es ["description"] (Checked.optional Checked.text) =
      valid o.description :=
    Checked.fieldOr_text (hes "description")
  unfold read
  rw [hentries]
  dsimp only
  rw [Node.fieldOr_write (hes "body") hbody, href, hdescription,
    Node.fieldOr_write (hes "headers") hheaders]
  rfl

/-- The schema of a field that is read is read back. -/
theorem ensures_node (es : Entries) (name : String) :
    (Checked.fieldOr none es [name] (Checked.optional Node.read)).Ensures
      fun node => ∀ n, node = some n → Node.read n.write = valid n :=
  Node.stable_read.optional.fieldOr (by simp)

theorem stable_read : Checked.IsStable read write := by
  intro v
  unfold read
  cases v.entries? with
  | none => exact Checked.ensures_issue _ v
  | some es =>
    change Checked.Ensures _ _
    refine .seq (ensures_node es "headers") (.skip (.skip (.map fun body hbody => ?_)))
    exact fun _ _ _ hheaders => read_write (ensures_node es "body" body hbody) hheaders

/-- Keys that are texts already, and different ones, stay as they are. -/
theorem withTextKeys_object {m : List (String × Value)} (hm : (m.map (·.1)).Nodup) :
    (Value.object m).withTextKeys = .object m := by
  change Value.map .none (Entries.ofList ((m.map _).map _)) = _
  rw [List.map_map]
  exact congrArg (Value.map .none) (ofList_map_str hm)

/-- Responses are read back by their names. -/
theorem stable_readNamed : Checked.IsStable readNamed fun m => .object (mapNamed write m) := by
  intro v m h
  have hnames : (m.map (·.1)).Nodup := Checked.gives_mappingOf read _ m h
  have hread : ∀ e ∈ m, read e.2.write = valid e.2 := stable_read.mappingOf _ m h
  unfold readNamed
  rw [withTextKeys_object (by rwa [names_mapNamed])]
  exact Checked.mappingOf_map hnames hread

end Output

/-! ## Requests -/

namespace RequestSpec

/-- What is written for a request. -/
def fields (r : RequestSpec) : List (String × Option Value) :=
  [("type", r.contentType.map fun t => .str t.name), ("body", r.body.map Node.write),
    ("query", r.query.map Node.write), ("params", r.params.map Node.write),
    ("headers", r.headers.map Node.write), ("ref", r.ref.map .str),
    ("output", if r.output.isEmpty then none else some (.object (mapNamed Output.write r.output)))]

theorem write_eq (r : RequestSpec) : r.write = .object (setFields r.fields) := by
  rw [write, mapEntry_eq]
  simp only [optionalEntry_eq, ← setFields_append]
  rfl

theorem exists_entries (r : RequestSpec) :
    ∃ es, r.write.entries? = some es ∧ HasFields es r.fields := by
  have hnames :
      r.fields.map (·.1) = ["type", "body", "query", "params", "headers", "ref", "output"] := rfl
  rw [write_eq]
  exact exists_hasFields (by rw [hnames]; decide)

theorem write_ne_null (r : RequestSpec) : r.write ≠ .null := by
  rw [write_eq]
  nofun

variable {r : RequestSpec}

/-- A request is read back, if its schemas and responses are. -/
theorem read_write (hbody : ∀ n, r.body = some n → Node.read n.write = valid n)
    (hquery : ∀ n, r.query = some n → Node.read n.write = valid n)
    (hparams : ∀ n, r.params = some n → Node.read n.write = valid n)
    (hheaders : ∀ n, r.headers = some n → Node.read n.write = valid n)
    (houtput : Output.readNamed (.object (mapNamed Output.write r.output)) = valid r.output) :
    read r.write = valid r := by
  obtain ⟨es, hentries, hes⟩ := r.exists_entries
  have htype :
      Checked.fieldOr none es ["type"] (Checked.optional ContentType.read) = valid r.contentType :=
    Checked.fieldOr_optional (hes "type") (fun t _ => by cases t <;> rfl) nofun
  have href : Checked.fieldOr none es ["ref"] (Checked.optional Checked.text) = valid r.ref :=
    Checked.fieldOr_text (hes "ref")
  have houtput : Checked.fieldOr [] es ["output"] Output.readNamed = valid r.output :=
    Checked.fieldOr_unlessEmpty (hes "output") houtput
  unfold read
  rw [hentries]
  dsimp only
  rw [htype, Node.fieldOr_write (hes "body") hbody, Node.fieldOr_write (hes "query") hquery,
    Node.fieldOr_write (hes "params") hparams, Node.fieldOr_write (hes "headers") hheaders, href,
    houtput]
  rfl

theorem stable_read : Checked.IsStable read write := by
  intro v
  unfold read
  cases v.entries? with
  | none => exact Checked.ensures_issue _ v
  | some es =>
    change Checked.Ensures _ _
    have houtput : (Checked.fieldOr [] es ["output"] Output.readNamed).Ensures fun m =>
        Output.readNamed (.object (mapNamed Output.write m)) = valid m :=
          Output.stable_readNamed.fieldOr rfl
    refine .seq houtput (.skip (.seq (Output.ensures_node es "headers") ?_))
    refine .seq (Output.ensures_node es "params") (.seq (Output.ensures_node es "query") ?_)
    refine .seq (Output.ensures_node es "body") (.map fun _ _ => ?_)
    exact fun _ hbody _ hquery _ hparams _ hheaders _ _ houtput =>
      read_write hbody hquery hparams hheaders houtput

end RequestSpec

/-! ## Records -/

namespace RouteRecord

/-- What is written for a record. -/
def fields (r : RouteRecord) : List (String × Option Value) :=
  [("method", some (.listOf (r.methods.map fun m => .str m.name))), ("path", some (.str r.path)),
    ("meta", if r.info.isDefault then none else some r.info.write),
    ("validate_", r.request.map RequestSpec.write),
    ("output", if r.output.isEmpty then none else some (.object (mapNamed Output.write r.output)))]

theorem write_eq (r : RouteRecord) : r.write = .object (setFields r.fields) := by
  have hinfo : (if r.info.isDefault then [] else [("meta", r.info.write)]) =
      setFields [("meta", if r.info.isDefault then none else some r.info.write)] := by
    cases r.info.isDefault <;> rfl
  have hrequired :
      [("method", Value.listOf (r.methods.map fun m => .str m.name)), ("path", .str r.path)] =
      setFields [("method", some (.listOf (r.methods.map fun m => .str m.name))),
        ("path", some (.str r.path))] := rfl
  rw [write, hrequired, hinfo, mapEntry_eq]
  simp only [optionalEntry_eq, ← setFields_append]
  rfl

theorem exists_entries (r : RouteRecord) :
    ∃ es, r.write.entries? = some es ∧ HasFields es r.fields := by
  have hnames : r.fields.map (·.1) = ["method", "path", "meta", "validate_", "output"] := rfl
  rw [write_eq]
  exact exists_hasFields (by rw [hnames]; decide)

variable {r : RouteRecord}

/-- A record is read back, if it has a method and its request and responses are read back. -/
theorem read_write (hmethods : r.methods ≠ [])
    (hrequest : ∀ request,
      r.request = some request → RequestSpec.read request.write = valid request)
    (houtput : Output.readNamed (.object (mapNamed Output.write r.output)) = valid r.output) :
    read r.write = valid r := by
  obtain ⟨es, hentries, hes⟩ := r.exists_entries
  have hmethods : Checked.field es r.write ["method"] Method.readAll = valid r.methods :=
    Checked.field_eq_of_get? (hes "method") (Method.readAll_names hmethods)
  have hpath : Checked.field es r.write ["path"] Checked.text = valid r.path :=
    Checked.field_eq_of_get? (hes "path") rfl
  have hinfo : Checked.fieldOr {} es ["meta"] RouteInfo.read = valid r.info := by
    have hwritten : (if r.info.isDefault then none else some r.info.write).elim (r.info = {})
        (RouteInfo.read · = valid r.info) := by
      cases hdefault : r.info.isDefault with
      | true => exact beq_iff_eq.mp hdefault
      | false => exact RouteInfo.read_write r.info
    exact Checked.fieldOr_eq_of_get? (hes "meta") hwritten
  have hrequest :
      Checked.fieldOr none es ["validate", "validate_"] (Checked.optional RequestSpec.read) =
      valid r.request := by
    rw [Checked.fieldOr_cons (hes "validate")]
    exact Checked.fieldOr_optional (hes "validate_") hrequest RequestSpec.write_ne_null
  have houtput : Checked.fieldOr [] es ["output"] Output.readNamed = valid r.output :=
    Checked.fieldOr_unlessEmpty (hes "output") houtput
  unfold read
  rw [hentries]
  dsimp only
  rw [hmethods, hpath, hinfo, hrequest, houtput]
  rfl

theorem stable_read : Checked.IsStable read write := by
  intro v
  unfold read
  cases v.entries? with
  | none => exact Checked.ensures_issue _ v
  | some es =>
    change Checked.Ensures _ _
    have hmethods : (Checked.field es v ["method"] Method.readAll).Ensures (· ≠ []) :=
      Method.gives_readAll.field
    have hrequest :
        (Checked.fieldOr none es ["validate", "validate_"]
          (Checked.optional RequestSpec.read)).Ensures
        fun request => ∀ r, request = some r → RequestSpec.read r.write = valid r :=
      RequestSpec.stable_read.optional.fieldOr (by simp)
    have houtput : (Checked.fieldOr [] es ["output"] Output.readNamed).Ensures fun m =>
        Output.readNamed (.object (mapNamed Output.write m)) = valid m :=
          Output.stable_readNamed.fieldOr rfl
    refine .seq houtput (.seq hrequest (.skip (.skip (.map fun methods h => ?_))))
    exact fun _ _ _ hrequest _ houtput => read_write (hmethods methods h) hrequest houtput

end RouteRecord

/-! ## Routers -/

namespace Router

/-- What is written for a router. -/
def fields (r : Router) : List (String × Option Value) :=
  [("prefix", r.mount.map .str),
    ("routes", if r.records.isEmpty then none
      else some (.listOf (r.records.map RouteRecord.write)))]

theorem write_eq (r : Router) : r.write = .object (setFields r.fields) := by
  rw [write, optionalEntry_eq, listEntry_eq, ← setFields_append]
  rfl

/-- A router is read back, if its records are. -/
theorem read_write {r : Router}
    (hrecords : ∀ record ∈ r.records, RouteRecord.read record.write = valid record) :
    read r.write = valid r := by
  have hnames : (r.fields.map (·.1)).Nodup := by
    have heq : r.fields.map (·.1) = ["prefix", "routes"] := rfl
    rw [heq]
    decide
  obtain ⟨es, hentries, hes⟩ := exists_hasFields hnames
  have hmount :
      Checked.fieldOr none es ["prefix"] (Checked.optional Checked.text) = valid r.mount :=
    Checked.fieldOr_text (hes "prefix")
  have hrecords :
      Checked.fieldOr [] es ["routes"] (Checked.listOf RouteRecord.read) = valid r.records :=
    Checked.fieldOr_unlessEmpty (hes "routes") (Checked.listOf_map hrecords)
  unfold read
  rw [write_eq, hentries]
  dsimp only
  rw [hmount, hrecords]
  rfl

theorem stable_read : Checked.IsStable read write := by
  intro v
  unfold read
  cases v.entries? with
  | none => exact Checked.ensures_issue _ v
  | some es =>
    change Checked.Ensures _ _
    refine .seq (RouteRecord.stable_read.listOf.fieldOr (by simp)) (.map fun _ _ => ?_)
    exact fun _ hrecords => read_write hrecords

/-- **Normal forms.** A node or a router that is read and then written is read again, and gives what
it was. So the same routes are collected. -/
theorem ofValue_write :
    (∀ v n, Node.read v = valid n → Node.read n.write = valid n) ∧
      ∀ v router, ofValue v = .ok router →
      ∃ rewritten, ofValue router.write = .ok rewritten ∧ rewritten = router ∧
        ∀ given keep, rewritten.collect given keep = router.collect given keep := by
  refine ⟨Node.stable_read, fun v router h => ⟨router, ?_, rfl, fun _ _ => rfl⟩⟩
  exact Checked.toExcept_eq_ok_iff.mpr (stable_read v router (Checked.toExcept_eq_ok_iff.mp h))

/-! A router with a short form of a schema, information one level further in and a number as the
name of a response. -/

namespace Sample

/-- The short form of an object with two parts. -/
def short : Value :=
  .object [("name", .object [("kind", .str "string"), ("required", .int 1), ("min", .bool true)]),
    ("more", .object [])]

def loose : Value :=
  .object [("routes", .listOf [.object [("method", .str "GET"), ("path", .str "/a"),
    ("meta", .object [("swagger", .object [("operationId", .str "show"), ("deprecated", .int 0)])]),
    ("output", .map .none [(.int 200, .object [("body", short)])])]])]

end Sample

theorem ofValue_write_sample :
    ∃ n router rewritten,
      Node.read Sample.short = valid n ∧ n.kind = "object" ∧ Node.read n.write = valid n ∧
      ofValue Sample.loose = .ok router ∧ ofValue router.write = .ok rewritten ∧
      rewritten = router := by
  have hnode : ∃ n, Node.read Sample.short = valid n ∧ n.kind = "object" := ⟨_, rfl, rfl⟩
  have hrouter : ∃ router, ofValue Sample.loose = .ok router := ⟨_, rfl⟩
  obtain ⟨n, hn, hkind⟩ := hnode
  obtain ⟨router, h⟩ := hrouter
  obtain ⟨rewritten, hrewritten, heq, -⟩ := ofValue_write.2 Sample.loose router h
  exact ⟨n, router, rewritten, hn, hkind, ofValue_write.1 _ n hn, h, hrewritten, heq⟩

end Router

end ApiDoc
