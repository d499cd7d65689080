import ApiDoc.Proofs.Operation.Outputs
import ApiDoc.Proofs.Router.Ignored
import ApiDoc.Proofs.Router.Methods

/-!
# Collecting the routes of a router

What a record gives when it is kept (`RouteRecord.Gives`) is said of its routes as a list: their
methods are those of the record, each once and where it comes first, without HEAD beside GET, and in
all else they are alike. For a record that has methods and no response twice
(`RouteRecord.IsDeclared`) the routes are such a list. A router that is read has such records only.

Collecting goes through the records in order. For a filter with effects this is an equation between
programs: the answers come first, from one question about each record that is not ignored, and the
routes are made from them.

Main statement: `Router.routes_of_collect`.
-/

namespace ApiDoc

open Checked (valid)

/-! ## Routes of one record -/

namespace RouteRecord

/-- A record as it can be declared: it is proper and has a method. -/
structure IsDeclared (r : RouteRecord) : Prop extends r.Proper where
  methods : r.methods ≠ []

/-- The responses that the request of a record declares. -/
def requestOutput (r : RouteRecord) : List (String × Output) := (r.request.map (·.output)).getD []

/-- The routes of a record below a path. -/
structure Gives (r : RouteRecord) (mount : String) (routes : List Route) : Prop where
  /-- Each method has a route, in the order of the first occurrences; HEAD has none where there is
  GET. -/
  methods : routes.map (·.method) = r.methods.eraseDups.filter fun m =>
    ¬ (m = .head ∧ .get ∈ r.methods)
  ne_nil : routes ≠ []
  path : ∀ route ∈ routes, route.path = r.path
  mount : ∀ route ∈ routes, route.mount = mount
  info : ∀ route ∈ routes, route.info = r.info
  request : ∀ route ∈ routes, route.request = r.request
  /-- The responses of the record come first, and then the others that the request declares. -/
  outputNames : ∀ route ∈ routes, route.outputs.map (·.1) =
    r.output.map (·.1) ++ (r.requestOutput.map (·.1)).filter (· ∉ r.output.map (·.1))
  /-- Where both declare a response, that of the request counts. -/
  outputs : ∀ route ∈ routes, ∀ name,
    getNamed? name route.outputs = (getNamed? name r.requestOutput).or (getNamed? name r.output)

variable {r : RouteRecord}

theorem distinctMethods_eq (r : RouteRecord) :
    r.distinctMethods = r.methods.eraseDups.filter fun m => ¬ (m = .head ∧ .get ∈ r.methods) := by
  unfold distinctMethods
  simp only [List.mem_eraseDups]
  by_cases hget : .get ∈ r.methods
  · by_cases hhead : .head ∈ r.methods
    · rw [if_pos ⟨hget, hhead⟩, (nodup_eraseDups r.methods).erase_eq_filter]
      exact List.filter_congr fun m _ => by simp [hget, bne, beq_eq_decide]
    · rw [if_neg fun h => hhead h.2, List.filter_eq_self.mpr]
      intro m hm
      have hne : m ≠ .head := fun heq => hhead (List.mem_eraseDups.mp (heq ▸ hm))
      simp [hne]
  · rw [if_neg fun h => hget h.1, List.filter_eq_self.mpr]
    simp [hget]

theorem distinctMethods_ne_nil (h : r.methods ≠ []) : r.distinctMethods ≠ [] := by
  rw [distinctMethods_eq]
  by_cases hget : .get ∈ r.methods
  · exact List.ne_nil_of_mem (a := .get)
      (List.mem_filter.mpr ⟨List.mem_eraseDups.mpr hget, by simp⟩)
  · obtain ⟨m, hm⟩ := List.exists_mem_of_ne_nil _ h
    exact List.ne_nil_of_mem (List.mem_filter.mpr ⟨List.mem_eraseDups.mpr hm, by simp [hget]⟩)

theorem mergedOutputs_eq_foldl (r : RouteRecord) :
    r.mergedOutputs =
      r.requestOutput.foldl (fun out (name, o) => putNamed name o out) r.output := by
  unfold mergedOutputs requestOutput
  cases r.request <;> rfl

theorem Proper.nodup_requestOutput (h : r.Proper) : (r.requestOutput.map (·.1)).Nodup := by
  unfold requestOutput
  cases hrequest : r.request with
  | none => exact .nil
  | some request => exact h.request request hrequest

theorem names_mergedOutputs (h : r.Proper) :
    r.mergedOutputs.map (·.1) =
      r.output.map (·.1) ++ (r.requestOutput.map (·.1)).filter (· ∉ r.output.map (·.1)) := by
  rw [mergedOutputs_eq_foldl, foldl_putNamed h.output h.nodup_requestOutput, List.map_append,
    List.map_map, List.filter_map]
  rfl

/-- **The routes of a record** are those that it gives. -/
theorem gives_routes (h : r.IsDeclared) (mount : String) : r.Gives mount (r.routes mount) := by
  have hall {P : Route → Prop}
      (hP : ∀ method, P ⟨method, r.path, mount, r.info, r.request, r.mergedOutputs⟩) :
      ∀ route ∈ r.routes mount, P route :=
    List.forall_mem_map.mpr fun method _ => hP method
  refine ⟨?_, ?_, hall fun _ => rfl, hall fun _ => rfl, hall fun _ => rfl, hall fun _ => rfl,
    hall fun _ => names_mergedOutputs h.toProper, hall fun _ name => ?_⟩
  · rw [← distinctMethods_eq, routes, List.map_map]
    exact List.map_id' _
  · exact fun hnil => distinctMethods_ne_nil h.methods (List.map_eq_nil_iff.mp hnil)
  · rw [mergedOutputs_eq_foldl, getNamed?_foldl_putNamed h.nodup_requestOutput]

end RouteRecord

/-! ## Records that are read -/

namespace RouteRecord

/-- The methods of a record have in lower case the names that the record is given with. -/
def IsNamed (raw : Value) (record : RouteRecord) : Prop :=
  ∃ given names, raw.at? ["method"] = some given ∧ given.HoldsNames names ∧
    record.methods.map (·.name) = names.map Text.lower

theorem methods_of_read {raw : Value} :
    (read raw).Ensures fun record => record.methods ≠ [] ∧ IsNamed raw record := by
  unfold read
  cases hes : raw.entries? with
  | none => exact Checked.ensures_issue _ raw
  | some es =>
    have hmethods : (Checked.field es raw ["method"] Method.readAll).Ensures fun ms =>
        ms ≠ [] ∧ ∃ given names, raw.at? ["method"] = some given ∧ given.HoldsNames names ∧
          ms.map (·.name) = names.map Text.lower := by
      intro ms h
      have hat : raw.at? ["method"] = es.get? "method" := by
        rw [Value.at?_singleton, hes, Option.bind_some]
      unfold Checked.field Checked.lookup at h
      rw [hat]
      cases hgiven : es.get? "method" with
      | none =>
        rw [hgiven] at h
        cases h
      | some given =>
        rw [hgiven] at h
        obtain ⟨hne, names, hnames, heq⟩ :=
          Method.readAll_eq_valid_iff.mp (Checked.under_eq_valid.mp h)
        exact ⟨hne, given, names, rfl, hnames, heq.symm⟩
    -- The methods are read first; what is read beside them says nothing about them.
    refine .skip (.skip (.skip (.skip (.map ?_))))
    exact fun ms h _ _ _ _ => hmethods ms h

end RouteRecord

namespace Router

theorem methods_of_map_read {raws : List Value} {records : List RouteRecord}
    (h : raws.map RouteRecord.read = records.map valid) :
    List.Forall₂ (fun raw record => record.methods ≠ [] ∧ record.IsNamed raw) raws records := by
  have hsame : List.Forall₂ Eq (raws.map RouteRecord.read) (records.map valid) :=
    List.forall₂_eq_eq_eq.symm ▸ h
  rw [List.forall₂_map_left_iff, List.forall₂_map_right_iff] at hsame
  exact hsame.imp fun raw record hread => RouteRecord.methods_of_read record hread

end Router

/-! ## Routes of a router -/

namespace Router

/-- The records that a filter is asked about: those that are not ignored. -/
def asked (router : Router) : List RouteRecord :=
  router.records.filter fun record => !record.info.ignore

/-- **The questions to a filter** are one for each record that is not ignored, in order. -/
theorem collectM_eq_mapM {m : Type → Type} [Monad m] [LawfulMonad m] (given : Option String)
    (keep : RouteRecord → m Bool) (router : Router) :
    router.collectM given keep = do
      let answers ← router.asked.mapM keep
      return (router.asked.zip answers).flatMap fun e =>
        if e.2 then e.1.routes (router.mountWith given) else [] := by
  unfold collectM
  rw [collectFrom_filter]
  have hasked : ∀ record ∈ router.asked, record.info.ignore = false := fun record h => by
    simpa using (List.mem_filter.mp h).2
  change collectFrom keep _ router.asked = _
  generalize router.asked = records at hasked
  induction records with
  | nil => simp [collectFrom]
  | cons record records ih =>
    obtain ⟨hrecord, hrecords⟩ := List.forall_mem_cons.mp hasked
    rw [collectFrom, if_neg (by simp [hrecord]), ih hrecords, List.mapM_cons]
    simp only [bind_assoc, pure_bind, List.zip_cons_cons, List.flatMap_cons]
    -- The filter is asked in the same order on both sides, one answer for each record.
    refine bind_congr fun answer => ?_
    cases answer <;> simp

theorem collect_eq_flatMap (given : Option String) (keep : RouteRecord → Bool) (router : Router) :
    router.collect given keep = router.records.flatMap fun record =>
      if record.info.ignore ∨ ¬ keep record then []
        else record.routes (router.mountWith given) := by
  rw [collect_eq]
  induction router.records with
  | nil => rfl
  | cons record records ih =>
    rw [List.flatMap_cons, ← ih, List.filter_cons]
    cases record.info.ignore <;> cases keep record <;> simp

/-- **Collecting routes.** The routes of a router are those of its records, in order, without the
records that are ignored or rejected, and each record gives at least one. A filter is asked once
about each record that is not ignored, in order, and about no other. The records of a router that is
read can be declared, and their methods are the names that stand there, in lower case. -/
theorem routes_of_collect :
    (∀ (router : Router) (given : Option String), (∀ record ∈ router.records, record.IsDeclared) →
      (∀ keep, router.collect given keep = router.records.flatMap fun record =>
        if record.info.ignore ∨ ¬ keep record then [] else record.routes (router.mountWith given)) ∧
      ∀ record ∈ router.records,
        record.Gives (router.mountWith given) (record.routes (router.mountWith given))) ∧
    (∀ (m : Type → Type) [Monad m] [LawfulMonad m] (router : Router) (given : Option String)
      (keep : RouteRecord → m Bool), router.collectM given keep = do
        let answers ← router.asked.mapM keep
        return (router.asked.zip answers).flatMap fun e =>
          if e.2 then e.1.routes (router.mountWith given) else []) ∧
    ∀ v router, ofValue v = .ok router →
      (∀ record ∈ router.records, record.IsDeclared) ∧
      List.Forall₂ RouteRecord.IsNamed (rawRecords v) router.records ∧
      ∀ record ∈ router.records, ∀ method ∈ record.methods,
        method.name ∈ ["get", "put", "post", "delete", "options", "head", "patch"] := by
  refine ⟨fun router given hdeclared =>
    ⟨fun keep => collect_eq_flatMap given keep router, fun record hmem =>
    RouteRecord.gives_routes (hdeclared record hmem) _⟩, fun m _ _ router given keep =>
    collectM_eq_mapM given keep router, fun v router h => ?_⟩
  have hread : read v = valid router := Checked.toExcept_eq_ok_iff.mp h
  have hrecords := methods_of_map_read (map_read_rawRecords hread)
  refine ⟨fun record hmem => ?_, hrecords.imp fun _ _ h => h.2, fun record _ method _ => ?_⟩
  · obtain ⟨raw, -, hmethods, -⟩ := exists_of_forall₂ hrecords hmem
    exact ⟨gives_read v router hread record hmem, hmethods⟩
  · cases method <;> decide

/-! A router with a record for several methods, one of them twice, and one that is ignored. -/

namespace Sample

def several : Value :=
  .object [("prefix", .str "/api"), ("routes", .listOf [
    .object [("method", .strings ["HEAD", "Put", "get", "PUT"]), ("path", .str "/a"),
      ("output", .object [("200", .object [("description", .str "outer")])]),
      ("validate", .object [("output", .object [("201", .object []), ("200", .object [])])])],
    .object [("method", .str "POST"), ("path", .str "/b"),
      ("meta", .object [("ignore", .bool true)])]])]

end Sample

theorem routes_of_collect_sample :
    ∃ router, ofValue Sample.several = .ok router ∧ (∀ record ∈ router.records, record.IsDeclared) ∧
      (∀ record ∈ router.records, record.Gives "/api" (record.routes "/api")) ∧
      (router.collect none (·.path = "/a")).map (·.method) = [.put, .get] := by
  have h : ∃ router, ofValue Sample.several = .ok router ∧ router.mountWith none = "/api" ∧
      (router.collect none (·.path = "/a")).map (·.method) = [.put, .get] := ⟨_, rfl, rfl, rfl⟩
  obtain ⟨router, h, hmount, hmethods⟩ := h
  obtain ⟨hdeclared, -, -⟩ := routes_of_collect.2.2 _ router h
  obtain ⟨-, hgives⟩ := routes_of_collect.1 router none hdeclared
  rw [hmount] at hgives
  exact ⟨router, h, hdeclared, hgives, hmethods⟩

end Router

end ApiDoc
