import ApiDoc.Proofs.Document.Comparison
import ApiDoc.Proofs.Router.Ignored

/-!
# Identifiers of operations

An operation has the identifier of the record that it comes from. A record with several methods
gives several operations, and all of them have its identifier. Otherwise no identifier occurs twice:
when the records of all routers have different ones, operations with the same identifier come from
the same record (`Api.sameRecord_of_operationId`). So the identifiers of a document are different
exactly when each record with one has at most one operation in the document. This counts only
methods that no later route at the same path has taken over.

Main statement: `Api.operationIds_of_generate`, and `Api.not_nodup_operationIds` for a record with
two methods.
-/

namespace ApiDoc

section Lists

variable {α β γ : Type} {f : α → Option β} {key : α → γ} {xs : List α}

theorem eq_of_nodup_filterMap (h : (xs.filterMap f).Nodup) {a b : α} {y : β} (ha : a ∈ xs)
    (hb : b ∈ xs) (hay : f a = some y) (hby : f b = some y) : a = b := by
  by_contra hne
  -- That values differ does not depend on the order of the two items.
  have _ : Std.Symm fun a b => ∀ y ∈ f a, ∀ z ∈ f b, y ≠ z :=
    ⟨fun _ _ h z hz y hy heq => h y hy z hz heq.symm⟩
  exact (List.pairwise_filterMap.mp h).forall ha hb hne y hay y hby rfl

theorem nodup_filterMap (h : (xs.map key).Nodup)
    (hf : ∀ a ∈ xs, ∀ b ∈ xs, ∀ y, f a = some y → f b = some y → key a = key b) :
    (xs.filterMap f).Nodup := by
  refine List.pairwise_filterMap.mpr ((List.pairwise_map.mp h).imp_of_mem ?_)
  rintro a b ha hb hne y hy _ hz rfl
  exact hne (hf a ha b hb y hy hz)

end Lists

/-! ## Operations of a document -/

namespace Document

/-- The operations of a document, with their paths and methods. -/
def operations (d : Document) : List ((String × String) × Operation) :=
  d.paths.flatMap fun e => e.2.map fun o => ((e.1, o.1), o.2)

/-- The identifiers of the operations of a document. -/
def operationIds (d : Document) : List String :=
  d.operations.filterMap (·.2.info.operationId)

theorem mem_operations {d : Document} {path method : String} {o : Operation} :
    ((path, method), o) ∈ d.operations ↔
      ∃ methods, (path, methods) ∈ d.paths ∧ (method, o) ∈ methods := by
  simp only [operations, List.mem_flatMap, List.mem_map, Prod.mk.injEq, Prod.exists]
  constructor
  · rintro ⟨p, methods, hmem, m, u, ho, ⟨rfl, rfl⟩, rfl⟩
    exact ⟨methods, hmem, ho⟩
  · rintro ⟨methods, hmem, ho⟩
    exact ⟨path, methods, hmem, method, o, ho, ⟨rfl, rfl⟩, rfl⟩

/-- No path and method occurs twice when paths are different and so are the methods of each path. -/
theorem nodup_places {d : Document} (hpaths : (d.paths.map (·.1)).Nodup)
    (hmethods : ∀ e ∈ d.paths, (e.2.map (·.1)).Nodup) : (d.operations.map (·.1)).Nodup := by
  unfold operations
  rw [List.map_flatMap, List.nodup_flatMap]
  constructor
  · intro e he
    have hplaces :
        (e.2.map fun o => ((e.1, o.1), o.2)).map (·.1) = (e.2.map (·.1)).map (e.1, ·) := by
      simp only [List.map_map, Function.comp_def]
    rw [hplaces]
    exact (hmethods e he).map fun _ _ heq => (Prod.mk.inj heq).2
  · refine (List.pairwise_map.mp hpaths).imp fun hne => ?_
    intro place h h'
    simp only [List.map_map, List.mem_map, Function.comp_apply] at h h'
    obtain ⟨_, _, rfl⟩ := h
    obtain ⟨_, _, heq⟩ := h'
    exact hne (Prod.mk.inj heq).1.symm

end Document

/-! ## Routers that are added -/

/-- A router that is added to an api, with the path that it is added below and the filter for its
records. -/
structure Added where
  router : Router
  mount : Option String := none
  keep : RouteRecord → Bool := fun _ => true

namespace Added

/-- The records that are not ignored, whether the filter keeps them or not. -/
def records (a : Added) : List RouteRecord :=
  a.router.records.filter fun record => !record.info.ignore

/-- The routes that come from a record. -/
def routesOf (a : Added) (record : RouteRecord) : List Route :=
  if a.keep record then record.routes (a.router.mountWith a.mount) else []

def routes (added : List Added) : List Route :=
  added.flatMap fun a => a.router.collect a.mount a.keep

/-- The operation of a document at a path and a method is to be that of a record: the last route
there comes from the record. -/
def Holds (added : List Added) (a : Added) (record : RouteRecord) (path method : String) : Prop :=
  a ∈ added ∧ record ∈ a.records ∧
    ∃ r ∈ a.routesOf record, IsLast (·.IsAt path method) (routes added) r

variable {added : List Added} {a : Added} {record : RouteRecord} {r : Route}

theorem mem_routes :
    r ∈ routes added ↔ ∃ a ∈ added, ∃ record ∈ a.records, r ∈ a.routesOf record := by
  simp only [routes, Router.collect_eq, List.mem_flatMap, List.mem_filter, Bool.and_eq_true,
    records, routesOf]
  refine exists_congr fun a => and_congr_right fun _ => exists_congr fun record => ?_
  split <;> simp_all

theorem of_mem_routesOf (h : r ∈ a.routesOf record) :
    r.info = record.info ∧ r.fullPath = Path.join (a.router.mountWith a.mount) record.path := by
  unfold routesOf at h
  split at h
  · obtain ⟨method, -, rfl⟩ := List.mem_map.mp h
    exact ⟨rfl, rfl⟩
  · cases h

/-- The places of a record are on one path. -/
theorem Holds.path_eq {path path' method method' : String} (h : Holds added a record path method)
    (h' : Holds added a record path' method') : path = path' := by
  obtain ⟨-, -, r, hr, hlast⟩ := h
  obtain ⟨-, -, q, hq, hlast'⟩ := h'
  rw [← hlast.prop.1, ← hlast'.prop.1, (of_mem_routesOf hr).2, (of_mem_routesOf hq).2]

theorem mem_distinctMethods (h : r ∈ a.routesOf record) : r.method ∈ record.distinctMethods := by
  unfold routesOf at h
  split at h
  · obtain ⟨method, hmethod, rfl⟩ := List.mem_map.mp h
    exact hmethod
  · cases h

/-- A record with one method has one place. -/
theorem Holds.method_eq {path path' method method' : String} (h : Holds added a record path method)
    (h' : Holds added a record path' method')
    (hone : ∀ m ∈ record.distinctMethods, ∀ m' ∈ record.distinctMethods, m = m') :
    method = method' := by
  obtain ⟨-, -, r, hr, hlast⟩ := h
  obtain ⟨-, -, q, hq, hlast'⟩ := h'
  have hsame := hone r.method (mem_distinctMethods hr) q.method (mem_distinctMethods hq)
  rw [← hlast.prop.2, ← hlast'.prop.2, hsame]

end Added

/-- An api that routers have been added to, in order. -/
def Api.withRouters (added : List Added) : Api :=
  added.foldl (fun api a => api.addRouter a.router a.mount a.keep) {}

theorem Api.withRouters_eq (added : List Added) :
    withRouters added = Api.mk (Added.routes added) := by
  have hfrom (api : Api) : added.foldl (fun api a => api.addRouter a.router a.mount a.keep) api =
      Api.mk (api.routes ++ Added.routes added) := by
    induction added generalizing api with
    | nil => simp [Added.routes]
    | cons a added ih =>
      rw [List.foldl_cons, ih, addRouter, List.append_assoc]
      rfl
  exact hfrom {}

namespace Api

variable {config : DocumentConfig} {options : Options} {routes : List Route} {d : Document}
  {added : List Added}

/-- The methods at a path of a document are those that its rounds know. -/
theorem methodsAt_of_mem {known : Work.Paths} {t : Session} {defaults : List (String × Output)}
    (hdone : Work.RoundsDone defaults routes known t) {path : String}
    {methods : List (String × Operation)} (h : (path, methods) ∈ known.paths) :
    known.methodsAt path = methods := by
  unfold Work.Paths.methodsAt
  rw [getNamed?_of_mem hdone.nodup_paths h, Option.getD_some]

/-- **Operations of a generated document** are those of the last routes at their paths and
methods. -/
theorem mem_operations_iff (h : ((Api.mk routes).generate config options).1 = .ok d)
    {path method : String} {o : Operation} :
    ((path, method), o) ∈ d.operations ↔ ∃ r, IsLast (·.IsAt path method) routes r ∧
      (Work.exec (Work.operation options.effectiveResponses r) {}).1 = .ok o := by
  obtain ⟨t, hdraft⟩ := draft_of_result h
  obtain ⟨known, hpaths, hdone⟩ := Work.roundsDone_of_draft hdraft
  rw [Document.mem_operations, hpaths, ← hdone.getNamed?_methodsAt_iff]
  constructor
  · rintro ⟨methods, hmem, ho⟩
    have hnodup := hdone.nodup_methods path
    rw [methodsAt_of_mem hdone hmem] at hnodup ⊢
    exact getNamed?_of_mem hnodup ho
  · intro ho
    have hmem := mem_of_getNamed? ho
    unfold Work.Paths.methodsAt at hmem
    cases hget : getNamed? path known.paths with
    | none => simp [hget] at hmem
    | some methods => exact ⟨methods, mem_of_getNamed? hget, by simpa [hget] using hmem⟩

theorem nodup_operations (h : ((Api.mk routes).generate config options).1 = .ok d) :
    (d.operations.map (·.1)).Nodup := by
  obtain ⟨t, hdraft⟩ := draft_of_result h
  obtain ⟨known, hpaths, hdone⟩ := Work.roundsDone_of_draft hdraft
  refine Document.nodup_places (hpaths ▸ hdone.nodup_paths) fun ⟨path, methods⟩ hmem => ?_
  rw [hpaths] at hmem
  exact methodsAt_of_mem hdone hmem ▸ hdone.nodup_methods path

/-- Each operation has the identifier of a record that holds its place. -/
theorem exists_holds (h : ((withRouters added).generate config options).1 = .ok d)
    {path method : String} {o : Operation} (ho : ((path, method), o) ∈ d.operations) :
    ∃ a record, Added.Holds added a record path method ∧
      o.info.operationId = record.info.operationId := by
  rw [withRouters_eq] at h
  obtain ⟨r, hlast, hexec⟩ := (mem_operations_iff h).mp ho
  obtain ⟨a, ha, record, hrecord, hr⟩ := Added.mem_routes.mp hlast.mem
  refine ⟨a, record, ⟨ha, hrecord, r, hr, hlast⟩, ?_⟩
  obtain ⟨_, _, _, _, -, -, -, rfl⟩ := Work.run_operation (Prod.ext hexec rfl)
  exact congrArg RouteInfo.operationId (Added.of_mem_routesOf hr).1

/-- A place that a record holds has an operation with the identifier of the record. -/
theorem exists_operation (h : ((withRouters added).generate config options).1 = .ok d) {a : Added}
    {record : RouteRecord} {path method : String}
    (hholds : Added.Holds added a record path method) :
    ∃ o, ((path, method), o) ∈ d.operations ∧ o.info.operationId = record.info.operationId := by
  rw [withRouters_eq] at h
  obtain ⟨-, -, r, hr, hlast⟩ := hholds
  obtain ⟨methods, hmem, hmethod⟩ := (has_of_generate (Prod.ext h rfl) path method).mpr
    ⟨r, hlast.mem, hlast.prop⟩
  obtain ⟨⟨_, o⟩, ho, rfl⟩ := List.mem_map.mp hmethod
  have hop := Document.mem_operations.mpr ⟨methods, hmem, ho⟩
  obtain ⟨q, hq, hexec⟩ := (mem_operations_iff h).mp hop
  obtain rfl := hq.unique hlast
  obtain ⟨_, _, _, _, -, -, -, rfl⟩ := Work.run_operation (Prod.ext hexec rfl)
  exact ⟨_, hop, congrArg RouteInfo.operationId (Added.of_mem_routesOf hr).1⟩

/-- Records with different identifiers are told apart by them. -/
theorem eq_of_operationId
    (hids : ((added.flatMap Added.records).filterMap (·.info.operationId)).Nodup) {a b : Added}
    {record record' : RouteRecord} {id : String} (ha : a ∈ added) (hrecord : record ∈ a.records)
    (hb : b ∈ added) (hrecord' : record' ∈ b.records) (hid : record.info.operationId = some id)
    (hid' : record'.info.operationId = some id) : a = b ∧ record = record' := by
  have hpairs : added.flatMap Added.records =
      (added.flatMap fun a => a.records.map (Prod.mk a)).map (·.2) := by
    simp [List.map_flatMap, Function.comp_def]
  rw [hpairs, List.filterMap_map] at hids
  have hmem {a : Added} {record : RouteRecord} (ha : a ∈ added) (hrecord : record ∈ a.records) :
      (a, record) ∈ added.flatMap fun a => a.records.map (Prod.mk a) :=
    List.mem_flatMap.mpr ⟨a, ha, List.mem_map_of_mem hrecord⟩
  exact Prod.mk.inj (eq_of_nodup_filterMap hids (hmem ha hrecord) (hmem hb hrecord') hid hid')

/-- Operations with the same identifier are of one record, on its path. -/
theorem sameRecord_of_operationId
    (hids : ((added.flatMap Added.records).filterMap (·.info.operationId)).Nodup)
    (h : ((withRouters added).generate config options).1 = .ok d)
    {path path' method method' : String} {o o' : Operation} {id : String}
    (ho : ((path, method), o) ∈ d.operations) (ho' : ((path', method'), o') ∈ d.operations)
    (hid : o.info.operationId = some id) (hid' : o'.info.operationId = some id) :
    path = path' ∧ ∃ a record, record.info.operationId = some id ∧
      Added.Holds added a record path method ∧ Added.Holds added a record path' method' := by
  obtain ⟨a, record, hholds, heq⟩ := exists_holds h ho
  obtain ⟨b, record', hholds', heq'⟩ := exists_holds h ho'
  rw [heq] at hid
  rw [heq'] at hid'
  obtain ⟨rfl, rfl⟩ :=
    eq_of_operationId hids hholds.1 hholds.2.1 hholds'.1 hholds'.2.1 hid hid'
  exact ⟨hholds.path_eq hholds', a, record, hid, hholds, hholds'⟩

/-- **Identifiers of operations.** Let the records that are not ignored have different identifiers,
as far as they have one. Each operation of a generated document has the identifier of its record,
and operations with the same identifier are of the same record. So the identifiers of the document
are different exactly when no record with an identifier has two operations in it. -/
theorem operationIds_of_generate
    (hids : ((added.flatMap Added.records).filterMap (·.info.operationId)).Nodup)
    (h : ((withRouters added).generate config options).1 = .ok d) :
    (∀ path method o, ((path, method), o) ∈ d.operations → ∃ a record,
        Added.Holds added a record path method ∧ o.info.operationId = record.info.operationId) ∧
      (∀ path method o path' method' o' id, ((path, method), o) ∈ d.operations →
        ((path', method'), o') ∈ d.operations → o.info.operationId = some id →
          o'.info.operationId = some id →
          path = path' ∧ ∃ a record, record.info.operationId = some id ∧
            Added.Holds added a record path method ∧ Added.Holds added a record path' method') ∧
      (d.operationIds.Nodup ↔ ∀ a record path method method', record.info.operationId ≠ none →
        Added.Holds added a record path method → Added.Holds added a record path method' →
          method = method') := by
  refine ⟨fun path method o => exists_holds h,
    fun path method o path' method' o' id ho ho' hid hid' =>
    sameRecord_of_operationId hids h ho ho' hid hid', fun hnodup => ?_, fun hsingle => ?_⟩
  · -- Both methods carry the identifier of the record, which stands only once.
    intro a record path method method' hne hholds hholds'
    obtain ⟨id, hid⟩ := Option.ne_none_iff_exists'.mp hne
    obtain ⟨o, ho, heq⟩ := exists_operation h hholds
    obtain ⟨o', ho', heq'⟩ := exists_operation h hholds'
    have hsame := eq_of_nodup_filterMap hnodup ho ho' (heq.trans hid) (heq'.trans hid)
    exact congrArg (·.1.2) hsame
  · rw [withRouters_eq] at h
    refine nodup_filterMap (nodup_operations h) ?_
    rintro ⟨⟨path, method⟩, o⟩ ho ⟨⟨path', method'⟩, o'⟩ ho' id hid hid'
    rw [← withRouters_eq] at h
    obtain ⟨rfl, a, record, hrecord, hholds, hholds'⟩ :=
      sameRecord_of_operationId hids h ho ho' hid hid'
    rw [hsingle a record path method method' (by simp [hrecord]) hholds hholds']

/-! Routers whose record with two methods has no identifier, and one whose record has one. -/

namespace Sample

def named (path : String) (methods : List Method) (id : Option String) : RouteRecord :=
  { methods, path, info := { operationId := id } }

/-- Two routers, with an identifier in each of them. -/
def tables : List Added :=
  [{ router := { records := [named "/a" [.get, .post] none, named "/b" [.get] (some "b")] } },
    { router := { records := [named "/c" [.put] (some "c")] } }]

def twofold : List Added := [{ router := { records := [named "/a" [.get, .post] (some "a")] } }]

end Sample

theorem operationIds_of_generate_sample :
    ∃ d, ((Sample.tables.flatMap Added.records).filterMap (·.info.operationId)).Nodup ∧
      ((withRouters Sample.tables).generate { info := [], basePath := "/" } {}).1 = .ok d ∧
        d.operationIds.Nodup := by
  have hids : ((Sample.tables.flatMap Added.records).filterMap (·.info.operationId)).Nodup := by
    decide
  have h : ∃ d,
      ((withRouters Sample.tables).generate { info := [], basePath := "/" } {}).1 = .ok d :=
    ⟨_, rfl⟩
  obtain ⟨d, hd⟩ := h
  obtain ⟨-, -, hnodup⟩ := operationIds_of_generate hids hd
  have hone : ∀ a ∈ Sample.tables, ∀ record ∈ a.records, record.info.operationId ≠ none →
      ∀ m ∈ record.distinctMethods, ∀ m' ∈ record.distinctMethods, m = m' := by decide
  refine ⟨d, hids, hd, hnodup.mpr fun a record path method method' hne hholds hholds' => ?_⟩
  exact hholds.method_eq hholds' (hone a hholds.1 record hholds.2.1 hne)

/-- The operations of a record with an identifier and two methods have the same identifier. -/
theorem not_nodup_operationIds :
    ∃ d, ((Sample.twofold.flatMap Added.records).filterMap (·.info.operationId)).Nodup ∧
      ((withRouters Sample.twofold).generate { info := [], basePath := "/" } {}).1 = .ok d ∧
        ¬ d.operationIds.Nodup := by
  have h : ∃ d,
      ((withRouters Sample.twofold).generate { info := [], basePath := "/" } {}).1 = .ok d ∧
      d.operationIds = ["a", "a"] := ⟨_, rfl, rfl⟩
  obtain ⟨d, hd, hids⟩ := h
  exact ⟨d, by decide, hd, by simp [hids]⟩

end Api

end ApiDoc
