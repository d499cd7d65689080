import ApiDoc.Api
import ApiDoc.Proofs.Document.Routes
import ApiDoc.Proofs.Validation.Checked

/-!
# Ignored records

A record of a router is marked to be ignored under `meta`, or one level further in under
`meta.swagger` (`RouteRecord.IsMarked`). A mark under `meta` itself is not seen when there is a
mapping under `meta.swagger`, which then stands for all of `meta`: without a mark of its own it
shadows the other one (`RouteRecord.IsShadowed`).

The routes of a router are those of its records without the ones that are marked and not shadowed.
This is an equation between programs: a filter with effects is not asked about such a record either.
So what the router adds to a document are operations of the other records only.

Main statement: `Router.collect_of_ofValue`.
-/

namespace ApiDoc

open Checked (valid)

/-! ## Marks -/

namespace Value

variable {v w : Value} {name : String} {names : List String}

/-- What mappings have under names, one within another. -/
def at? (v : Value) : List String → Option Value
  | [] => some v
  | name :: names => (v.entries?.bind (Entries.get? · name)).bind (at? · names)

/-- The truth value at a place; what is not there or has none counts as false. -/
def flag (v : Value) (path : List String) : Bool :=
  ((v.at? path).bind fun w => (Checked.bool w).toOption).getD false

theorem at?_singleton : v.at? [name] = v.entries?.bind (Entries.get? · name) :=
  Option.bind_fun_some _

theorem at?_cons : v.at? (name :: names) = (v.at? [name]).bind (at? · names) := by
  rw [at?_singleton]
  rfl

theorem flag_of_none (h : v.at? [name] = none) : v.flag (name :: names) = false := by
  rw [flag, at?_cons, h, Option.bind_none, Option.bind_none, Option.getD_none]

theorem flag_of_some (h : v.at? [name] = some w) : v.flag (name :: names) = w.flag names := by
  rw [flag, at?_cons, h, Option.bind_some, flag]

end Value

/-- A field that may be left out has the value at its name, or its default. -/
theorem Checked.fieldOr_eq_valid {α : Type} {default a : α} {v : Value} {es : Entries}
    {name : String} {read : Value → Checked α} (hes : v.entries? = some es) :
    fieldOr default es [name] read = valid a ↔
      v.at? [name] = none ∧ a = default ∨ ∃ w, v.at? [name] = some w ∧ read w = valid a := by
  have hat : v.at? [name] = es.get? name := by
    rw [Value.at?_singleton, hes, Option.bind_some]
  unfold fieldOr lookup
  rw [hat]
  cases es.get? name with
  | none => simp [lookup, eq_comm]
  | some w => simp [Checked.under_eq_valid]

namespace RouteRecord

/-- A record is marked to be ignored, in its information or one level further in. -/
def IsMarked (raw : Value) : Prop :=
  raw.flag ["meta", "ignore"] = true ∨ raw.flag ["meta", "swagger", "ignore"] = true

/-- The information one level further in is a mapping without a mark. -/
def IsShadowed (raw : Value) : Prop :=
  (raw.at? ["meta", "swagger"]).any (·.entries?.isSome) = true ∧
    raw.flag ["meta", "swagger", "ignore"] = false

/-- A record is left out: it is marked, and the mark is not shadowed. -/
def IsLeftOut (raw : Value) : Prop := IsMarked raw ∧ ¬ IsShadowed raw

instance (raw : Value) : Decidable (IsMarked raw) := inferInstanceAs (Decidable (_ ∨ _))

instance (raw : Value) : Decidable (IsShadowed raw) := inferInstanceAs (Decidable (_ ∧ _))

instance (raw : Value) : Decidable (IsLeftOut raw) := inferInstanceAs (Decidable (_ ∧ _))

end RouteRecord

/-! ## Reading marks -/

/-- The information is in a mapping one level further in, or in the value itself. -/
theorem RouteInfo.unwrap_cases (v : Value) :
    (∃ inner, v.at? ["swagger"] = some inner ∧ inner.entries?.isSome = true ∧ unwrap v = inner) ∨
      (v.at? ["swagger"]).any (·.entries?.isSome) = false ∧ unwrap v = v := by
  unfold unwrap
  rw [Value.at?_singleton]
  split
  · rename_i l es hinner
    refine .inl ⟨.map l es, hinner, ?_, rfl⟩
    unfold Value.entries?
    split <;> simp_all
  · rename_i hno
    refine .inr ⟨?_, rfl⟩
    cases hinner : v.entries?.bind fun es => Entries.get? es "swagger" with
    | none => rfl
    | some inner =>
      cases inner with
      | map l es => exact absurd hinner (hno l es)
      | _ => rfl

theorem RouteInfo.ignore_of_read {v : Value} :
    (read v).Ensures fun info => info.ignore = (unwrap v).flag ["ignore"] := by
  unfold read
  dsimp only
  cases hes : (unwrap v).entries? with
  | none => exact Checked.ensures_issue _ _
  | some es =>
    have hignore : (Checked.fieldOr false es ["ignore"] Checked.bool).Ensures
        fun ignore => ignore = (unwrap v).flag ["ignore"] := by
      intro ignore h
      obtain ⟨hnone, rfl⟩ | ⟨w, hw, hbool⟩ := (Checked.fieldOr_eq_valid hes).mp h
      · rw [Value.flag_of_none hnone]
      · rw [Value.flag, hw, Option.bind_some, hbool]
        rfl
    refine .seq hignore (.skip (.skip (.skip (.skip (.map ?_)))))
    exact fun _ _ _ _ _ _ _ h => h

namespace RouteRecord

/-- **Marks that are read.** A record is to be ignored exactly when it is left out. -/
theorem ignore_iff {raw : Value} {record : RouteRecord} (h : read raw = valid record) :
    record.info.ignore = true ↔ IsLeftOut raw := by
  suffices (read raw).Ensures fun record => record.info.ignore = true ↔ IsLeftOut raw from this _ h
  unfold read
  cases hes : raw.entries? with
  | none => exact Checked.ensures_issue _ _
  | some es =>
    have hinfo : (Checked.fieldOr {} es ["meta"] RouteInfo.read).Ensures
        fun info => info.ignore = true ↔ IsLeftOut raw := by
      intro info h
      unfold IsLeftOut IsMarked IsShadowed
      obtain ⟨hnone, rfl⟩ | ⟨v, hv, hread⟩ := (Checked.fieldOr_eq_valid hes).mp h
      · simp [Value.flag_of_none hnone]
      · rw [RouteInfo.ignore_of_read info hread, Value.flag_of_some hv, Value.flag_of_some hv,
          Value.at?_cons, hv, Option.bind_some]
        -- A mapping under `swagger` stands for the whole, so a mark beside it is not read.
        obtain ⟨inner, hinner, hmapping, hunwrap⟩ | ⟨hno, hunwrap⟩ := RouteInfo.unwrap_cases v
        · rw [hunwrap, Value.flag_of_some hinner, hinner]
          cases inner.flag ["ignore"] <;> simp [hmapping]
        · have hnested : v.flag ["swagger", "ignore"] = false := by
            cases hinner : v.at? ["swagger"] with
            | none => exact Value.flag_of_none hinner
            | some inner =>
              have hentries : inner.entries? = none := by simpa [hinner] using hno
              rw [Value.flag_of_some hinner, Value.flag, Value.at?_singleton, hentries]
              rfl
          rw [hunwrap, hno, hnested]
          simp
    refine .skip (.skip (.seq hinfo (.skip (.map ?_))))
    exact fun _ _ _ _ h _ _ => h

end RouteRecord

/-! ## Routes that are collected -/

namespace Router

variable {v : Value} {router : Router}

/-- The records of a router as they are given. -/
def rawRecords (v : Value) : List Value := ((v.at? ["routes"]).bind (·.items?)).getD []

/-- The records that are read from values, without those that are left out. -/
def remaining (raws : List Value) : List RouteRecord :=
  (raws.filter fun raw => ¬ RouteRecord.IsLeftOut raw).filterMap fun raw =>
    (RouteRecord.read raw).toOption

/-- The records of a router that is read are read from those that are given, one by one. -/
theorem map_read_rawRecords (h : read v = valid router) :
    (rawRecords v).map RouteRecord.read = router.records.map valid := by
  suffices (read v).Ensures fun router => (rawRecords v).map RouteRecord.read =
      router.records.map valid
    from this _ h
  unfold read
  cases hes : v.entries? with
  | none => exact Checked.ensures_issue _ _
  | some es =>
    have hrecords : (Checked.fieldOr [] es ["routes"] (Checked.listOf RouteRecord.read)).Ensures
        fun records => (rawRecords v).map RouteRecord.read = records.map valid := by
      intro records h
      unfold rawRecords
      obtain ⟨hnone, rfl⟩ | ⟨w, hw, hlist⟩ := (Checked.fieldOr_eq_valid hes).mp h
      · rw [hnone]
        rfl
      · rw [hw, Option.bind_some]
        unfold Checked.listOf at hlist
        cases hitems : w.items? with
        | none =>
          rw [hitems] at hlist
          cases hlist
        | some items =>
          rw [hitems] at hlist
          exact Checked.map_read_of_itemsFrom hlist
    refine .seq hrecords (.map ?_)
    exact fun _ _ _ h => h

theorem filter_ignore {raws : List Value} {records : List RouteRecord}
    (h : raws.map RouteRecord.read = records.map valid) :
    records.filter (fun record => !record.info.ignore) = remaining raws := by
  induction raws generalizing records with
  | nil => rw [List.map_eq_nil_iff.mp h.symm]; rfl
  | cons raw raws ih =>
    obtain _ | ⟨record, records⟩ := records
    · cases h
    · obtain ⟨hread, hrest⟩ := List.cons.inj h
      have hignore := RouteRecord.ignore_iff hread
      have hremaining := ih hrest
      unfold remaining at hremaining ⊢
      by_cases hout : RouteRecord.IsLeftOut raw
      · rw [List.filter_cons_of_neg (by simpa using hignore.mpr hout),
          List.filter_cons_of_neg (by simpa using hout), hremaining]
      · rw [List.filter_cons_of_pos (by simpa using mt hignore.mp hout),
          List.filter_cons_of_pos (by simpa using hout), List.filterMap_cons, hread, hremaining]
        rfl

theorem collectFrom_filter {m : Type → Type} [Monad m] (keep : RouteRecord → m Bool)
    (mount : String) (records : List RouteRecord) :
    collectFrom keep mount records =
      collectFrom keep mount (records.filter fun record => !record.info.ignore) := by
  induction records with
  | nil => rfl
  | cons record records ih =>
    cases hignore : record.info.ignore with
    | true => rw [collectFrom, if_pos hignore, ih, List.filter_cons_of_neg (by simp [hignore])]
    | false =>
      rw [List.filter_cons_of_pos (by simp [hignore]), collectFrom, collectFrom, ih]

/-- The routes that a filter without effects keeps. -/
theorem collect_eq (given : Option String) (keep : RouteRecord → Bool) (router : Router) :
    router.collect given keep =
      (router.records.filter fun record => !record.info.ignore && keep record).flatMap
        (·.routes (router.mountWith given)) := by
  unfold collect collectM
  induction router.records with
  | nil => rfl
  | cons record records ih =>
    change (if record.info.ignore = true then (collectFrom (m := Id) keep _ records).run
      else if keep record = true then
        record.routes _ ++ (collectFrom (m := Id) keep _ records).run
      else (collectFrom (m := Id) keep _ records).run) = _
    rw [ih, List.filter_cons]
    cases record.info.ignore with
    | true => rfl
    | false => cases keep record <;> rfl

end Router

/-! ## Operations of documents -/

/-- A document has an operation for a method at a path. -/
def Document.Has (d : Document) (path method : String) : Prop :=
  ∃ methods, (path, methods) ∈ d.paths ∧ method ∈ methods.map (·.1)

namespace Api

variable {config : DocumentConfig} {options : Options} {routes : List Route} {d : Document}
  {notices : List Notice}

/-- The operations of a finished document are at the paths and methods of the routes. -/
theorem has_of_generate (h : (Api.mk routes).generate config options = (.ok d, notices))
    (path method : String) : d.Has path method ↔ ∃ r ∈ routes, r.IsAt path method := by
  obtain ⟨t, hdraft, -, -⟩ := draft_of_generate h
  obtain ⟨known, hpaths, hdone⟩ := Work.roundsDone_of_draft hdraft
  have hmethods : method ∈ (known.methodsAt path).map (·.1) ↔ ∃ r ∈ routes, r.IsAt path method := by
    rw [hdone.methods, List.mem_eraseDups]
    simp [Route.IsAt, and_assoc]
  rw [← hmethods]
  unfold Document.Has Work.Paths.methodsAt
  rw [hpaths]
  constructor
  · rintro ⟨methods, hmem, hmethod⟩
    -- A path is listed once, so the methods listed are the ones that are looked up.
    have hnodup : (known.paths.map (·.1)).Nodup := by
      rw [hdone.paths]
      exact nodup_eraseDups _
    rwa [getNamed?_of_mem hnodup hmem, Option.getD_some]
  · intro hmethod
    cases hget : getNamed? path known.paths with
    | none =>
      rw [hget] at hmethod
      cases hmethod
    | some methods =>
      rw [hget, Option.getD_some] at hmethod
      exact ⟨methods, mem_of_getNamed? hget, hmethod⟩

end Api

namespace Router

variable {v : Value} {router : Router}

/-- **Ignored records.** The routes of a router are collected as if the records that are left out
were not there, under any prefix and any filter, and to a document the router adds the operations of
the other records that the filter keeps, and no others. -/
theorem collect_of_ofValue (h : ofValue v = .ok router) :
    (rawRecords v).map RouteRecord.read = router.records.map valid ∧
      (∀ (m : Type → Type) [Monad m] (given : Option String) (keep : RouteRecord → m Bool),
        router.collectM given keep =
          collectFrom keep (router.mountWith given) (remaining (rawRecords v))) ∧
      ∀ (api : Api) given keep config options d notices,
        (api.addRouter router given keep).generate config options = (.ok d, notices) →
          ∀ path method, d.Has path method ↔
            (∃ r ∈ api.routes, r.IsAt path method) ∨
              ∃ record ∈ remaining (rawRecords v), keep record = true ∧
                ∃ r ∈ record.routes (router.mountWith given), r.IsAt path method := by
  have hread : read v = valid router := Checked.toExcept_eq_ok_iff.mp h
  have hrecords := map_read_rawRecords hread
  have hremaining := filter_ignore hrecords
  refine ⟨hrecords, fun m _ given keep => ?_, fun api given keep config options d notices hd => ?_⟩
  · rw [collectM, collectFrom_filter, hremaining]
  · intro path method
    rw [Api.has_of_generate hd, ← hremaining, collect_eq]
    simp only [List.mem_append, List.mem_flatMap, List.mem_filter, Bool.and_eq_true, or_and_right,
      exists_or, and_assoc]
    refine or_congr_right ⟨?_, ?_⟩
    · rintro ⟨r, ⟨record, hmem, hignore, hkeep, hr⟩, hat⟩
      exact ⟨record, hmem, hignore, hkeep, r, hr, hat⟩
    · rintro ⟨record, hmem, hignore, hkeep, r, hr, hat⟩
      exact ⟨r, ⟨record, hmem, hignore, hkeep, hr⟩, hat⟩

namespace Sample

/-- A record of a path with some information. -/
def raw (path : String) (info : List (String × Value)) : Value :=
  .object [("method", .str "get"), ("path", .str path), ("meta", .object info)]

/-- A router with a record that is marked and one that is not. -/
def marked : Value :=
  .object [("routes", .listOf [raw "/a" [], raw "/b" [("ignore", .bool true)]])]

/-- A router with a record whose mark is shadowed. -/
def shadowed : Value :=
  .object [("routes", .listOf [raw "/b" [("ignore", .bool true),
    ("swagger", .object [("summary", .str "internal")])]])]

end Sample

theorem collect_of_ofValue_sample :
    ∃ router d notices, ofValue Sample.marked = .ok router ∧
      (Api.addRouter {} router none).generate { info := [], basePath := "/" } {} =
        (.ok d, notices) ∧
      ¬ d.Has "/b" "get" := by
  have h : ∃ router d notices, ofValue Sample.marked = .ok router ∧ router.mountWith none = "" ∧
      (Api.addRouter {} router none).generate { info := [], basePath := "/" } {} =
      (.ok d, notices) :=
    ⟨_, _, _, rfl, rfl, rfl⟩
  obtain ⟨router, d, notices, hrouter, hmount, hd⟩ := h
  obtain ⟨-, -, hhas⟩ := collect_of_ofValue hrouter
  refine ⟨router, d, notices, hrouter, hd, ?_⟩
  rw [hhas {} none _ _ _ d notices hd, hmount]
  unfold Route.IsAt
  decide +kernel

/-- The routes of a record that is marked to be ignored can be collected and documented. -/
theorem not_leftOut_of_isMarked :
    ∃ router d notices, ofValue Sample.shadowed = .ok router ∧
      (∀ raw ∈ rawRecords Sample.shadowed, RouteRecord.IsMarked raw) ∧
      (Api.addRouter {} router none).generate { info := [], basePath := "/" } {} =
        (.ok d, notices) ∧
      d.Has "/b" "get" := by
  exact ⟨_, _, _, rfl, by decide +kernel, rfl, _, List.mem_cons_self, List.mem_cons_self⟩

end Router

end ApiDoc
