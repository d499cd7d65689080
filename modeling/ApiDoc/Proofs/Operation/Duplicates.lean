import Mathlib.Data.List.Count
import ApiDoc.Proofs.Operation.Outputs
import ApiDoc.Proofs.Operation.Parameters
import ApiDoc.Proofs.Schema.Names

/-!
# Parameters that an operation has twice

A parameter is known by its name and its location. A name in the path that is declared gives no
parameter of its own, but two that are not declared are not compared with each other. So a name that
is in the path twice, which can be once in the part that the route is below, gives two parameters.

Main statement: `Work.two_le_count_parameters_iff`. Nothing else gives a parameter twice, as long as
the declared parts of each location have different names (`Route.Proper`), and that they have in all
routes that are read (`Router.gives_proper_routes`).
-/

namespace ApiDoc

open Parameter (Head)

/-- What a parameter is known by. -/
def Parameter.Head.key (h : Head) : String × String := (h.name, h.location)

namespace Route

/-- The parts that a route declares for a location have different names. -/
def Proper (r : Route) : Prop := ∀ l, ((r.declared l).map (·.1)).Nodup

variable {r : Route} {name location : String}

/-! ## Keys of declared parameters -/

theorem keys_declaredHeads (r : Route) :
    r.declaredHeads.map (·.key) =
      [.path, .query, .header].flatMap fun l => ((r.declared l).map (·.1)).map (·, l.name) := by
  simp [declaredHeads, headOf, Head.key, Function.comp_def]

theorem nodup_declaredHeads (hp : r.Proper) : (r.declaredHeads.map (·.key)).Nodup := by
  rw [keys_declaredHeads, List.nodup_flatMap]
  constructor
  · exact fun l _ => (hp l).map fun a b h => (Prod.mk.inj h).1
  · have hlocations : ([.path, .query, .header] : List Location).Nodup := by decide
    refine hlocations.imp fun {l m} hne x hx hy => hne ?_
    obtain ⟨_, -, rfl⟩ := List.mem_map.mp hx
    obtain ⟨_, -, heq⟩ := List.mem_map.mp hy
    exact Location.name_injective (Prod.mk.inj heq).2.symm

theorem mem_declaredHeads :
    (name, location) ∈ r.declaredHeads.map (·.key) ↔
      ∃ l, l.name = location ∧ name ∈ (r.declared l).map (·.1) := by
  rw [keys_declaredHeads, List.mem_flatMap]
  refine exists_congr fun l => ?_
  have hl : l ∈ ([.path, .query, .header] : List Location) := by cases l <;> decide
  rw [List.mem_map]
  constructor
  · rintro ⟨-, n, hn, heq⟩
    obtain ⟨rfl, rfl⟩ := Prod.mk.inj heq
    exact ⟨rfl, hn⟩
  · rintro ⟨rfl, hn⟩
    exact ⟨hl, name, hn, rfl⟩

theorem location_of_mem_bodyHeads (h : (name, location) ∈ r.bodyHeads.map (·.key)) :
    location = "body" := by
  simp only [bodyHeads, List.map_map, List.mem_map] at h
  obtain ⟨_, -, heq⟩ := h
  exact (Prod.mk.inj heq).2.symm

/-- Beside the names in the path nothing gives a parameter twice. -/
theorem nodup_declaredHeads_bodyHeads (hp : r.Proper) :
    (r.declaredHeads.map (·.key) ++ r.bodyHeads.map (·.key)).Nodup := by
  refine (nodup_declaredHeads hp).append ?_ ?_
  · unfold bodyHeads
    cases r.request.bind (·.body) <;> simp
  · rintro ⟨name, location⟩ hdeclared hbody
    obtain ⟨l, rfl, -⟩ := mem_declaredHeads.mp hdeclared
    exact l.name_ne_body (location_of_mem_bodyHeads hbody)

/-! ## Names in the path -/

theorem count_undeclared (name : String) :
    r.undeclared.count name =
      if name ∈ (r.declared .path).map (·.1) then 0
        else (Path.templateNames r.fullPath).count name := by
  unfold undeclared
  split
  · rename_i h
    exact List.count_eq_zero.mpr fun hmem => by simpa [h] using (List.mem_filter.mp hmem).2
  · rename_i h
    exact List.count_filter (by simpa using h)

theorem count_undeclaredHeads (name location : String) :
    (r.undeclaredHeads.map (·.key)).count (name, location) =
      if location = "path" then r.undeclared.count name else 0 := by
  rw [undeclaredHeads, List.map_map]
  split
  · rename_i h
    subst h
    have hinjective : Function.Injective (Head.key ∘ fun name => ⟨name, "path", true⟩) :=
      fun _ _ h => (Prod.mk.inj h).1
    exact List.count_map_of_injective _ _ hinjective name
  · rename_i h
    refine List.count_eq_zero.mpr fun hmem => h ?_
    obtain ⟨_, -, heq⟩ := List.mem_map.mp hmem
    exact (Prod.mk.inj heq).2.symm

/-- What the parameters of a route say of one name and location twice. -/
theorem two_le_count_heads_iff (hp : r.Proper) (name location : String) :
    2 ≤ (r.heads.map (·.key)).count (name, location) ↔
      location = "path" ∧ name ∉ (r.declared .path).map (·.1) ∧
        2 ≤ (Path.templateNames r.fullPath).count name := by
  have hcount : (r.heads.map (·.key)).count (name, location) =
      (r.declaredHeads.map (·.key) ++ r.bodyHeads.map (·.key)).count (name, location) +
        if location = "path" then r.undeclared.count name else 0 := by
    rw [← count_undeclaredHeads]
    simp only [heads, List.map_append, List.count_append]
    omega
  have hone := List.nodup_iff_count_le_one.mp (nodup_declaredHeads_bodyHeads hp) (name, location)
  rw [hcount, count_undeclared]
  split
  · rename_i hlocation
    split
    · rename_i hdeclared
      simp only [hlocation, hdeclared, not_true, false_and, and_false, iff_false, Nat.not_le]
      rw [hlocation] at hone
      omega
    · rename_i hdeclared
      -- A name that is not declared is the name of no other parameter of the path.
      have hnone : (name, location) ∉ r.declaredHeads.map (·.key) ++ r.bodyHeads.map (·.key) := by
        intro hmem
        rcases List.mem_append.mp hmem with hmem | hmem
        · obtain ⟨l, hl, hname⟩ := mem_declaredHeads.mp hmem
          obtain rfl : l = .path := Location.name_injective (hl.trans hlocation)
          exact hdeclared hname
        · exact absurd (hlocation.symm.trans (location_of_mem_bodyHeads hmem)) (by decide)
      rw [List.count_eq_zero.mpr hnone]
      simp [hlocation, hdeclared]
  · rename_i hlocation
    simp only [hlocation, false_and, iff_false, Nat.not_le]
    omega

end Route

/-! ## Operations -/

/-- What the parameters of an operation are known by, in order. -/
def Operation.parameterKeys (o : Operation) : List (String × String) :=
  o.parameters.map fun p => (p.name, p.locationName)

theorem Operation.parameterKeys_eq (o : Operation) :
    o.parameterKeys = (o.parameters.map (·.head)).map (·.key) := by
  rw [parameterKeys, List.map_map]
  exact List.map_congr_left fun p _ => by cases p <;> rfl

namespace Work

/-- **Parameters that are there twice** are those of names that are in the path twice and not
declared. -/
theorem two_le_count_parameters_iff {defaults : List (String × Output)} {r : Route} {o : Operation}
    {s s' : Session} (hp : r.Proper) (h : Run (operation defaults r) s o s')
    (name location : String) :
    2 ≤ o.parameterKeys.count (name, location) ↔
      location = "path" ∧ name ∉ (r.declared .path).map (·.1) ∧
        2 ≤ (Path.templateNames r.fullPath).count name := by
  obtain ⟨ps, t, rs, t', hps, -, -, rfl⟩ := run_operation h
  rw [Operation.parameterKeys_eq, (heads_of_parameters hps).1]
  exact r.two_le_count_heads_iff hp name location

namespace Sample

/-- A route that has a name in its path which the path above has too. -/
def repeated : Route where
  method := .get
  mount := "/users/:id"
  path := "/posts/:id"

theorem repeated_proper : repeated.Proper := by
  intro l
  cases l <;> exact .nil

end Sample

theorem two_le_count_parameters_iff_sample :
    Sample.repeated.Proper ∧ ∃ o s', Run (operation [] Sample.repeated) {} o s' ∧
      2 ≤ o.parameterKeys.count ("id", "path") := by
  have h : Run (operation [] Sample.repeated) {} _ _ := rfl
  refine ⟨Sample.repeated_proper, _, _, h, ?_⟩
  refine (two_le_count_parameters_iff Sample.repeated_proper h "id" "path").mpr ⟨rfl, nofun, ?_⟩
  decide +kernel

/-- An operation can have one parameter twice. -/
theorem not_nodup_parameterKeys :
    ∃ o s', Sample.repeated.Proper ∧ Run (operation [] Sample.repeated) {} o s' ∧
      ¬ o.parameterKeys.Nodup :=
  ⟨_, _, Sample.repeated_proper, rfl, by decide +kernel⟩

end Work

/-! ## Routes that are read -/

theorem Node.nodup_parts {n : Node} (h : n.Proper) : ((Work.parts n).map (·.1)).Nodup := by
  obtain ⟨-, hnames, -, -⟩ := h
  unfold Work.parts
  cases hparts : n.properties with
  | none => exact .nil
  | some parts => exact hnames parts hparts

theorem RequestSpec.gives_parts : Checked.Gives read fun request =>
    ∀ l n, request.node? l = some n → ((Work.parts n).map (·.1)).Nodup := by
  have hpart {es : Entries} {names : List String} :
      (Checked.fieldOr none es names (Checked.optional Node.read)).Ensures
        fun node => ∀ n, node = some n → ((Work.parts n).map (·.1)).Nodup :=
    have hread : Checked.Gives Node.read fun n => ((Work.parts n).map (·.1)).Nodup :=
      fun v n h => Node.nodup_parts (Node.gives_proper v n h)
    hread.optional.fieldOr (by simp)
  intro v
  unfold read
  cases v.entries? with
  | none => exact Checked.ensures_issue _ v
  | some es =>
    change Checked.Ensures _ _
    refine .skip (.skip (.seq hpart (.seq hpart (.seq hpart (.skip (.map ?_))))))
    intro _ _ _ query hquery params hparams headers hheaders _ _ l
    cases l with
    | path => exact hparams
    | query => exact hquery
    | header => exact hheaders

theorem RouteRecord.gives_proper_routes : Checked.Gives read fun record =>
    ∀ mount, ∀ r ∈ record.routes mount, r.Proper := by
  intro v
  unfold read
  cases v.entries? with
  | none => exact Checked.ensures_issue _ v
  | some es =>
    change Checked.Ensures _ _
    refine .skip (.seq (RequestSpec.gives_parts.optional.fieldOr (by simp)) ?_)
    refine .skip (.skip (.map ?_))
    intro _ _ _ _ request hnames _ mount r hr l
    obtain ⟨method, -, rfl⟩ := List.mem_map.mp hr
    unfold Route.declared
    cases request with
    | none => exact .nil
    | some request =>
      cases hnode : request.node? l with
      | none => simp [hnode]
      | some n => simpa [hnode] using hnames request rfl l n hnode

theorem Router.mem_collectFrom {keep : RouteRecord → Id Bool} {mount : String} {r : Route}
    {records : List RouteRecord} (h : r ∈ (collectFrom keep mount records).run) :
    ∃ record ∈ records, r ∈ record.routes mount := by
  induction records with
  | nil =>
    simp [collectFrom] at h
  | cons record records ih =>
    have hrest (h : r ∈ (collectFrom keep mount records).run) :
        ∃ d ∈ record :: records, r ∈ d.routes mount := by
      obtain ⟨d, hd, hr⟩ := ih h
      exact ⟨d, List.mem_cons_of_mem _ hd, hr⟩
    rw [collectFrom] at h
    split at h
    · exact hrest h
    · simp only [Id.run_bind] at h
      split at h
      · simp only [Id.run_bind, Id.run_pure, List.mem_append] at h
        exact h.elim (fun hr => ⟨record, List.mem_cons_self, hr⟩) hrest
      · exact hrest h

/-- **Every route of a router that is read** is proper. -/
theorem Router.gives_proper_routes : Checked.Gives read fun router =>
    ∀ given keep, ∀ r ∈ router.collect given keep, r.Proper := by
  intro v
  unfold read
  cases v.entries? with
  | none => exact Checked.ensures_issue _ v
  | some es =>
    change Checked.Ensures _ _
    refine .seq (RouteRecord.gives_proper_routes.listOf.fieldOr (by simp)) (.map ?_)
    intro _ _ records hproper given keep r hr
    obtain ⟨record, hrecord, hr⟩ := mem_collectFrom hr
    exact hproper record hrecord _ r hr

end ApiDoc
