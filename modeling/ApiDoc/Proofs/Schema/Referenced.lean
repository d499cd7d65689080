import ApiDoc.Proofs.Schema.Positions

/-!
# What a translated schema refers to

A schema refers to a pointer when a reference to it stands at a schema position
(`Schema.RefersTo`). A translated schema refers exactly to what its translation has met
(`Node.refersTo_iff`). One direction is that nothing is referred to without having been met. For the
other, every reference that is met while a part is translated is in the schema of that part, and the
schema of a node has those of its parts: under `properties`, under `items`, or all of them under
`x-alternatives`, which is set last and so never lost.

Main statement: `Node.ref_iff`, the same of the written schema: the values under `$ref` at its
schema positions are the pointers of what was met, no more and no fewer.
-/

namespace ApiDoc

namespace Schema

/-- A reference to a pointer stands at a schema position. -/
def RefersTo (s : Schema) (p : String) : Prop := ∃ t, Part s t ∧ .ref p ∈ t

variable {s : Schema} {p : String}

theorem refersTo_reference (p : String) : (reference p).RefersTo p :=
  ⟨_, .self _, List.mem_singleton_self _⟩

/-- A schema refers to what a schema inside of it refers to. -/
theorem RefersTo.inside {k : Keyword} {u : Schema} (h : u.RefersTo p) (hk : k ∈ s)
    (hu : u ∈ k.schemas) : s.RefersTo p := by
  obtain ⟨t, ht, hp⟩ := h
  exact ⟨t, .inside hk hu ht, hp⟩

theorem Among.mem_of_refersTo {known : List String} (hs : s.Among known) (h : s.RefersTo p) :
    p ∈ known := by
  obtain ⟨t, ht, hp⟩ := h
  exact hs t ht _ hp

end Schema

namespace Node

variable {n : Node} {s : Schema} {rs : List String} {p : String}

/-! ## Parts of the schema of a node -/

theorem mem_annotate {k : Keyword} (hk : k ∈ s)
    (hname : k.name ∉ ["description", "default", "example"]) : k ∈ n.annotate s := by
  simp only [List.mem_cons, List.not_mem_nil, or_false, not_or] at hname
  obtain ⟨hdescription, hdefault, hexample⟩ := hname
  refine Schema.mem_put?_of_ne (Schema.mem_put?_of_ne (Schema.mem_put?_of_ne hk ?_) ?_) ?_
  · intro j hj
    obtain ⟨d, -, rfl⟩ := Option.map_eq_some_iff.mp hj
    exact hdescription
  · intro j hj
    split at hj
    · cases hj
    · obtain rfl := Option.some.inj hj
      exact hdefault
  · intro j hj
    split at hj
    · cases hj
    · obtain rfl := Option.some.inj hj
      exact hexample

theorem mem_objectSchema {members : List (String × Schema)} (h : members ≠ []) :
    .properties members ∈ n.objectSchema members := by
  have hempty : members.isEmpty = false := by simpa using h
  refine Schema.mem_put?_of_ne (Schema.mem_put?_of_ne ?_ ?_) ?_
  · rw [hempty]
    exact Schema.mem_put_self _ _
  · intro j hj
    split at hj
    · cases hj
    · obtain rfl := Option.some.inj hj
      simp [Keyword.name]
  · intro j hj
    obtain ⟨b, -, rfl⟩ := Option.map_eq_some_iff.mp hj
    simp [Keyword.name]

theorem mem_arraySchema (u : Schema) : .items u ∈ n.arraySchema u := by
  refine Schema.mem_put?_of_ne (Schema.mem_put?_of_ne (by simp) ?_) ?_ <;>
  · intro j hj
    obtain ⟨b, -, rfl⟩ := Option.map_eq_some_iff.mp hj
    simp [Keyword.name, Bound.name]

theorem mem_branchSchema (first : Schema) (rest : List Schema) :
    .branches (first :: rest) ∈ branchSchema first rest :=
  Schema.mem_put_self _ _

/-- The schema of a part is in that of the node, under a keyword that no annotation replaces. -/
theorem Assembles.exists_keyword {us : List Schema} {u : Schema} (h : n.Assembles us s)
    (hu : u ∈ us) : ∃ k ∈ s, k.name ∉ ["description", "default", "example"] ∧ u ∈ k.schemas := by
  cases h with
  | leaf => simp at hu
  | object =>
    have hne : _ ≠ [] := List.ne_nil_of_mem (List.mem_map.mp hu).choose_spec.1
    exact ⟨_, mem_objectSchema hne, by simp [Keyword.name], hu⟩
  | array v => exact ⟨_, mem_arraySchema v, by simp [Keyword.name], hu⟩
  | branches first rest => exact ⟨_, mem_branchSchema first rest, by simp [Keyword.name], hu⟩

/-! ## References that were met -/

theorem refersTo_of_translateTagged {tagged : Bool}
    (h : translateTagged referenceTo tagged n = ⟨rs, .ok s⟩) :
    ∀ r ∈ rs, s.RefersTo (pointerTo r) := by
  refine induction_translateTagged (motive := fun rs s => ∀ r ∈ rs, s.RefersTo (pointerTo r))
    (fun r q hq => ?_) (fun n us body rs hassembles _ hrefs r hr => ?_) h
  · rw [List.mem_singleton.mp hq]
    exact Schema.refersTo_reference _
  · obtain ⟨u, hu, ms, hr, hrefers⟩ := hrefs r hr
    obtain ⟨k, hk, hname, hu⟩ := hassembles.exists_keyword hu
    exact (hrefers r hr).inside (mem_annotate hk hname) hu

/-- **A translated schema refers to what was met**, and to nothing else. -/
theorem refersTo_iff {tagged : Bool} (h : translateTagged referenceTo tagged n = ⟨rs, .ok s⟩) :
    s.RefersTo p ↔ ∃ r ∈ rs, p = pointerTo r := by
  constructor
  · intro hrefers
    obtain ⟨r, hr, rfl⟩ := List.mem_map.mp ((among_of_translateTagged h).mem_of_refersTo hrefers)
    exact ⟨r, hr, rfl⟩
  · rintro ⟨r, hr, rfl⟩
    exact refersTo_of_translateTagged h r hr

end Node

/-! ## References of a written schema -/

namespace Schema

variable {flat : Bool} {self at_ : Place} {made : String → Place}

theorem exists_mem_memberEntries {place : Place} {members : List (String × Schema)}
    {m : String × Schema} (h : m ∈ members) :
    ∃ w, (.str m.1, w) ∈ memberEntries place members ∧ w.Writes m.2 := by
  induction members with
  | nil => simp at h
  | cons e members ih =>
    obtain ⟨name, s⟩ := e
    rw [memberEntries]
    rcases List.mem_cons.mp h with rfl | h
    · exact ⟨_, List.mem_cons_self, writes_entries _ s⟩
    · obtain ⟨w, hw, hwritten⟩ := ih h
      exact ⟨w, List.mem_cons_of_mem _ hw, hwritten⟩

theorem exists_mem_values {place : Nat → Place} {n : Nat} {ss : List Schema} {s : Schema}
    (h : s ∈ ss) : ∃ v ∈ values place n ss, v.Writes s := by
  induction ss generalizing n with
  | nil => simp at h
  | cons u ss ih =>
    rw [values]
    rcases List.mem_cons.mp h with rfl | h
    · exact ⟨_, List.mem_cons_self, writes_entries _ s⟩
    · obtain ⟨v, hv, hwritten⟩ := ih h
      exact ⟨v, List.mem_cons_of_mem _ hv, hwritten⟩

end Schema

namespace Value

variable {v w : Value} {s : Schema} {known : List String} {p : String}

theorem Writes.has (h : v.Writes s) {k : Keyword} (hk : k ∈ s) :
    ∃ flat self at_ made, v.Has k.name (Schema.keywordValue flat self at_ made k) := by
  obtain ⟨l, pre, flat, self, at_, made, rfl, -⟩ := h
  refine ⟨flat, self, at_, made, has_map.mpr (List.mem_append_right _ ?_)⟩
  rw [Schema.entries_eq]
  exact List.mem_map.mpr ⟨k, hk, rfl⟩

/-- A schema under a keyword is written at a schema position. -/
theorem Writes.schemaIn_of_mem (h : v.Writes s) {k : Keyword} {u : Schema} (hk : k ∈ s)
    (hu : u ∈ k.schemas) : ∃ w : Value, w.Writes u ∧ ∀ x, w.SchemaIn x → v.SchemaIn x := by
  obtain ⟨flat, self, at_, made, hhas⟩ := h.has hk
  cases k with
  | properties members =>
    rw [Schema.keywordValue] at hhas
    obtain ⟨m, hm, rfl⟩ := List.mem_map.mp hu
    obtain ⟨w, hw, hwritten⟩ := Schema.exists_mem_memberEntries hm
    exact ⟨w, hwritten, fun x hx => .property hhas (has_map.mpr hw) hx⟩
  | items t =>
    obtain rfl := List.mem_singleton.mp hu
    rw [Schema.keywordValue] at hhas
    exact ⟨_, Schema.writes_entries _ u, fun x hx => .items hhas hx⟩
  | allOf ss =>
    rw [Schema.keywordValue] at hhas
    obtain ⟨w, hw, hwritten⟩ := Schema.exists_mem_values hu
    exact ⟨w, hwritten, fun x hx => .allOf hhas (lists_list.mpr hw) hx⟩
  | branches ss =>
    rw [Schema.keywordValue] at hhas
    obtain ⟨w, hw, hwritten⟩ := Schema.exists_mem_values hu
    exact ⟨w, hwritten, fun x hx => .alternative hhas (lists_list.mpr hw) hx⟩
  | _ => simp [Keyword.schemas] at hu

/-- Every schema position of a schema is one of what is written for it. -/
theorem Writes.schemaIn_of_part {t : Schema} (h : v.Writes s) (ht : s.Part t) :
    ∃ w, v.SchemaIn w ∧ w.Writes t := by
  induction ht generalizing v with
  | self s => exact ⟨v, .self v, h⟩
  | inside hk hu _ ih =>
    obtain ⟨x, hx, hin⟩ := h.schemaIn_of_mem hk hu
    obtain ⟨w, hw, hwritten⟩ := ih hx
    exact ⟨w, hin w hw, hwritten⟩

theorem Writes.ref_of_refersTo (h : v.Writes s) (hp : s.RefersTo p) :
    ∃ w, v.SchemaIn w ∧ w.Has "$ref" (.str p) := by
  obtain ⟨t, ht, hmem⟩ := hp
  obtain ⟨w, hw, hwritten⟩ := h.schemaIn_of_part ht
  obtain ⟨flat, self, at_, made, hhas⟩ := hwritten.has hmem
  rw [Schema.keywordValue] at hhas
  exact ⟨w, hw, hhas⟩

end Value

namespace Node

/-- **References of a written schema.** What stands under `$ref` at its schema positions are the
pointers of what its translation has met. -/
theorem ref_iff {n : Node} {tagged : Bool} {rs : List String} {s : Schema}
    (h : translateTagged referenceTo tagged n = ⟨rs, .ok s⟩) {v w : Value} (hv : v.Writes s) :
    (∃ x, v.SchemaIn x ∧ x.Has "$ref" w) ↔ ∃ r ∈ rs, w = .str (pointerTo r) := by
  constructor
  · rintro ⟨x, hx, hhas⟩
    obtain ⟨t, hwritten, ht⟩ := Value.writes_of_schemaIn hx hv (among_of_translateTagged h)
    obtain ⟨p, hp, rfl⟩ := hwritten.ref ht hhas
    obtain ⟨r, hr, rfl⟩ := List.mem_map.mp hp
    exact ⟨r, hr, rfl⟩
  · rintro ⟨r, hr, rfl⟩
    exact hv.ref_of_refersTo ((refersTo_iff h).mpr ⟨r, hr, rfl⟩)

end Node

end ApiDoc
