import ApiDoc.Proofs.Schema.Names
import ApiDoc.Proofs.Validation.Written

/-!
# Reading nodes that are written

What is written for a node has its kind under `kind`, so it is never a short form. Its containers
have no labels, and what is written for a part is smaller than what is written for the whole, so all
levels of it are read. By induction over the node each part is read back, and with the parts the
fields are.

Main statement: `Node.read_write`.
-/

namespace ApiDoc

open Checked (valid)

namespace Node

/-! ## Fields -/

/-- The value of a field that holds any value, when it is set. -/
def set? : Value → Option Value
  | .null => none
  | v => some v

/-- What is written for the fields of a node. -/
def fields (n : Node) : List (String × Option Value) :=
  [("kind", some (.str n.kind)), ("description", n.description.map .str),
    ("required", if n.required then some (.bool true) else none), ("min", n.min.map .number),
    ("max", n.max.map .number), ("pattern", n.pattern.map .str), ("enum", n.enum.map .listOf),
    ("format", n.format.map .str), ("default", set? n.defaultValue),
    ("example", set? n.exampleValue), ("items", n.items.map write),
    ("properties", n.properties.map fun parts => .object (mapNamed write parts)),
    ("alternatives", n.alternatives.map fun branches => .listOf (branches.map write)),
    ("additional_properties", n.additionalProperties.map .bool), ("ref", n.ref.map .str)]

/-- The entries that are written for a node. -/
def entries (n : Node) : Entries := (setFields n.fields).map fun (k, v) => (.str k, v)

theorem names_fields (n : Node) :
    n.fields.map (·.1) =
      ["kind", "description", "required", "min", "max", "pattern", "enum", "format", "default",
        "example", "items", "properties", "alternatives", "additional_properties", "ref"] := rfl

theorem nodup_fields (n : Node) : (n.fields.map (·.1)).Nodup := by
  rw [names_fields]
  decide

theorem hasFields_entries (n : Node) : HasFields n.entries n.fields :=
  hasFields_setFields n.nodup_fields

theorem writeNamed_eq (parts : List (String × Node)) : writeNamed parts = mapNamed write parts := by
  induction parts with
  | nil => rfl
  | cons part parts ih => rw [writeNamed, ih, mapNamed_cons]

theorem writeList_eq (branches : List Node) : writeList branches = branches.map write := by
  induction branches with
  | nil => rfl
  | cons m branches ih => rw [writeList, ih, List.map_cons]

theorem anyEntry_eq (name : String) (v : Value) : anyEntry name v = setFields [(name, set? v)] := by
  cases v <;> rfl

theorem write_eq (n : Node) : n.write = .object (setFields n.fields) := by
  obtain ⟨kind, description, required, min, max, pattern, enum, format, defaultValue, exampleValue,
    items, properties, alternatives, additionalProperties, ref⟩ := n
  have hkind : [("kind", Value.str kind)] = setFields [("kind", some (.str kind))] := rfl
  -- Absent and empty fields are left out by the writer, as `setFields` leaves out what is not set.
  have hrequired : (if required then [("required", Value.bool true)] else []) =
      setFields [("required", if required then some (.bool true) else none)] := by
    cases required <;> rfl
  have hitems : writeItems items = setFields [("items", items.map write)] := by cases items <;> rfl
  have hproperties : writeProperties properties =
      setFields [("properties", properties.map fun parts => .object (mapNamed write parts))] := by
    cases properties with
    | none => rfl
    | some parts => rw [writeProperties, writeNamed_eq]; rfl
  have halternatives : writeAlternatives alternatives =
      setFields [("alternatives",
        alternatives.map fun branches => .listOf (branches.map write))] := by
    cases alternatives with
    | none => rfl
    | some branches => rw [writeAlternatives, writeList_eq]; rfl
  rw [write, hkind, hrequired, hitems, hproperties, halternatives]
  simp only [optionalEntry_eq, anyEntry_eq, ← setFields_append]
  rfl

theorem write_ne_null (n : Node) : n.write ≠ .null := by
  rw [write_eq]
  nofun

/-! ## Reading back -/

variable {n : Node}

/-- Every key that is written is the name of a field. -/
theorem noExtras_entries (n : Node) :
    Checked.noExtras (Checked.usedNames n.entries fieldNames) n.entries = valid () := by
  have hfields :
      ∀ name ∈ n.fields.map (·.1), [name] ∈ fieldNames ∨ name = "additional_properties" := by
    rw [names_fields]
    decide
  refine Checked.noExtras_eq_valid fun e he => ?_
  obtain ⟨⟨name, v⟩, hmem, rfl⟩ := List.mem_map.mp he
  have hname : name ∈ (setFields n.fields).map (·.1) := List.mem_map.mpr ⟨_, hmem, rfl⟩
  obtain ⟨w, hw⟩ := Option.isSome_iff_exists.mp (isSome_getNamed?_iff.mpr hname)
  have hget : n.entries.get? name = some w := get?_map_str.trans hw
  refine ⟨name, ?_, rfl⟩
  obtain h | rfl := hfields name (names_setFields hname)
  · exact Checked.mem_usedNames h (by rw [Checked.lookup, hget])
  · -- The other name of this field is not there.
    have hother : n.entries.get? "additionalProperties" = none :=
      n.hasFields_entries "additionalProperties"
    have hnames : ["additionalProperties", "additional_properties"] ∈ fieldNames := by decide
    exact Checked.mem_usedNames hnames (by rw [Checked.lookup, hother, Checked.lookup, hget])

theorem any_set? (v : Value) : (set? v).elim (v = .null) (Checked.any · = valid v) := by
  cases v <;> rfl

/-- The fields of a node are read back, if its parts are. -/
theorem assemble_entries {read : Value → Checked Node} (whole : Value)
    (hitem : ∀ m, n.items = some m → read m.write = valid m)
    (hpart : ∀ parts, n.properties = some parts →
      (parts.map (·.1)).Nodup ∧ ∀ part ∈ parts, read part.2.write = valid part.2)
    (hbranch : ∀ branches, n.alternatives = some branches → ∀ m ∈ branches,
      read m.write = valid m) :
    assemble read n.entries whole = valid n := by
  have hes := n.hasFields_entries
  -- Each field is read back on its own; only those that hold nodes use the hypotheses.
  have hkind : Checked.field n.entries whole ["kind"] Checked.text = valid n.kind :=
    Checked.field_eq_of_get? (hes "kind") rfl
  have hdescription :
      Checked.fieldOr none n.entries ["description"] (Checked.optional Checked.text) =
        valid n.description :=
    Checked.fieldOr_text (hes "description")
  have hrequired : Checked.fieldOr false n.entries ["required"] Checked.bool = valid n.required :=
    Checked.fieldOr_flag (hes "required")
  have hmin : Checked.fieldOr none n.entries ["min"] (Checked.optional Checked.number) =
      valid n.min :=
    Checked.fieldOr_number (hes "min")
  have hmax : Checked.fieldOr none n.entries ["max"] (Checked.optional Checked.number) =
      valid n.max :=
    Checked.fieldOr_number (hes "max")
  have hpattern : Checked.fieldOr none n.entries ["pattern"] (Checked.optional Checked.text) =
      valid n.pattern :=
    Checked.fieldOr_text (hes "pattern")
  have henum :
      Checked.fieldOr none n.entries ["enum"] (Checked.optional (Checked.listOf Checked.any)) =
      valid n.enum := by
    refine Checked.fieldOr_optional (hes "enum") (fun vs _ => ?_) nofun
    have hvalues : Checked.listOf Checked.any (.listOf (vs.map id)) = valid vs :=
      Checked.listOf_map fun _ _ => rfl
    rwa [List.map_id] at hvalues
  have hformat :
      Checked.fieldOr none n.entries ["format"] (Checked.optional Checked.text) = valid n.format :=
    Checked.fieldOr_text (hes "format")
  have hdefault : Checked.fieldOr .null n.entries ["default"] Checked.any = valid n.defaultValue :=
    Checked.fieldOr_eq_of_get? (hes "default") (any_set? n.defaultValue)
  have hexample : Checked.fieldOr .null n.entries ["example"] Checked.any = valid n.exampleValue :=
    Checked.fieldOr_eq_of_get? (hes "example") (any_set? n.exampleValue)
  have hitems : Checked.fieldOr none n.entries ["items"] (Checked.optional read) = valid n.items :=
    Checked.fieldOr_optional (hes "items") hitem write_ne_null
  have hproperties :
      Checked.fieldOr none n.entries ["properties"] (Checked.optional (Checked.mappingOf read)) =
      valid n.properties := by
    refine Checked.fieldOr_optional (hes "properties") (fun parts hparts => ?_) nofun
    obtain ⟨hnames, hread⟩ := hpart parts hparts
    exact Checked.mappingOf_map hnames hread
  have halternatives :
      Checked.fieldOr none n.entries ["alternatives"] (Checked.optional (Checked.listOf read)) =
      valid n.alternatives :=
    Checked.fieldOr_optional (hes "alternatives")
      (fun branches h => Checked.listOf_map (hbranch branches h)) nofun
  -- Of the two names of this field the first is not there.
  have hadditional :
      Checked.fieldOr none n.entries ["additionalProperties", "additional_properties"]
      (Checked.optional Checked.bool) = valid n.additionalProperties := by
    rw [Checked.fieldOr_cons (hes "additionalProperties")]
    exact Checked.fieldOr_bool (hes "additional_properties")
  have href : Checked.fieldOr none n.entries ["ref"] (Checked.optional Checked.text) =
      valid n.ref :=
    Checked.fieldOr_text (hes "ref")
  unfold assemble
  rw [hkind, hdescription, hrequired, hmin, hmax, hpattern, henum, hformat, hdefault, hexample,
    hitems, hproperties, halternatives, hadditional, href, noExtras_entries]
  cases n
  rfl

/-- What is written for a field is smaller than what is written for its node, and so is what is
written for its parts. -/
theorem size_lt_of_field {name : String} {v : Value} (h : (name, some v) ∈ n.fields) :
    v.size < n.write.size := by
  rw [write_eq]
  exact Value.size_lt_object (List.mem_filterMap.mpr ⟨_, h, rfl⟩)

theorem size_lt_of_items {m : Node} (h : n.items = some m) : m.write.size < n.write.size :=
  size_lt_of_field (by simp [fields, h] : ("items", some m.write) ∈ n.fields)

theorem size_lt_of_mem_properties {parts : List (String × Node)} (h : n.properties = some parts)
    {part : String × Node} (hpart : part ∈ parts) : part.2.write.size < n.write.size := by
  have hsize : (Value.object (mapNamed write parts)).size < n.write.size :=
    size_lt_of_field (by simp [fields, h] : ("properties", some _) ∈ n.fields)
  have hsmaller : part.2.write.size < (Value.object (mapNamed write parts)).size :=
    Value.size_lt_object (List.mem_map.mpr ⟨part, hpart, rfl⟩)
  exact Nat.lt_trans hsmaller hsize

theorem size_lt_of_mem_alternatives {branches : List Node} (h : n.alternatives = some branches)
    {m : Node} (hm : m ∈ branches) : m.write.size < n.write.size := by
  have hsize : (Value.listOf (branches.map write)).size < n.write.size :=
    size_lt_of_field (by simp [fields, h] : ("alternatives", some _) ∈ n.fields)
  have hsmaller : m.write.size < (Value.listOf (branches.map write)).size :=
    Value.size_lt_listOf (List.mem_map.mpr ⟨m, hm, rfl⟩)
  exact Nat.lt_trans hsmaller hsize

/-- A node is read back from what is written for it, when as many levels are read as it has
containers. -/
theorem readWithin_write (h : n.Proper) (path : List Label) {fuel : Nat}
    (hfuel : n.write.size ≤ fuel) :
    readWithin fuel path n.write = valid n := by
  induction h generalizing path fuel with
  | @intro n _ names _ _ ihitems ihproperties ihalternatives =>
    obtain _ | fuel := fuel
    · have hpos : (Value.str n.kind).size < n.write.size :=
        size_lt_of_field (by simp [fields] : ("kind", some _) ∈ n.fields)
      omega
    have hentries : n.write.entries? = some n.entries := by
      rw [write_eq]
      rfl
    have hlabel : n.write.label = .none := by
      rw [write_eq]
      rfl
    have hkind : n.entries.has "kind" = true := by
      rw [Entries.has, n.hasFields_entries]
      rfl
    rw [readWithin, if_neg fun h => h.1 hlabel]
    simp only [hentries, hkind, if_true]
    -- Every part has a level less.
    refine assemble_entries n.write (fun m hm => ?_)
      (fun parts hparts => ⟨names parts hparts, fun part hmem => ?_⟩)
      fun branches hbranches m hm => ?_
    · have hsize := size_lt_of_items hm
      exact ihitems m hm _ (by omega)
    · have hsize := size_lt_of_mem_properties hparts hmem
      exact ihproperties parts hparts part hmem _ (by omega)
    · have hsize := size_lt_of_mem_alternatives hbranches hm
      exact ihalternatives branches hbranches m hm _ (by omega)

/-- **Nodes that are written.** A proper node is read back from what is written for it. -/
theorem read_write (h : n.Proper) : read n.write = valid n := readWithin_write h [] (Nat.le_succ _)

theorem stable_read : Checked.IsStable read write := fun v n h => read_write (gives_proper v n h)

/-- The field of a part is read back, if the part is. -/
theorem fieldOr_write {es : Entries} {name : String} {o : Option Node}
    (hget : es.get? name = o.map write) (hread : ∀ m, o = some m → read m.write = valid m) :
    Checked.fieldOr none es [name] (Checked.optional read) = valid o :=
  Checked.fieldOr_optional hget hread write_ne_null

end Node

end ApiDoc
