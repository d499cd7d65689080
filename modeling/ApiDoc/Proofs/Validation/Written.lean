import ApiDoc.Proofs.Validation.Checked
import ApiDoc.Router.Writer

/-!
# Reading what is written

A model is written as the mapping of its fields that are set (`setFields`), which has under each
name what is written for the field, if anything (`HasFields`). So a field that is set is read from
what is written for it, and a field that is not set gets its default. What remains are lists and
mappings: they are read back when their items are, and a mapping when its names are different.
-/

namespace ApiDoc

/-! ## Fields that are set -/

/-- The entries of the fields that are set, in order. -/
def setFields (fields : List (String × Option Value)) : List (String × Value) :=
  fields.filterMap fun field => field.2.map (field.1, ·)

/-- A mapping has under each name what is written for the field, if anything. -/
def HasFields (es : Entries) (fields : List (String × Option Value)) : Prop :=
  ∀ name, es.get? name = (getNamed? name fields).join

section Fields

variable {α : Type} {fields : List (String × Option Value)} {name : String} {v : Value}

theorem setFields_append (fields fields' : List (String × Option Value)) :
    setFields (fields ++ fields') = setFields fields ++ setFields fields' := List.filterMap_append

theorem optionalEntry_eq (name : String) (write : α → Value) (o : Option α) :
    optionalEntry name write o = setFields [(name, o.map write)] := by cases o <;> rfl

theorem names_setFields (h : name ∈ (setFields fields).map (·.1)) : name ∈ fields.map (·.1) := by
  obtain ⟨⟨name, v⟩, hmem, rfl⟩ := List.mem_map.mp h
  obtain ⟨field, hfield, hset⟩ := List.mem_filterMap.mp hmem
  obtain ⟨w, -, heq⟩ := Option.map_eq_some_iff.mp hset
  exact List.mem_map.mpr ⟨field, hfield, (Prod.mk.inj heq).1⟩

theorem getNamed?_setFields (hfields : (fields.map (·.1)).Nodup) :
    getNamed? name (setFields fields) = (getNamed? name fields).join := by
  induction fields with
  | nil => rfl
  | cons field fields ih =>
    obtain ⟨key, v?⟩ := field
    obtain ⟨hkey, hrest⟩ := List.nodup_cons.mp hfields
    cases v? with
    | none =>
      change getNamed? name (setFields fields) = _
      rw [getNamed?]
      split
      · rename_i heq
        -- The name is not taken by another field, so it is not found behind either.
        exact getNamed?_eq_none_iff.mpr fun h => hkey (heq ▸ names_setFields h)
      · exact ih hrest
    | some v =>
      change getNamed? name ((key, v) :: setFields fields) = _
      rw [getNamed?, getNamed?, ih hrest]
      split <;> rfl

theorem hasFields_setFields (hfields : (fields.map (·.1)).Nodup) :
    HasFields ((setFields fields).map fun (k, v) => (.str k, v)) fields := fun name => by
  rw [get?_map_str, getNamed?_setFields hfields]

/-- What is written for fields is a mapping that has them. -/
theorem exists_hasFields (hfields : (fields.map (·.1)).Nodup) :
    ∃ es, (Value.object (setFields fields)).entries? = some es ∧ HasFields es fields :=
  ⟨_, rfl, hasFields_setFields hfields⟩

/-! Fields with lists, mappings and truth values, which are left out when they are empty or
false. -/

theorem listEntry_eq (name : String) (write : α → Value) (as : List α) :
    listEntry name write as =
      setFields [(name, if as.isEmpty then none else some (.listOf (as.map write)))] := by
  cases as <;> rfl

theorem mapEntry_eq (name : String) (write : α → Value) (m : List (String × α)) :
    mapEntry name write m =
      setFields [(name, if m.isEmpty then none else some (.object (mapNamed write m)))] := by
  cases m <;> rfl

theorem flagEntry_eq (name : String) (b : Bool) :
    flagEntry name b = setFields [(name, if b then some (.bool true) else none)] := by
  cases b <;> rfl

end Fields

/-! ## Reading fields -/

namespace Checked

variable {α : Type} {read : Value → Checked α} {write : α → Value} {es : Entries} {name : String}
  {names : List String}

/-- What is read is read again from what is written for it. -/
def IsStable (read : Value → Checked α) (write : α → Value) : Prop :=
  Gives read fun a => read (write a) = valid a

theorem fieldOr_eq_of_get? {default a : α} {v? : Option Value} (hget : es.get? name = v?)
    (hread : v?.elim (a = default) (read · = valid a)) :
    fieldOr default es [name] read = valid a := by
  unfold fieldOr lookup
  cases v? with
  | none =>
    rw [hget]
    exact congrArg valid (Eq.symm hread)
  | some v =>
    rw [hget]
    exact under_eq_valid.mpr hread

/-- A field that may be absent is read back. -/
theorem fieldOr_optional {o : Option α} (hget : es.get? name = o.map write)
    (hread : ∀ a, o = some a → read (write a) = valid a) (hnull : ∀ a, write a ≠ .null) :
    fieldOr none es [name] (optional read) = valid o := by
  refine fieldOr_eq_of_get? hget ?_
  cases o with
  | none => rfl
  | some a =>
    change optional read (write a) = _
    unfold optional
    split
    · rename_i hwrite
      exact absurd hwrite (hnull a)
    · exact map_eq_valid.mpr ⟨a, hread a rfl, rfl⟩

theorem fieldOr_text {o : Option String} (hget : es.get? name = o.map .str) :
    fieldOr none es [name] (optional text) = valid o := fieldOr_optional hget (fun _ _ => rfl) nofun

theorem fieldOr_number {o : Option Number} (hget : es.get? name = o.map .number) :
    fieldOr none es [name] (optional number) = valid o :=
  fieldOr_optional hget (fun _ _ => rfl) nofun

theorem fieldOr_bool {o : Option Bool} (hget : es.get? name = o.map .bool) :
    fieldOr none es [name] (optional bool) = valid o := fieldOr_optional hget (fun _ _ => rfl) nofun

/-- A truth value that is written when it is true is read back. -/
theorem fieldOr_flag {b : Bool} (hget : es.get? name = if b then some (.bool true) else none) :
    fieldOr false es [name] bool = valid b := fieldOr_eq_of_get? hget (by cases b <;> rfl)

/-- A list or mapping that is written unless it is empty is read back. -/
theorem fieldOr_unlessEmpty {as : List α} {v : Value} {read : Value → Checked (List α)}
    (hget : es.get? name = if as.isEmpty then none else some v) (hread : read v = valid as) :
    fieldOr [] es [name] read = valid as := by
  refine fieldOr_eq_of_get? hget ?_
  cases as with
  | nil => rfl
  | cons a as => exact hread

theorem field_eq_of_get? {whole v : Value} {a : α} (hget : es.get? name = some v)
    (hread : read v = valid a) :
    field es whole [name] read = valid a := by
  unfold field lookup
  rw [hget]
  exact under_eq_valid.mpr hread

/-- A name that is not there is passed over. -/
theorem fieldOr_cons {default : α} (hget : es.get? name = none) :
    fieldOr default es (name :: names) read = fieldOr default es names read := by
  unfold fieldOr
  rw [lookup, hget]

/-! ## Lists and mappings -/

theorem itemsFrom_map {as : List α} (h : ∀ a ∈ as, read (write a) = valid a) (n : Nat) :
    itemsFrom read n (as.map write) = valid as := by
  induction as generalizing n with
  | nil => rfl
  | cons a as ih =>
    obtain ⟨ha, has⟩ := List.forall_mem_cons.mp h
    rw [List.map_cons, itemsFrom, ha, ih has]
    rfl

theorem listOf_map {as : List α} (h : ∀ a ∈ as, read (write a) = valid a) :
    listOf read (.listOf (as.map write)) = valid as := itemsFrom_map h 0

theorem namedEntries_map {m : List (String × α)} (h : ∀ e ∈ m, read (write e.2) = valid e.2) :
    namedEntries read (m.map fun e => (.str e.1, write e.2)) = valid m := by
  induction m with
  | nil => rfl
  | cons e m ih =>
    obtain ⟨he, hm⟩ := List.forall_mem_cons.mp h
    rw [List.map_cons, namedEntries, he, ih hm]
    rfl

theorem mappingOf_map {m : List (String × α)} (hm : (m.map (·.1)).Nodup)
    (h : ∀ e ∈ m, read (write e.2) = valid e.2) :
    mappingOf read (.object (mapNamed write m)) = valid m := by
  have hentries : (Value.object (mapNamed write m)).entries? =
      some (m.map fun e => (.str e.1, write e.2)) := congrArg some List.map_map
  rw [mappingOf, hentries]
  dsimp only
  rw [namedEntries_map h]
  exact congrArg valid (foldl_putNamed_nil hm)

/-! ## Keys of models -/

theorem mem_usedNames {fields : List (List String)} {v : Value} (hnames : names ∈ fields)
    (hlookup : lookup es names = some (name, v)) : name ∈ usedNames es fields :=
  List.mem_filterMap.mpr ⟨names, hnames, by rw [hlookup]; rfl⟩

theorem noExtras_eq_valid {used : List String} (h : ∀ e ∈ es, ∃ name ∈ used, e.1 = .str name) :
    noExtras used es = valid () := by
  induction es with
  | nil => rfl
  | cons e es ih =>
    obtain ⟨k, v⟩ := e
    obtain ⟨⟨name, hname, rfl⟩, hes⟩ := List.forall_mem_cons.mp h
    rw [noExtras, if_pos hname, ih hes]

end Checked

/-! ## Sizes -/

namespace Value

theorem size_le_sizeEntries {es : Entries} {e : Value × Value} (h : e ∈ es) :
    e.2.size ≤ size.sizeEntries es := by
  induction es with
  | nil => cases h
  | cons d es ih =>
    rw [size.sizeEntries]
    obtain rfl | h := List.mem_cons.mp h
    · exact Nat.le_add_right _ _
    · exact Nat.le_add_left_of_le (ih h)

theorem size_le_sizeItems {vs : List Value} {v : Value} (h : v ∈ vs) :
    v.size ≤ size.sizeItems vs := by
  induction vs with
  | nil => cases h
  | cons w vs ih =>
    rw [size.sizeItems]
    obtain rfl | h := List.mem_cons.mp h
    · exact Nat.le_add_right _ _
    · exact Nat.le_add_left_of_le (ih h)

/-- What is under a name is smaller than the mapping. -/
theorem size_lt_object {fields : List (String × Value)} {name : String} {v : Value}
    (h : (name, v) ∈ fields) :
    v.size < (object fields).size := by
  have hmem : (.str name, v) ∈ fields.map fun (k, v) => (Value.str k, v) :=
    List.mem_map.mpr ⟨_, h, rfl⟩
  rw [object, size, Nat.add_comm]
  exact Nat.lt_succ_of_le (size_le_sizeEntries hmem)

/-- An item is smaller than the list. -/
theorem size_lt_listOf {vs : List Value} {v : Value} (h : v ∈ vs) : v.size < (listOf vs).size := by
  rw [size, Nat.add_comm]
  exact Nat.lt_succ_of_le (size_le_sizeItems h)

end Value

end ApiDoc
