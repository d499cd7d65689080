import ApiDoc.Document.References
import ApiDoc.Proofs.Schema.Shape

/-!
# Schema positions in values

What stands at a schema position is said here of values alone: from a mapping that is a schema one
gets to the values under `properties`, to `items`, and to the elements of `allOf` and
`x-alternatives` (`Value.SchemaIn`). Nothing else is entered, so data under `default`, `example` and
`enum` is no schema, and no property is one because of its name.

**Written schemas.** `Value.Writes` says that a mapping has the entries of a schema, after those
that only a parameter has. Every schema position of a written schema is a written schema
(`writes_of_schemaIn`).

**The search** for references is stopped by every extension. What it finds in a written schema
stands under `$ref` at a schema position (`schemaIn_of_mem_inValue`); the positions below
`x-alternatives` are those that it misses.
-/

namespace ApiDoc

namespace Value

/-- A mapping has a value under a text key. -/
def Has (v : Value) (key : String) (w : Value) : Prop := ∃ l es, v = .map l es ∧ (.str key, w) ∈ es

/-- A list has an item. -/
def Lists (v w : Value) : Prop := ∃ l vs, v = .list l vs ∧ w ∈ vs

/-- The second value stands at a schema position of the first one, which is a schema. -/
inductive SchemaIn : Value → Value → Prop
  | self (v : Value) : SchemaIn v v
  | property {v members u w : Value} {name : String} :
      v.Has "properties" members → members.Has name u → SchemaIn u w → SchemaIn v w
  | items {v u w : Value} : v.Has "items" u → SchemaIn u w → SchemaIn v w
  | allOf {v schemas u w : Value} :
      v.Has "allOf" schemas → schemas.Lists u → SchemaIn u w → SchemaIn v w
  | alternative {v schemas u w : Value} :
      v.Has "x-alternatives" schemas → schemas.Lists u → SchemaIn u w → SchemaIn v w

theorem has_map {l : Label} {es : Entries} {key : String} {w : Value} :
    (Value.map l es).Has key w ↔ (.str key, w) ∈ es := by
  constructor
  · rintro ⟨l', es', h, hmem⟩
    obtain ⟨-, rfl⟩ := map.inj h
    exact hmem
  · exact fun h => ⟨l, es, rfl, h⟩

theorem has_object {es : List (String × Value)} {key : String} {w : Value} :
    (Value.object es).Has key w ↔ (key, w) ∈ es := by
  rw [object, has_map, List.mem_map]
  constructor
  · rintro ⟨⟨k, v⟩, hmem, heq⟩
    obtain ⟨hk, rfl⟩ := Prod.mk.inj heq
    obtain rfl := str.inj hk
    exact hmem
  · exact fun h => ⟨(key, w), h, rfl⟩

theorem lists_list {l : Label} {vs : List Value} {w : Value} :
    (Value.list l vs).Lists w ↔ w ∈ vs := by
  constructor
  · rintro ⟨l', vs', h, hmem⟩
    obtain ⟨-, rfl⟩ := list.inj h
    exact hmem
  · exact fun h => ⟨l, vs, rfl, h⟩

/-- The entries that a parameter has before those of its schema. -/
def IsParameterPrefix (pre : Entries) : Prop :=
  ∀ e ∈ pre, ∃ key ∈ ["name", "in", "required"], e.1 = .str key ∧ References.inValue false e.2 = []

/-- A mapping has the entries of a schema, after those that only a parameter has. -/
def Writes (v : Value) (s : Schema) : Prop :=
  ∃ l pre flat self at_ made, v = .map l (pre ++ Schema.entries flat self at_ made s) ∧
    IsParameterPrefix pre

end Value

namespace Schema

variable {flat : Bool} {self at_ : Place} {made : String → Place}

/-! ## Written schemas -/

theorem entries_eq (flat : Bool) (self at_ : Place) (made : String → Place) (s : Schema) :
    entries flat self at_ made s =
      s.map fun k => (.str k.name, keywordValue flat self at_ made k) := by
  induction s with
  | nil => rfl
  | cons k s ih =>
    rw [List.map_cons, ← ih]
    rfl

theorem writes_entries (l : Label) (s : Schema) :
    (Value.map l (entries flat self at_ made s)).Writes s :=
  ⟨l, [], flat, self, at_, made, rfl, by simp [Value.IsParameterPrefix]⟩

theorem writes_toValueAt (place : Place) (s : Schema) : (s.toValueAt place).Writes s :=
  writes_entries _ s

theorem writes_flatValueAt (place : Place) (s : Schema) : (s.flatValueAt place).Writes s :=
  writes_entries _ s

theorem mem_memberEntries {place : Place} {members : List (String × Schema)} {e : Value × Value}
    (h : e ∈ memberEntries place members) :
    ∃ m ∈ members, e.1 = .str m.1 ∧ e.2.Writes m.2 := by
  induction members with
  | nil => cases h
  | cons m members ih =>
    obtain ⟨name, s⟩ := m
    rcases List.mem_cons.mp h with rfl | h
    · exact ⟨(name, s), List.mem_cons_self, rfl, writes_entries _ s⟩
    · obtain ⟨m, hm, hwritten⟩ := ih h
      exact ⟨m, List.mem_cons_of_mem _ hm, hwritten⟩

theorem mem_values {place : Nat → Place} {n : Nat} {ss : List Schema} {v : Value}
    (h : v ∈ values place n ss) : ∃ s ∈ ss, v.Writes s := by
  induction ss generalizing n with
  | nil => cases h
  | cons s ss ih =>
    rcases List.mem_cons.mp h with rfl | h
    · exact ⟨s, List.mem_cons_self, writes_entries _ s⟩
    · obtain ⟨u, hu, hwritten⟩ := ih h
      exact ⟨u, List.mem_cons_of_mem s hu, hwritten⟩

/-- Without keywords of other vocabularies, the keywords that hold schemas or a reference are known
by their names. -/
theorem keyword_of_name {s : Schema} {known : List String} (hs : s.Among known) {k : Keyword}
    (hk : k ∈ s) :
    (k.name = "$ref" → ∃ p ∈ known, k = .ref p) ∧
    (k.name = "properties" → ∃ members, k = .properties members) ∧
    (k.name = "items" → ∃ u, k = .items u) ∧
    (k.name = "allOf" ∨ k.name = "x-alternatives" → ∃ ss, k = .allOf ss ∨ k = .branches ss) := by
  have hkey := (everywhere_iff.mp hs k hk).1
  cases k with
  | ref p => exact ⟨fun _ => ⟨p, hkey, rfl⟩, by simp [Keyword.name]⟩
  | custom => exact absurd hkey id
  | bound b n => cases b <;> simp [Keyword.name, Bound.name]
  | _ => simp [Keyword.name]

end Schema

namespace Value

variable {v w : Value} {s : Schema} {known : List String} {key : String}

/-- What a written schema has under a key that is none of a parameter's comes from a keyword. -/
theorem Writes.keyword (h : v.Writes s) (hw : v.Has key w)
    (hkey : key ∉ ["name", "in", "required"]) :
    ∃ k ∈ s, k.name = key ∧ ∃ flat self at_ made, w = Schema.keywordValue flat self at_ made k := by
  obtain ⟨l, pre, flat, self, at_, made, rfl, hpre⟩ := h
  rcases List.mem_append.mp (has_map.mp hw) with hmem | hmem
  · obtain ⟨key', hkey', heq, -⟩ := hpre _ hmem
    obtain rfl := str.inj heq
    exact absurd hkey' hkey
  · rw [Schema.entries_eq, List.mem_map] at hmem
    obtain ⟨k, hk, heq⟩ := hmem
    obtain ⟨hname, rfl⟩ := Prod.mk.inj heq
    exact ⟨k, hk, str.inj hname, flat, self, at_, made, rfl⟩

theorem Writes.ref (h : v.Writes s) (hs : s.Among known) (hw : v.Has "$ref" w) :
    ∃ p ∈ known, w = .str p := by
  obtain ⟨k, hk, hname, flat, self, at_, made, rfl⟩ := h.keyword hw (by simp)
  obtain ⟨p, hp, rfl⟩ := (Schema.keyword_of_name hs hk).1 hname
  exact ⟨p, hp, rfl⟩

theorem Writes.property {members : Value} (h : v.Writes s) (hs : s.Among known)
    (hm : v.Has "properties" members) (hw : members.Has key w) :
    ∃ k ∈ s, ∃ u ∈ k.schemas, w.Writes u := by
  obtain ⟨k, hk, hname, flat, self, at_, made, rfl⟩ := h.keyword hm (by simp)
  obtain ⟨ms, rfl⟩ := (Schema.keyword_of_name hs hk).2.1 hname
  obtain ⟨m, hmem, -, hwritten⟩ := Schema.mem_memberEntries (has_map.mp hw)
  exact ⟨_, hk, m.2, List.mem_map.mpr ⟨m, hmem, rfl⟩, hwritten⟩

theorem Writes.items (h : v.Writes s) (hs : s.Among known) (hw : v.Has "items" w) :
    ∃ k ∈ s, ∃ u ∈ k.schemas, w.Writes u := by
  obtain ⟨k, hk, hname, flat, self, at_, made, rfl⟩ := h.keyword hw (by simp)
  obtain ⟨u, rfl⟩ := (Schema.keyword_of_name hs hk).2.2.1 hname
  exact ⟨_, hk, u, by simp [Keyword.schemas], Schema.writes_entries _ u⟩

theorem Writes.element {schemas : Value} (h : v.Writes s) (hs : s.Among known)
    (hkey : key = "allOf" ∨ key = "x-alternatives") (hv : v.Has key schemas)
    (hw : schemas.Lists w) : ∃ k ∈ s, ∃ u ∈ k.schemas, w.Writes u := by
  obtain ⟨k, hk, hname, flat, self, at_, made, rfl⟩ :=
    h.keyword hv (by rcases hkey with rfl | rfl <;> simp)
  rw [← hname] at hkey
  obtain ⟨ss, rfl | rfl⟩ := (Schema.keyword_of_name hs hk).2.2.2 hkey <;>
  · obtain ⟨u, hu, hwritten⟩ := Schema.mem_values (lists_list.mp hw)
    exact ⟨_, hk, u, hu, hwritten⟩

/-- **Positions of a written schema.** Each of them is a written schema again, whose references are
among the same pointers. -/
theorem writes_of_schemaIn (h : v.SchemaIn w) (hv : v.Writes s) (hs : s.Among known) :
    ∃ t, w.Writes t ∧ t.Among known := by
  have hpart {k : Keyword} {u : Schema} {s : Schema} (hs : s.Among known) (hk : k ∈ s)
      (hu : u ∈ k.schemas) : u.Among known := (Schema.everywhere_iff.mp hs k hk).2 u hu
  induction h generalizing s with
  | self => exact ⟨s, hv, hs⟩
  | property hm hw _ ih =>
    obtain ⟨k, hk, u, hu, hwritten⟩ := hv.property hs hm hw
    exact ih hwritten (hpart hs hk hu)
  | items hw _ ih =>
    obtain ⟨k, hk, u, hu, hwritten⟩ := hv.items hs hw
    exact ih hwritten (hpart hs hk hu)
  | allOf hv' hw _ ih =>
    obtain ⟨k, hk, u, hu, hwritten⟩ := hv.element hs (.inl rfl) hv' hw
    exact ih hwritten (hpart hs hk hu)
  | alternative hv' hw _ ih =>
    obtain ⟨k, hk, u, hu, hwritten⟩ := hv.element hs (.inr rfl) hv' hw
    exact ih hwritten (hpart hs hk hu)

end Value

/-! ## The search for references -/

namespace References

variable {p : String} {es : Entries}

theorem mem_inItems {vs : List Value} : p ∈ inItems vs ↔ ∃ v ∈ vs, p ∈ inValue false v := by
  induction vs with
  | nil => simp [inItems]
  | cons v vs ih => simp [inItems, ih]

/-- In a mapping from names every value is searched. -/
theorem mem_inEntries_names (h : p ∈ inEntries true es) : ∃ e ∈ es, p ∈ inValue false e.2 := by
  induction es with
  | nil => simp [inEntries] at h
  | cons e es ih =>
    obtain ⟨k, v⟩ := e
    unfold inEntries at h
    rcases List.mem_append.mp h with h | h
    · refine ⟨(k, v), List.mem_cons_self, ?_⟩
      split at h <;> simpa using h
    · obtain ⟨e, he, hp⟩ := ih h
      exact ⟨e, List.mem_cons_of_mem _ he, hp⟩

/-- In a mapping of keywords a reference stands under `$ref`, or somewhere under a key that is not
one of data. -/
theorem mem_inEntries_keywords (hkeys : ∀ e ∈ es, ∃ key, e.1 = .str key)
    (h : p ∈ inEntries false es) :
    ∃ key v, (.str key, v) ∈ es ∧ isData key = false ∧
      ((key = "$ref" ∧ v = .str p) ∨ p ∈ inValue (key ∈ nameMaps) v) := by
  induction es with
  | nil => simp [inEntries] at h
  | cons e es ih =>
    obtain ⟨k, v⟩ := e
    unfold inEntries at h
    rcases List.mem_append.mp h with hfirst | hrest
    · obtain ⟨key, rfl⟩ : ∃ key, k = .str key := hkeys (k, v) List.mem_cons_self
      refine ⟨key, v, List.mem_cons_self, ?_⟩
      simp only [Bool.false_eq_true, if_false] at hfirst
      split at hfirst
      · simp at hfirst
      · rename_i hdata
        refine ⟨by simpa using hdata, ?_⟩
        by_cases href : key = "$ref"
        · simp only [href, if_true] at hfirst
          -- A `$ref` that is no text is gone into, like the value of any other keyword.
          cases v with
          | str q => exact .inl ⟨href, by rw [List.mem_singleton.mp hfirst]⟩
          | _ => exact .inr (by simpa [href, nameMaps] using hfirst)
        · simp only [href, if_false] at hfirst
          exact .inr hfirst
    · obtain ⟨key, v, hmem, hfound⟩ := ih (fun e he => hkeys e (List.mem_cons_of_mem _ he)) hrest
      exact ⟨key, v, List.mem_cons_of_mem _ hmem, hfound⟩

theorem inItems_strs (names : List String) : inItems (names.map .str) = [] := by
  induction names with
  | nil => simp [inItems]
  | cons name names ih => simp [inItems, inValue, ih]

end References

namespace Value

open References

theorem Writes.mem_inValue {v : Value} {s : Schema} {p : String} (h : v.Writes s)
    (hp : p ∈ inValue false v) :
    ∃ k ∈ s, ∃ flat self at_ made, v.Has k.name (Schema.keywordValue flat self at_ made k) ∧
      isData k.name = false ∧
      ((k.name = "$ref" ∧ Schema.keywordValue flat self at_ made k = .str p) ∨
        p ∈ inValue (k.name ∈ nameMaps) (Schema.keywordValue flat self at_ made k)) := by
  obtain ⟨l, pre, flat, self, at_, made, rfl, hpre⟩ := h
  rw [inValue] at hp
  have hkeys : ∀ e ∈ pre ++ Schema.entries flat self at_ made s, ∃ key, e.1 = .str key := by
    intro e he
    rcases List.mem_append.mp he with he | he
    · obtain ⟨key, -, hkey, -⟩ := hpre e he
      exact ⟨key, hkey⟩
    · rw [Schema.entries_eq, List.mem_map] at he
      obtain ⟨k, -, rfl⟩ := he
      exact ⟨k.name, rfl⟩
  obtain ⟨key, v, hmem, hdata, hfound⟩ := mem_inEntries_keywords hkeys hp
  rcases List.mem_append.mp hmem with hmem' | hmem'
  · -- What comes before the keywords are texts and truth values.
    obtain ⟨key', hkey', heq, hempty⟩ := hpre _ hmem'
    obtain rfl := str.inj heq
    have hnot : key ≠ "$ref" ∧ key ∉ nameMaps := by
      simp only [List.mem_cons, List.not_mem_nil, or_false] at hkey'
      rcases hkey' with rfl | rfl | rfl <;> simp [nameMaps]
    rcases hfound with ⟨href, -⟩ | hfound
    · exact absurd href hnot.1
    · simp only [hnot.2, decide_false, hempty] at hfound
      simp at hfound
  · rw [Schema.entries_eq, List.mem_map] at hmem'
    obtain ⟨k, hk, heq⟩ := hmem'
    obtain ⟨hname, rfl⟩ := Prod.mk.inj heq
    obtain rfl := str.inj hname
    exact ⟨k, hk, flat, self, at_, made, has_map.mpr hmem, hdata, hfound⟩

/-- **What the search finds** in a written schema stands under `$ref` at a schema position. The
induction is over the schema: the search goes on below `properties`, `items` and `allOf`. -/
theorem schemaIn_of_mem_inValue {v : Value} {s : Schema} {known : List String} {p : String}
    (hv : v.Writes s) (hs : s.Among known) (hp : p ∈ inValue false v) :
    ∃ w, v.SchemaIn w ∧ w.Has "$ref" (.str p) := by
  induction s using Schema.induction generalizing v with
  | h s ih =>
    obtain ⟨k, hk, flat, self, at_, made, hhas, hdata, hfound⟩ := hv.mem_inValue hp
    have hkey := Schema.everywhere_iff.mp hs k hk
    have hnext {u : Schema} {x : Value} (hu : u ∈ k.schemas) (hx : x.Writes u)
        (hp : p ∈ inValue false x) : ∃ w, x.SchemaIn w ∧ w.Has "$ref" (.str p) :=
      ih k hk u hu hx (hkey.2 u hu) hp
    cases k with
    | ref q =>
      -- The reference of this schema itself: in the text of a pointer there is nothing to find.
      rcases hfound with ⟨-, heq⟩ | hfound
      · exact ⟨v, .self v, heq ▸ hhas⟩
      · simp [Schema.keywordValue, inValue] at hfound
    | properties members =>
      have hfound :
          p ∈ inValue true (Schema.keywordValue flat self at_ made (.properties members)) := by
        simpa [Keyword.name, nameMaps] using hfound
      rw [Schema.keywordValue, inValue] at hfound
      obtain ⟨e, he, hp⟩ := mem_inEntries_names hfound
      obtain ⟨m, hm, hname, hwritten⟩ := Schema.mem_memberEntries he
      obtain ⟨w, hw, href⟩ := hnext (List.mem_map.mpr ⟨m, hm, rfl⟩) hwritten hp
      rw [Schema.keywordValue] at hhas
      exact ⟨w, .property hhas (has_map.mpr (by rw [← hname]; exact he)) hw, href⟩
    | items u =>
      have hfound : p ∈ inValue false (Schema.keywordValue flat self at_ made (.items u)) := by
        simpa [Keyword.name, nameMaps] using hfound
      have hwritten : (Schema.keywordValue flat self at_ made (.items u)).Writes u := by
        rw [Schema.keywordValue]
        exact Schema.writes_entries _ u
      obtain ⟨w, hw, href⟩ := hnext (by simp [Keyword.schemas]) hwritten hfound
      exact ⟨w, .items hhas hw, href⟩
    | allOf ss =>
      have hfound : p ∈ inValue false (Schema.keywordValue flat self at_ made (.allOf ss)) := by
        simpa [Keyword.name, nameMaps] using hfound
      rw [Schema.keywordValue, inValue] at hfound
      obtain ⟨x, hx, hp⟩ := mem_inItems.mp hfound
      obtain ⟨u, hu, hwritten⟩ := Schema.mem_values hx
      obtain ⟨w, hw, href⟩ := hnext hu hwritten hp
      rw [Schema.keywordValue] at hhas
      exact ⟨w, .allOf hhas (lists_list.mpr hx) hw, href⟩
    | custom => exact absurd hkey.1 id
    -- Data is not searched, and the other keywords have no references below them.
    | branches | enum | defaultValue | exampleValue =>
      simp [Keyword.name, isData, dataKeywords, isExtension] at hdata
    | required names =>
      simp [Keyword.name, Schema.keywordValue, inValue, inItems_strs] at hfound
    | bound | additionalProperties =>
      simp [Schema.keywordValue, inValue] at hfound
    | type | pattern | format | description =>
      simp [Keyword.name, Schema.keywordValue, inValue] at hfound

end Value

end ApiDoc
