import Mathlib.Data.List.Nodup
import ApiDoc.Proofs.Schema.Positions

/-!
# What is simple in a schema

A parameter or header is a *simple* mapping (`Value.IsSimple`): it has a type, which is a scalar one
or that of lists, items exactly when it is a list, and no keys but those of simple schemas, and its
items are simple again.

Two facts make that of what `Schema.simple` leaves of a translated schema. A keyword that is left
would be left again (`Schema.simpleKeyword_of_mem_simple`), and a schema of the grammar
`Schema.Shape` has items exactly when its type is that of lists.

Main statements: `Schema.simple_simple`, making a schema simple a second time changes nothing, and
`Schema.Shape.isSimple`.
-/

namespace ApiDoc

namespace Schema

variable {s u : Schema} {k : Keyword} {known : List String}

theorem simpleKeyword_items (u : Schema) :
    simpleKeyword (.items u) = [.items (withoutDescription u.simple)] := by
  rw [simpleKeyword, simple]

theorem simpleKeyword_of_ne (h : ∀ u, k ≠ .items u) :
    simpleKeyword k = if k.isSimple then [k] else [] := by
  rw [simpleKeyword]
  exact h

/-! ## Types -/

theorem type?_cons (k : Keyword) (s : Schema) :
    type? (k :: s) = match k with
      | .type t => some t
      | _ => type? s := by
  cases k <;> rfl

theorem type?_cons_of_ne (h : k.name ≠ "type") : type? (k :: s) = type? s := by
  cases k with
  | type t => exact absurd rfl h
  | _ => rfl

theorem type?_put_type (s : Schema) (t : SchemaType) : type? (put s (.type t)) = some t := by
  induction s with
  | nil => rfl
  | cons k s ih =>
    unfold put
    split
    · rfl
    · rename_i hne
      rw [type?_cons_of_ne hne, ih]

theorem type?_withoutDescription (s : Schema) : type? (withoutDescription s) = type? s := by
  induction s with
  | nil => rfl
  | cons k s ih =>
    unfold withoutDescription at ih ⊢
    by_cases hname : k.name = "description"
    · rw [List.filter_cons_of_neg (by simpa using hname), ih, type?_cons_of_ne (by simp [hname])]
    · rw [List.filter_cons_of_pos (by simpa using hname), type?_cons, type?_cons, ih]

theorem type?_simpleKeywords (s : Schema) : type? (simpleKeywords s) = type? s := by
  induction s with
  | nil => simp [simpleKeywords]
  | cons k s ih =>
    rw [simpleKeywords, type?_cons, ← ih]
    cases k with
    | custom name v =>
      rw [simpleKeyword_of_ne (k := .custom name v) (by simp)]
      split <;> rfl
    | _ => simp [simpleKeyword, Keyword.isSimple, type?_cons]

theorem mem_of_type? {t : SchemaType} (h : type? s = some t) : .type t ∈ s := by
  obtain ⟨k, hk, hkt⟩ := List.exists_of_findSome?_eq_some h
  cases k with
  | type u => exact Option.some.inj hkt ▸ hk
  | _ => cases hkt

theorem type?_of_mem (hs : (s.map (·.name)).Nodup) {t : SchemaType} (h : .type t ∈ s) :
    type? s = some t := by
  cases htype : type? s with
  | none =>
    have hnone := List.findSome?_eq_none_iff.mp htype _ h
    cases hnone
  | some u =>
    have heq := List.inj_on_of_nodup_map hs (mem_of_type? htype) h rfl
    rw [Keyword.type.inj heq]

theorem isSimple_type?_simple (s : Schema) : s.simple.type?.any SchemaType.isSimple = true := by
  unfold simple withSimpleType
  split
  · assumption
  · simp [type?_put_type, SchemaType.isSimple]

/-! ## Keywords that are left -/

theorem mem_simple (h : k ∈ s.simple) :
    k = .type .string ∨ ∃ j ∈ s, k ∈ simpleKeyword j := by
  have hkept : k ∈ simpleKeywords s → ∃ j ∈ s, k ∈ simpleKeyword j := by
    rw [simpleKeywords_eq]
    exact List.mem_flatMap.mp
  unfold simple withSimpleType at h
  split at h
  · exact .inr (hkept h)
  · exact (mem_put h).imp_right hkept

theorem of_items_mem_simple {v : Schema} (h : .items v ∈ s.simple) :
    ∃ u, .items u ∈ s ∧ v = withoutDescription (simple u) := by
  rcases mem_simple h with heq | ⟨j, hj, hk⟩
  · cases heq
  · obtain ⟨rfl, -⟩ | ⟨u, rfl, heq⟩ := mem_simpleKeyword hk
    · rw [simpleKeyword_items, List.mem_singleton] at hk
      exact ⟨v, hj, Keyword.items.inj hk⟩
    · exact ⟨u, hj, Keyword.items.inj heq⟩

theorem mem_simple_of_ne {j : Keyword} (hj : j ∈ s) (h : k ∈ simpleKeyword j)
    (hne : k.name ≠ "type") : k ∈ s.simple := by
  have hk : k ∈ simpleKeywords s := by
    rw [simpleKeywords_eq]
    exact List.mem_flatMap.mpr ⟨j, hj, h⟩
  unfold simple withSimpleType
  split
  · exact hk
  · exact mem_put_of_ne hk hne

theorem simple_of_kept (hs : ∀ k ∈ s, simpleKeyword k = [k])
    (htype : s.type?.any SchemaType.isSimple = true) : s.simple = s := by
  have hkeywords : simpleKeywords s = s := by
    rw [simpleKeywords_eq]
    exact (List.flatMap_congr hs).trans (List.flatMap_singleton' s)
  unfold simple withSimpleType
  rw [hkeywords, if_pos htype]

/-- A keyword that is left would be left again. The induction is over the items. -/
theorem simpleKeyword_of_mem_simple (s : Schema) : ∀ k ∈ s.simple, simpleKeyword k = [k] := by
  induction s using Schema.induction with
  | h s ih =>
    intro k hk
    rcases mem_simple hk with rfl | ⟨j, hj, hk⟩
    · simp [simpleKeyword, Keyword.isSimple]
    · -- Only `items` changes when it is kept, and what stands there is simple by induction.
      by_cases hitems : ∃ u, j = .items u
      · obtain ⟨u, rfl⟩ := hitems
        rw [simpleKeyword_items, List.mem_singleton] at hk
        have hkept : ∀ k ∈ withoutDescription (simple u), simpleKeyword k = [k] := fun k hk =>
          ih _ hj u (by simp [Keyword.schemas]) k (List.mem_filter.mp hk).1
        have hsimple : (withoutDescription (simple u)).simple = withoutDescription (simple u) :=
          simple_of_kept hkept (by rw [type?_withoutDescription]; exact isSimple_type?_simple u)
        rw [hk, simpleKeyword_items, hsimple]
        simp [withoutDescription]
      · rw [simpleKeyword_of_ne (not_exists.mp hitems)] at hk
        split at hk
        · rename_i hsimple
          rw [List.mem_singleton.mp hk, simpleKeyword_of_ne (not_exists.mp hitems), if_pos hsimple]
        · simp at hk

/-- **Making a schema simple** a second time changes nothing. -/
theorem simple_simple (s : Schema) : s.simple.simple = s.simple :=
  simple_of_kept (simpleKeyword_of_mem_simple s) (isSimple_type?_simple s)

/-! ## What is left of a translated schema -/

theorem name_of_mem_simple (h : k ∈ s.simple) : k.name ∈ simpleNames ∨ isExtension k.name := by
  have hkept := simpleKeyword_of_mem_simple s k h
  cases k with
  | items | type | pattern | format | description | enum | defaultValue =>
    simp [Keyword.name, simpleNames]
  | bound b n => cases b <;> simp [Keyword.name, Bound.name, simpleNames]
  | branches => exact .inr (show isExtension "x-alternatives" = true by decide)
  | custom name v =>
    refine or_iff_not_imp_left.mpr ?_
    simpa [simpleKeyword, Keyword.isSimple, Keyword.name] using hkept
  | ref | exampleValue | properties | required | additionalProperties | allOf =>
    simp [simpleKeyword, Keyword.isSimple] at hkept

theorem exists_type_simple (s : Schema) : ∃ t : SchemaType, t.isSimple ∧ .type t ∈ s.simple := by
  have hsimple := isSimple_type?_simple s
  cases h : type? s.simple with
  | none => simp [h] at hsimple
  | some t => exact ⟨t, by simpa [h] using hsimple, mem_of_type? h⟩

theorem names_simpleKeyword (k : Keyword) : ((simpleKeyword k).map (·.name)).Sublist [k.name] := by
  by_cases h : ∃ u, k = .items u
  · obtain ⟨u, rfl⟩ := h
    rw [simpleKeyword_items]
    exact List.Sublist.refl _
  · rw [simpleKeyword_of_ne (not_exists.mp h)]
    split <;> simp

theorem names_simpleKeywords (s : Schema) :
    ((simpleKeywords s).map (·.name)).Sublist (s.map (·.name)) := by
  induction s with
  | nil => simp [simpleKeywords]
  | cons k s ih =>
    rw [simpleKeywords, List.map_append]
    exact (names_simpleKeyword k).append ih

namespace Shape

theorem nodup_names_simple (h : s.Shape known) : (s.simple.map (·.name)).Nodup := by
  have hkeywords := h.nodup_names.sublist (names_simpleKeywords s)
  unfold simple withSimpleType
  split
  · exact hkeywords
  · exact nodup_put hkeywords

/-- What is left of a schema has items exactly when its type is that of lists. A type that has to be
replaced is that of objects or none, and then there are no items. -/
theorem items_iff_simple (h : s.Shape known) :
    (∃ u, .items u ∈ s.simple) ↔ .type .array ∈ s.simple := by
  constructor
  · rintro ⟨v, hv⟩
    obtain ⟨u, hu, -⟩ := of_items_mem_simple hv
    have harray : type? (simpleKeywords s) = some .array := by
      rw [type?_simpleKeywords]
      exact type?_of_mem h.nodup_names (h.items_iff.mp ⟨u, hu⟩)
    -- Items come with the type of an array, which is simple and stays.
    have hsimple : s.simple = simpleKeywords s := by
      simp [simple, withSimpleType, harray, SchemaType.isSimple]
    rw [hsimple]
    exact mem_of_type? harray
  · intro harray
    rcases mem_simple harray with heq | ⟨j, hj, hk⟩
    · cases heq
    · obtain ⟨rfl, -⟩ | ⟨u, -, heq⟩ := mem_simpleKeyword hk
      · obtain ⟨u, hu⟩ := h.items_iff.mpr hj
        refine ⟨withoutDescription (simple u), mem_simple_of_ne hu ?_ (by simp [Keyword.name])⟩
        rw [simpleKeyword_items]
        exact List.mem_singleton_self _
      · cases heq

end Shape

end Schema

/-! ## Simple mappings -/

namespace Value

/-- A mapping is simple beside keys of its own: it has no other keys than those of simple schemas
and extensions, each once, and its items are simple. -/
inductive IsSimple : Value → List String → Prop
  | intro {own : List String} {l : Label} {es : Entries}
      (keys : ∀ e ∈ es, ∃ key, e.1 = .str key ∧
        (key ∈ own ∨ key ∈ simpleNames ∨ isExtension key))
      (unique : (es.map (·.1)).Nodup)
      (type : ∃ t ∈ ["string", "number", "integer", "boolean", "array"], (.str "type", .str t) ∈ es)
      (items_iff : (∃ w, (.str "items", w) ∈ es) ↔ (.str "type", .str "array") ∈ es)
      (items : ∀ w, (.str "items", w) ∈ es → IsSimple w [])
      (undescribed : ∀ w, (.str "items", w) ∈ es → ∀ x, ¬ w.Has "description" x) :
      IsSimple (.map l es) own

variable {own : List String} {v : Value} {key : String}

/-- What only other schemas have is not in a simple mapping. -/
theorem IsSimple.not_has (h : v.IsSimple own) (hown : key ∉ own)
    (hkey : key ∈ ["$ref", "properties", "allOf", "additionalProperties", "example"]) (w : Value) :
    ¬ v.Has key w := by
  intro hhas
  cases h with
  | intro keys =>
    obtain ⟨key', heq, hkey'⟩ := keys _ (has_map.mp hhas)
    obtain rfl := str.inj heq
    have hnone : ∀ key ∈ ["$ref", "properties", "allOf", "additionalProperties", "example"],
        ¬ (key ∈ simpleNames ∨ isExtension key) := by decide
    exact hnone key hkey (hkey'.resolve_left hown)

/-- A key of a simple mapping has one value. -/
theorem IsSimple.has_unique (h : v.IsSimple own) {w x : Value} (hw : v.Has key w)
    (hx : v.Has key x) : w = x := by
  cases h with
  | intro _ unique =>
    exact (Prod.mk.inj (List.inj_on_of_nodup_map unique (has_map.mp hw) (has_map.mp hx) rfl)).2

/-- A simple mapping stays simple without its description. -/
theorem IsSimple.sublist {l l' : Label} {es kept : Entries} (h : (map l es).IsSimple own)
    (hsub : kept.Sublist es) (hkept : ∀ e ∈ es, e.1 ≠ .str "description" → e ∈ kept) :
    (map l' kept).IsSimple own := by
  obtain ⟨keys, unique, ⟨t, ht, htype⟩, items_iff, items, undescribed⟩ := h
  have hmem {key : String} {w : Value} (hkey : key ≠ "description") :
      (.str key, w) ∈ kept ↔ (.str key, w) ∈ es :=
    ⟨fun h => hsub.subset h, fun h => hkept _ h (by simpa using hkey)⟩
  refine .intro (fun e he => keys e (hsub.subset he)) (unique.sublist (hsub.map _))
    ⟨t, ht, (hmem (by decide)).mpr htype⟩ ?_ (fun w hw => items w (hsub.subset hw))
    fun w hw => undescribed w (hsub.subset hw)
  simp only [hmem (show "items" ≠ "description" by decide), items_iff,
    hmem (show "type" ≠ "description" by decide)]

end Value

/-! ## Writing what is left -/

theorem SchemaType.name_injective : Function.Injective name := by
  intro t u h
  cases t <;> cases u <;> first | rfl | simp [name] at h

theorem Keyword.eq_type_of_name {k : Keyword} {known : List String} (hk : k.Among known)
    (h : k.name = "type") : ∃ t, k = .type t := by
  cases k with
  | type t => exact ⟨t, rfl⟩
  | custom => exact hk.elim
  | bound b n => cases b <;> simp [name, Bound.name] at h
  | _ => simp [name] at h

namespace Schema

variable {s : Schema} {known : List String}

section Written

variable {flat : Bool} {self at_ : Place} {made : String → Place} {own : List String}
    {pre : Entries}
  {w : Value}

/-- What a written schema has under a key, after entries under keys of its own. -/
theorem mem_written_iff (hpre : pre.map (·.1) = own.map .str) {key : String} (hkey : key ∉ own) :
    (.str key, w) ∈ pre ++ entries flat self at_ made s ↔
      ∃ k ∈ s, k.name = key ∧ w = keywordValue flat self at_ made k := by
  have hnot : (.str key, w) ∉ pre := by
    intro hmem
    have hkeys : .str key ∈ own.map Value.str := hpre ▸ List.mem_map_of_mem hmem
    obtain ⟨key', hown, heq⟩ := List.mem_map.mp hkeys
    exact hkey (Value.str.inj heq ▸ hown)
  simp only [List.mem_append, hnot, false_or, entries_eq, List.mem_map, Prod.mk.injEq,
    Value.str.injEq, eq_comm]

theorem type_mem_written_iff (hpre : pre.map (·.1) = own.map .str) (htype : "type" ∉ own)
    (hs : s.Among known) {t : SchemaType} :
    (.str "type", .str t.name) ∈ pre ++ entries flat self at_ made s ↔ .type t ∈ s := by
  rw [mem_written_iff hpre htype]
  constructor
  · rintro ⟨k, hk, hname, heq⟩
    obtain ⟨u, rfl⟩ := Keyword.eq_type_of_name (everywhere_iff.mp hs k hk).1 hname
    rw [keywordValue] at heq
    exact SchemaType.name_injective (Value.str.inj heq) ▸ hk
  · exact fun h => ⟨_, h, rfl, by rw [keywordValue]⟩

theorem items_mem_written_iff (hpre : pre.map (·.1) = own.map .str) (hitems : "items" ∉ own)
    (hs : s.Among known) :
    (.str "items", w) ∈ pre ++ entries flat self at_ made s ↔
      ∃ u, .items u ∈ s ∧ w = keywordValue flat self at_ made (.items u) := by
  rw [mem_written_iff hpre hitems]
  constructor
  · rintro ⟨k, hk, hname, rfl⟩
    obtain ⟨u, rfl⟩ := (keyword_of_name hs hk).2.2.1 hname
    exact ⟨u, hk, rfl⟩
  · rintro ⟨u, hu, rfl⟩
    exact ⟨_, hu, rfl, rfl⟩

theorem isSimple_withoutDescription {l : Label}
    (h : (Value.map l (entries flat self at_ made s)).IsSimple own) :
    (Value.map l (entries flat self at_ made (withoutDescription s))).IsSimple own := by
  rw [entries_eq] at h ⊢
  refine h.sublist (List.filter_sublist.map _) fun e he hne => ?_
  obtain ⟨k, hk, rfl⟩ := List.mem_map.mp he
  refine List.mem_map.mpr ⟨k, List.mem_filter.mpr ⟨hk, ?_⟩, rfl⟩
  simpa using hne

theorem not_has_withoutDescription {l : Label} :
    ¬ (Value.map l (entries flat self at_ made (withoutDescription s))).Has "description" w := by
  intro h
  rw [Value.has_map, entries_eq] at h
  obtain ⟨k, hk, heq⟩ := List.mem_map.mp h
  have hname : k.name = "description" := Value.str.inj (Prod.mk.inj heq).1
  simpa [hname] using (List.mem_filter.mp hk).2

end Written

/-- **What is left of a translated schema** is written as a simple mapping, after entries under keys
of its own. -/
theorem Shape.isSimple (h : s.Shape known) {own : List String} {pre : Entries}
    (hpre : pre.map (·.1) = own.map .str) (hown : own.Nodup)
    (hnew : ∀ key ∈ own, ¬ (key ∈ simpleNames ∨ isExtension key))
    (l : Label) (flat : Bool) (self at_ : Place) (made : String → Place) :
    (Value.map l (pre ++ entries flat self at_ made s.simple)).IsSimple own := by
  -- The induction is on the depth of `items`: a part stands there, with no keys in front of it.
  induction s using Schema.induction generalizing own pre l flat self at_ made with
  | h s ih =>
    have hamong := among_simple h.among
    have hnames {k : Keyword} (hk : k ∈ s.simple) : k.name ∉ own := fun hmem =>
      hnew _ hmem (name_of_mem_simple hk)
    have htype : "type" ∉ own := fun hmem => hnew _ hmem (.inl (by simp [simpleNames]))
    have hitems : "items" ∉ own := fun hmem => hnew _ hmem (.inl (by simp [simpleNames]))
    refine .intro ?keys ?unique ?type ?items_iff ?items ?undescribed
    case keys =>
      intro e he
      rcases List.mem_append.mp he with he | he
      · have hkey : e.1 ∈ own.map .str := hpre ▸ List.mem_map_of_mem he
        obtain ⟨key, hkey, heq⟩ := List.mem_map.mp hkey
        exact ⟨key, heq.symm, .inl hkey⟩
      · rw [entries_eq] at he
        obtain ⟨k, hk, rfl⟩ := List.mem_map.mp he
        exact ⟨k.name, rfl, .inr (name_of_mem_simple hk)⟩
    case unique =>
      -- The keys in front and the names of keywords have nothing in common.
      have hkeys : (pre ++ entries flat self at_ made s.simple).map (·.1) =
          (own ++ s.simple.map (·.name)).map .str := by
        rw [List.map_append, hpre, entries_eq]
        simp
      rw [hkeys]
      refine List.Nodup.map (fun _ _ => Value.str.inj) (hown.append h.nodup_names_simple ?_)
      intro key hkey hname
      obtain ⟨k, hk, rfl⟩ := List.mem_map.mp hname
      exact hnames hk hkey
    case type =>
      obtain ⟨t, hsimple, ht⟩ := exists_type_simple s
      refine ⟨t.name, ?_, (type_mem_written_iff hpre htype hamong).mpr ht⟩
      cases t <;> simp_all [SchemaType.name, SchemaType.isSimple]
    case items_iff =>
      have harray : (.str "type", .str "array") ∈ pre ++ entries flat self at_ made s.simple ↔
          .type .array ∈ s.simple :=
        type_mem_written_iff hpre htype hamong (t := .array)
      simp only [harray, ← h.items_iff_simple, items_mem_written_iff hpre hitems hamong]
      exact ⟨fun ⟨_, v, hv, _⟩ => ⟨v, hv⟩, fun ⟨v, hv⟩ => ⟨_, v, hv, rfl⟩⟩
    case items =>
      intro w hw
      -- What is written under `items` is a part, to which the hypothesis of the induction applies.
      obtain ⟨v, hv, rfl⟩ := (items_mem_written_iff hpre hitems hamong).mp hw
      obtain ⟨u, hu, rfl⟩ := of_items_mem_simple hv
      have hpart : u ∈ (Keyword.items u).schemas := by simp [Keyword.schemas]
      have hnone : ([] : Entries).map (·.1) = ([] : List String).map .str := rfl
      rw [keywordValue]
      refine isSimple_withoutDescription ?_
      exact ih _ hu u hpart (h.of_mem hu hpart) hnone .nil (by simp) _ _ _ _ _
    case undescribed =>
      intro w hw x
      obtain ⟨v, hv, rfl⟩ := (items_mem_written_iff hpre hitems hamong).mp hw
      obtain ⟨u, hu, rfl⟩ := of_items_mem_simple hv
      rw [keywordValue]
      exact not_has_withoutDescription

end Schema

end ApiDoc
