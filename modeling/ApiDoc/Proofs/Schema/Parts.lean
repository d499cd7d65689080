import ApiDoc.Schema.Simple

/-!
# The schemas inside a schema

A schema stands in another at a *schema position*: it is the schema itself, or stands in one of the
schemas under `properties`, `items`, `allOf` or `x-alternatives` (`Schema.Part`). What holds of all
keywords at all these positions is `Schema.Everywhere`.

Setting a keyword keeps what holds everywhere (`everywhere_put`), and so does leaving only what is
simple in a schema (`everywhere_simple`).
-/

namespace ApiDoc

namespace Keyword

/-- The schemas directly under a keyword. -/
def schemas : Keyword → List Schema
  | properties members => members.map (·.2)
  | items s => [s]
  | allOf ss | branches ss => ss
  | _ => []

theorem sizeOf_lt_of_mem_schemas {k : Keyword} {u : Schema} (h : u ∈ k.schemas) :
    sizeOf u < sizeOf k := by
  cases k with
  | properties members =>
    obtain ⟨⟨name, u'⟩, hmem, rfl⟩ := List.mem_map.mp h
    have hlt := List.sizeOf_lt_of_mem hmem
    simp only [Prod.mk.sizeOf_spec, properties.sizeOf_spec] at hlt ⊢
    omega
  | items s =>
    simp only [schemas, List.mem_singleton] at h
    simp [h]
  | allOf ss | branches ss =>
    have hlt := List.sizeOf_lt_of_mem (show u ∈ ss from h)
    simp only [allOf.sizeOf_spec, branches.sizeOf_spec]
    omega
  | _ => simp [schemas] at h

end Keyword

namespace Schema

/-- Induction over the schemas inside a schema. -/
theorem induction {motive : Schema → Prop}
    (h : ∀ s : Schema, (∀ k ∈ s, ∀ u ∈ k.schemas, motive u) → motive s) (s : Schema) : motive s :=
  h s fun k hk u hu =>
    have _hlt : sizeOf u < sizeOf s :=
      Nat.lt_trans (Keyword.sizeOf_lt_of_mem_schemas hu) (List.sizeOf_lt_of_mem hk)
    induction h u
termination_by sizeOf s
decreasing_by exact _hlt

/-- The second schema stands at a schema position of the first one. -/
inductive Part : Schema → Schema → Prop
  | self (s : Schema) : Part s s
  | inside {s u t : Schema} {k : Keyword} : k ∈ s → u ∈ k.schemas → Part u t → Part s t

/-- All keywords at all schema positions have a property. -/
def Everywhere (P : Keyword → Prop) (s : Schema) : Prop := ∀ t, Part s t → ∀ k ∈ t, P k

end Schema

/-- A keyword has a property, and so have all keywords at all schema positions under it. -/
def Keyword.Everywhere (P : Keyword → Prop) (k : Keyword) : Prop :=
  P k ∧ ∀ u ∈ k.schemas, u.Everywhere P

namespace Schema

variable {P : Keyword → Prop} {s : Schema}

theorem everywhere_iff : s.Everywhere P ↔ ∀ k ∈ s, k.Everywhere P := by
  constructor
  · exact fun h k hk => ⟨h s (.self s) k hk, fun u hu t ht => h t (.inside hk hu ht)⟩
  · intro h t ht
    cases ht with
    | self => exact fun k hk => (h k hk).1
    | inside hk hu ht => exact (h _ hk).2 _ hu t ht

theorem everywhere_nil : Everywhere P [] := everywhere_iff.mpr (by simp)

theorem everywhere_singleton {k : Keyword} (h : k.Everywhere P) : Everywhere P [k] :=
  everywhere_iff.mpr (by simpa using h)

theorem everywhere_cons {k : Keyword} (hk : k.Everywhere P) (hs : s.Everywhere P) :
    Everywhere P (k :: s) :=
  everywhere_iff.mpr fun j hj => (List.mem_cons.mp hj).elim (· ▸ hk) (everywhere_iff.mp hs j)

theorem Everywhere.mono {Q : Keyword → Prop} (h : s.Everywhere P) (hPQ : ∀ k, P k → Q k) :
    s.Everywhere Q := fun t ht k hk => hPQ k (h t ht k hk)

/-! ## Setting keywords -/

theorem mem_put {j k : Keyword} (h : j ∈ put s k) : j = k ∨ j ∈ s := by
  induction s with
  | nil => simpa [put] using h
  | cons i s ih =>
    unfold put at h
    split at h
    · exact (List.mem_cons.mp h).imp_right (List.mem_cons_of_mem i)
    · rcases List.mem_cons.mp h with rfl | h
      · exact .inr List.mem_cons_self
      · exact (ih h).imp_right (List.mem_cons_of_mem i)

theorem mem_put_self (s : Schema) (k : Keyword) : k ∈ put s k := by
  induction s with
  | nil => simp [put]
  | cons i s ih =>
    unfold put
    split
    · exact List.mem_cons_self
    · exact List.mem_cons_of_mem i ih

/-- Setting a keyword leaves those of other names. -/
theorem mem_put_of_ne {j k : Keyword} (h : j ∈ s) (hne : j.name ≠ k.name) : j ∈ put s k := by
  induction s with
  | nil => simp at h
  | cons i s ih =>
    unfold put
    split
    · rename_i heq
      rcases List.mem_cons.mp h with rfl | h
      · exact absurd heq hne
      · exact List.mem_cons_of_mem k h
    · rcases List.mem_cons.mp h with rfl | h
      · exact List.mem_cons_self
      · exact List.mem_cons_of_mem i (ih h)

theorem mem_put_iff_of_ne {j k : Keyword} (hne : j.name ≠ k.name) : j ∈ put s k ↔ j ∈ s :=
  ⟨fun h => (mem_put h).resolve_left fun heq => hne (congrArg Keyword.name heq),
    fun h => mem_put_of_ne h hne⟩

/-- Setting a keyword keeps the names, and a new name goes to the end. -/
theorem names_put (s : Schema) (k : Keyword) :
    (put s k).map (·.name) =
      if k.name ∈ s.map (·.name) then s.map (·.name) else s.map (·.name) ++ [k.name] := by
  induction s with
  | nil => simp [put]
  | cons j s ih =>
    unfold put
    by_cases h : j.name = k.name
    · simp [h]
    · simp only [h, if_false, List.map_cons, ih, List.mem_cons, Ne.symm h, false_or]
      split <;> simp

theorem nodup_put {k : Keyword} (h : (s.map (·.name)).Nodup) : ((put s k).map (·.name)).Nodup := by
  rw [names_put]
  split
  · exact h
  · rename_i hnew
    refine List.nodup_append.mpr ⟨h, by simp, fun a ha b hb hab => hnew ?_⟩
    rwa [← List.mem_singleton.mp hb, ← hab]

theorem mem_put? {o : Option Keyword} {k : Keyword} (h : k ∈ put? s o) : k ∈ o ∨ k ∈ s := by
  cases o with
  | none => exact .inr h
  | some j => exact (mem_put h).imp_left (congrArg some ·.symm)

theorem names_subset_put (s : Schema) (k : Keyword) : s.map (·.name) ⊆ (put s k).map (·.name) := by
  rw [names_put]
  split
  · exact List.Subset.refl _
  · exact List.subset_append_left _ _

theorem names_subset_put? (s : Schema) (o : Option Keyword) :
    s.map (·.name) ⊆ (put? s o).map (·.name) := by
  cases o with
  | none => exact List.Subset.refl _
  | some k => exact names_subset_put s k

theorem mem_put?_of_ne {j : Keyword} {o : Option Keyword} (h : j ∈ s)
    (hne : ∀ k ∈ o, j.name ≠ k.name) : j ∈ put? s o := by
  cases o with
  | none => exact h
  | some k => exact mem_put_of_ne h (hne k rfl)

theorem everywhere_put {k : Keyword} (hs : s.Everywhere P) (hk : k.Everywhere P) :
    (put s k).Everywhere P :=
  everywhere_iff.mpr fun j hj => (mem_put hj).elim (· ▸ hk) (everywhere_iff.mp hs j)

/-! ## Simple schemas -/

theorem simpleKeywords_eq (s : Schema) : simpleKeywords s = s.flatMap simpleKeyword := by
  induction s with
  | nil => simp [simpleKeywords]
  | cons k s ih => simp [simpleKeywords, ih]

theorem mem_simpleKeyword {j k : Keyword} (h : j ∈ simpleKeyword k) :
    (j = k ∧ k.isSimple = true) ∨ ∃ u, k = .items u ∧
      j = .items (withoutDescription (withSimpleType (simpleKeywords u))) := by
  unfold simpleKeyword at h
  split at h
  · exact .inr ⟨_, rfl, by simpa using h⟩
  · split at h
    · exact .inl ⟨by simpa using h, by assumption⟩
    · simp at h

theorem everywhere_withSimpleType (hs : s.Everywhere P) (hP : P (.type .string)) :
    (withSimpleType s).Everywhere P := by
  unfold withSimpleType
  split
  · exact hs
  · exact everywhere_put hs ⟨hP, by simp [Keyword.schemas]⟩

theorem everywhere_withoutDescription (hs : s.Everywhere P) :
    (withoutDescription s).Everywhere P :=
  everywhere_iff.mpr fun k hk => everywhere_iff.mp hs k (List.mem_filter.mp hk).1

theorem everywhere_simpleKeywords (hP : P (.type .string)) (hitems : ∀ u, P (.items u))
    (hs : s.Everywhere P) : Everywhere P (simpleKeywords s) := by
  induction s using Schema.induction with
  | h s ih =>
    refine everywhere_iff.mpr fun j hj => ?_
    rw [simpleKeywords_eq] at hj
    obtain ⟨k, hk, hj⟩ := List.mem_flatMap.mp hj
    have hkey := everywhere_iff.mp hs k hk
    obtain ⟨rfl, -⟩ | ⟨u, rfl, rfl⟩ := mem_simpleKeyword hj
    · exact hkey
    · -- The items are made simple in turn.
      have hu : u ∈ (Keyword.items u).schemas := by simp [Keyword.schemas]
      have hsub := everywhere_withSimpleType (ih _ hk u hu (hkey.2 u hu)) hP
      refine ⟨hitems _, ?_⟩
      simpa [Keyword.schemas] using everywhere_withoutDescription hsub

/-- **What is simple in a schema** has everywhere what the schema has everywhere. -/
theorem everywhere_simple (hP : P (.type .string)) (hitems : ∀ u, P (.items u))
    (hs : s.Everywhere P) : s.simple.Everywhere P :=
  everywhere_withSimpleType (everywhere_simpleKeywords hP hitems hs) hP

end Schema

end ApiDoc
