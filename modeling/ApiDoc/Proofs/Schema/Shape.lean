import ApiDoc.Proofs.Schema.Translation

/-!
# The shapes of translated schemas

`Schema.Shape` is a grammar of all schemas that a translation can make. A schema starts as an empty
one, a reference, a type, a type with items, or one schema under `allOf`; then keywords are added
one after the other that do not decide what the schema is about. What is said of the schemas of the
grammar is proved by induction on how they are made:

- `Schema.Shape.nodup_names`, no keyword is there twice;
- `Schema.Shape.items_iff`, items are there exactly when the type is that of lists;
- `Schema.Shape.among`, references are to some pointers, and no keyword is of another vocabulary.

Main statement: `Node.shape_of_translateTagged`. Every translated schema is one of the grammar, with
references to what the translation has met.
-/

namespace ApiDoc

/-! ## The grammar -/

/-- A keyword that says more about a schema of any shape. -/
def Keyword.IsAddition : Keyword → Prop
  | .ref _ | .type _ | .items _ | .allOf _ | .custom .. => False
  | _ => True

theorem Keyword.IsAddition.name_ne {k : Keyword} (h : k.IsAddition) :
    k.name ≠ "type" ∧ k.name ≠ "items" := by
  cases k with
  | ref | type | items | allOf | custom => exact h.elim
  | bound b n => cases b <;> simp [name, Bound.name]
  | _ => simp [name]

namespace Schema

/-- The schemas that a translation can make, with references to some pointers. -/
inductive Shape (known : List String) : Schema → Prop
  | empty : Shape known []
  | reference {p : String} : p ∈ known → Shape known (reference p)
  | typed {t : SchemaType} : t ≠ .array → Shape known [.type t]
  | array {u : Schema} : Shape known u → Shape known [.type .array, .items u]
  | allOf {u : Schema} : Shape known u → Shape known [.allOf [u]]
  | add {s : Schema} {k : Keyword} : Shape known s → k.IsAddition →
      (∀ u ∈ k.schemas, Shape known u) → Shape known (put s k)

namespace Shape

variable {known more : List String} {s : Schema}

theorem subset (h : s.Shape known) (hsub : known ⊆ more) : s.Shape more := by
  induction h with
  | empty => exact .empty
  | reference hp => exact .reference (hsub hp)
  | typed ht => exact .typed ht
  | array _ ih => exact .array ih
  | allOf _ ih => exact .allOf ih
  | add _ hk _ ih ihs => exact .add ih hk ihs

theorem nodup_names (h : s.Shape known) : (s.map (·.name)).Nodup := by
  induction h with
  | empty => simp
  | reference | typed | allOf => simp [Schema.reference]
  | array => simp [Keyword.name]
  | add _ _ _ ih => exact nodup_put ih

theorem items_iff (h : s.Shape known) : (∃ u, .items u ∈ s) ↔ .type .array ∈ s := by
  induction h with
  | empty | reference | allOf => simp [Schema.reference]
  | typed ht => simpa using ht.symm
  | array => simp
  | @add _ k _ hk _ ih =>
    obtain ⟨htype, hitems⟩ := hk.name_ne
    have harray : (Keyword.type .array).name ≠ k.name := htype.symm
    rw [mem_put_iff_of_ne harray, ← ih]
    exact exists_congr fun u => mem_put_iff_of_ne (j := .items u) hitems.symm

/-- A schema under a keyword is one of the grammar. -/
theorem of_mem (h : s.Shape known) {k : Keyword} {u : Schema} (hk : k ∈ s) (hu : u ∈ k.schemas) :
    u.Shape known := by
  induction h with
  | empty => simp at hk
  | reference | typed =>
    rw [List.mem_singleton.mp hk] at hu
    simp [Keyword.schemas] at hu
  | array hv =>
    rcases List.mem_cons.mp hk with rfl | hk
    · simp [Keyword.schemas] at hu
    · rw [List.mem_singleton.mp hk] at hu
      exact List.mem_singleton.mp hu ▸ hv
  | allOf hv =>
    rw [List.mem_singleton.mp hk] at hu
    exact List.mem_singleton.mp hu ▸ hv
  | add _ _ hparts ih =>
    -- A keyword that is put in replaces one of its name; the others are from before.
    rcases mem_put hk with rfl | hk
    · exact hparts u hu
    · exact ih hk

end Shape

end Schema

/-! ## References -/

/-- A keyword is no reference other than to one of some pointers, and of no other vocabulary. -/
def Keyword.Among (known : List String) : Keyword → Prop
  | .ref p => p ∈ known
  | .custom .. => False
  | _ => True

theorem Keyword.IsAddition.among {k : Keyword} {known : List String} (h : k.IsAddition) :
    k.Among known := by
  cases k with
  | ref | custom => exact h.elim
  | _ => trivial

namespace Schema

/-- All references of a schema are to some pointers, and it has no keyword of another vocabulary. -/
abbrev Among (s : Schema) (known : List String) : Prop := s.Everywhere (Keyword.Among known)

variable {known : List String}

theorem Among.subset {s : Schema} {more : List String} (h : s.Among known) (hsub : known ⊆ more) :
    s.Among more :=
  h.mono fun k hk => by
    cases k with
    | ref p => exact hsub hk
    | custom => exact hk
    | _ => trivial

theorem among_simple {s : Schema} (h : s.Among known) : s.simple.Among known :=
  everywhere_simple trivial (fun _ => trivial) h

theorem Shape.among {s : Schema} (h : s.Shape known) : s.Among known := by
  induction h with
  | empty => exact everywhere_nil
  | reference hp => exact everywhere_singleton ⟨hp, by simp [Keyword.schemas]⟩
  | typed => exact everywhere_singleton ⟨trivial, by simp [Keyword.schemas]⟩
  | array _ ih =>
    refine everywhere_cons ⟨trivial, by simp [Keyword.schemas]⟩ ?_
    exact everywhere_singleton ⟨trivial, by simpa [Keyword.schemas] using ih⟩
  | allOf _ ih => exact everywhere_singleton ⟨trivial, by simpa [Keyword.schemas] using ih⟩
  | add _ hk _ ih ihs => exact everywhere_put ih ⟨hk.among, ihs⟩

/-! ## Adding keywords -/

/-- Adding data that may be absent. -/
theorem Shape.put? {s : Schema} (hs : s.Shape known) {o : Option Keyword}
    (h : ∀ k ∈ o, k.IsAddition ∧ k.schemas = []) : (put? s o).Shape known := by
  cases o with
  | none => exact hs
  | some k => exact hs.add (h k rfl).1 (by simp [(h k rfl).2])

theorem Shape.put?_map {α : Type} {s : Schema} (hs : s.Shape known) {f : α → Keyword} {o : Option α}
    (h : ∀ a, (f a).IsAddition ∧ (f a).schemas = []) : (Schema.put? s (o.map f)).Shape known := by
  refine hs.put? fun k hk => ?_
  obtain ⟨a, -, rfl⟩ := Option.map_eq_some_iff.mp hk
  exact h a

end Schema

/-! ## From the grammar to translations -/

namespace Node

open Schema (Shape)

variable {n : Node} {s : Schema} {known rs : List String}

theorem shape_put?_enum {o : Option Keyword} (h : n.enumKeyword = .ok o) (hs : s.Shape known) :
    (Schema.put? s o).Shape known := by
  refine hs.put? fun k hk => ?_
  unfold enumKeyword at h
  split at h
  · rw [← Except.ok.inj h] at hk
    cases hk
  · cases h
  · rw [← Except.ok.inj h] at hk
    obtain rfl := Option.some.inj hk
    exact ⟨trivial, rfl⟩

theorem shape_stringSchema (h : n.stringSchema = .ok s) : s.Shape known := by
  simp only [stringSchema, bind, Except.bind, pure, Except.pure] at h
  split at h
  · cases h
  split at h
  · cases h
  rename_i henum
  obtain rfl := Except.ok.inj h
  refine shape_put?_enum henum ?_
  refine Shape.put?_map (Shape.put?_map (Shape.put?_map (Shape.put?_map (.typed ?_) ?_) ?_) ?_) ?_
  · decide
  all_goals exact fun _ => ⟨trivial, rfl⟩

theorem shape_numberSchema {type : SchemaType} (ht : type ≠ .array)
    (h : n.numberSchema type = .ok s) : s.Shape known := by
  simp only [numberSchema, bind, Except.bind, pure, Except.pure] at h
  split at h
  · cases h
  rename_i henum
  obtain rfl := Except.ok.inj h
  refine shape_put?_enum henum ?_
  refine Shape.put?_map (Shape.put?_map (Shape.put?_map (.typed ht) ?_) ?_) ?_
  all_goals exact fun _ => ⟨trivial, rfl⟩

theorem shape_leafSchema {kind : Kind} (h : n.leafSchema kind = .ok s) : s.Shape known := by
  cases kind with
  | string => exact shape_stringSchema h
  | number | integer => exact shape_numberSchema (by decide) h
  | boolean =>
    obtain rfl := Except.ok.inj h
    exact .typed (by decide)
  | date =>
    obtain rfl := Except.ok.inj h
    have htype : Shape known [.type .string] := .typed (by decide)
    exact htype.add (k := .format _) trivial (by simp [Keyword.schemas])
  | object | array | alternatives | any =>
    obtain rfl := Except.ok.inj h
    exact .empty

theorem shape_objectSchema {members : List (String × Schema)} (h : ∀ m ∈ members, m.2.Shape known) :
    (n.objectSchema members).Shape known := by
  have htype : Shape known [.type .object] := .typed (by decide)
  have hmembers : (Schema.put? [.type .object]
      (if members.isEmpty then none else some (.properties members))).Shape known := by
    split
    · exact htype
    · refine htype.add trivial fun u hu => ?_
      obtain ⟨m, hm, rfl⟩ := List.mem_map.mp hu
      exact h m hm
  refine Shape.put?_map (hmembers.put? fun k hk => ?_) ?_
  · split at hk
    · cases hk
    · obtain rfl := Option.some.inj hk
      exact ⟨trivial, rfl⟩
  · exact fun _ => ⟨trivial, rfl⟩

theorem shape_arraySchema (h : s.Shape known) : (n.arraySchema s).Shape known := by
  refine Shape.put?_map (Shape.put?_map (.array h) ?_) ?_
  all_goals exact fun _ => ⟨trivial, rfl⟩

theorem shape_branchSchema {first : Schema} {rest : List Schema}
    (h : ∀ u ∈ first :: rest, u.Shape known) : (branchSchema first rest).Shape known := by
  have hfirst := h first List.mem_cons_self
  refine Shape.add ?_ trivial h
  split
  · exact .allOf hfirst
  · exact hfirst

theorem Assembles.shape {us : List Schema} (h : n.Assembles us s) (hus : ∀ u ∈ us, u.Shape known) :
    s.Shape known := by
  cases h with
  | leaf h => exact shape_leafSchema h
  | object => exact shape_objectSchema (List.forall_mem_map.mp hus)
  | array u => exact shape_arraySchema (hus u (List.mem_singleton_self u))
  | branches first rest => exact shape_branchSchema hus

theorem shape_annotate (h : s.Shape known) : (n.annotate s).Shape known := by
  refine Shape.put? (Shape.put? (Shape.put?_map h ?_) fun k hk => ?_) fun k hk => ?_
  · exact fun _ => ⟨trivial, rfl⟩
  all_goals
    split at hk
    · cases hk
    · obtain rfl := Option.some.inj hk
      exact ⟨trivial, rfl⟩

/-- **Translated schemas** are those of the grammar, with references to what was met. -/
theorem shape_of_translateTagged {tagged : Bool}
    (h : translateTagged referenceTo tagged n = ⟨rs, .ok s⟩) : s.Shape (rs.map pointerTo) := by
  refine induction_translateTagged (motive := fun rs s => s.Shape (rs.map pointerTo))
    (fun r => .reference (by simp)) (fun n us body rs hassembles hus _ => ?_) h
  refine shape_annotate (hassembles.shape fun u hu => ?_)
  obtain ⟨ms, hsub, hu⟩ := hus u hu
  exact hu.subset (List.map_subset _ hsub)

/-- **Nothing is referred to without having been met**, whether a tag counts or not. -/
theorem among_of_translateTagged {tagged : Bool}
    (h : translateTagged referenceTo tagged n = ⟨rs, .ok s⟩) : s.Among (rs.map pointerTo) :=
  (shape_of_translateTagged h).among

end Node

end ApiDoc
