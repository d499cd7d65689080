import ApiDoc.Proofs.Schema.Names
import ApiDoc.Proofs.Schema.Referenced
import ApiDoc.Proofs.Schema.Shape
import ApiDoc.Proofs.Schema.Visits

/-!
# Rules of translated schemas

A translated schema keeps a set of local rules at every schema position (`Node.Renders`). What
stands at a position is itself the translation of a node inside the translated one
(`Node.exists_within`), so it is enough to look at one translation at a time.

**Sources.** The keywords of a schema are those of one node, its source: alternatives take over what
the first branch has, that branch may be alternatives again, and so on. A tag ends this, since a
reference is put under `allOf` and not taken over. All that is set on the way are the branches, a
description, a default and an example (`Node.overlaid`). So a rule about any other keyword has to be
shown only for what a node gives to its schema itself (`Node.Owns`). The induction over the first
branches is done once, in `Node.isSource_of_inline`.

**Names.** The parts of a node are a mapping, so their names are different (`Node.Distinct`). Every
node that is read is like this (`Node.gives_distinct`).

Main statement: `Node.renders_of_part`.
-/

namespace ApiDoc

/-- The bound on the other side, for a lower one. -/
def Bound.upper? : Bound → Option Bound
  | minLength => some maxLength
  | minimum => some maximum
  | minItems => some maxItems
  | maxLength | maximum | maxItems => none

theorem Bound.upper?_eq_some {b c : Bound} (h : b.upper? = some c) :
    b.upper? ≠ none ∧ c.upper? = none := by
  refine ⟨by simp [h], ?_⟩
  cases b with
  | minLength | minimum | minItems =>
    obtain rfl := Option.some.inj h
    rfl
  | maxLength | maximum | maxItems => cases h

namespace Node

variable {n m first : Node} {rest : List Node} {rs : List String} {s t u : Schema}

def Translates (n : Node) (s : Schema) : Prop := ∃ refs, n.translate referenceTo = ⟨refs, .ok s⟩

/-! ## Nodes inside a node -/

/-- The second node stands in the first one: it is that node, or it stands in a part that the kind
of that node uses. -/
inductive Within : Node → Node → Prop
  | self (n : Node) : Within n n
  | inside {n p m : Node} : p ∈ n.usedParts → Within p m → Within n m

theorem Within.trans {p : Node} (h : n.Within m) (h' : m.Within p) : n.Within p := by
  induction h with
  | self => exact h'
  | inside hpart _ ih => exact .inside hpart (ih h')

/-- The node whose own keywords the schema of a node has. For alternatives it is that of the first
branch, unless a tag stands for the branch. -/
def source (n : Node) : Node :=
  match _h : n.alternatives with
  | some (first :: _) =>
    if n.kind = Kind.alternatives.name ∧ first.tag? = none then first.source else n
  | _ => n
termination_by sizeOf n
decreasing_by exact sizeOf_lt_of_mem_alternatives _h List.mem_cons_self

theorem source_of_kind (h : n.kind ≠ Kind.alternatives.name) : n.source = n := by
  rw [source]
  split
  · rw [if_neg fun hkind => h hkind.1]
  · rfl

theorem source_of_alternatives (hkind : n.kind = Kind.alternatives.name)
    (h : n.alternatives = some (first :: rest)) :
    n.source = if first.tag? = none then first.source else n := by
  rw [source]
  split
  · rename_i first' rest' h'
    obtain ⟨rfl, rfl⟩ := List.cons.inj (Option.some.inj (h.symm.trans h'))
    simp only [hkind, true_and]
  · rename_i hno
    exact absurd h (hno first rest)

theorem source_cases (n : Node) :
    n.source = n ∨ ∃ first rest, n.kind = Kind.alternatives.name ∧
      n.alternatives = some (first :: rest) ∧ n.source = first.source := by
  rw [source]
  split
  · rename_i first rest halternatives
    split
    · rename_i hcond
      exact .inr ⟨first, rest, hcond.1, halternatives, rfl⟩
    · exact .inl rfl
  · exact .inl rfl

theorem within_source (n : Node) : n.Within n.source := by
  induction n using induction_usedParts with
  | h n ih =>
    obtain hself | ⟨first, rest, hkind, halternatives, hfirst⟩ := n.source_cases
    · rw [hself]
      exact .self n
    · have hpart : first ∈ n.usedParts := by
        rw [usedParts_of_kind hkind, halternatives]
        exact List.mem_cons_self
      rw [hfirst]
      exact .inside hpart (ih first hpart)

/-! ## What a node gives to its schema -/

/-- The keywords that a node itself can give to its schema. -/
inductive Owns (n : Node) : Keyword → Prop
  | type (t : SchemaType) : Owns n (.type t)
  | lower {b : Bound} {a : Number} : b.upper?.isSome → a ∈ n.min → Owns n (.bound b a)
  | upper {b : Bound} {a : Number} : b.upper? = none → a ∈ n.max → Owns n (.bound b a)
  | pattern (p : String) : Owns n (.pattern p)
  | format (f : String) : Owns n (.format f)
  | enum {values : List Value} : values ≠ [] → Owns n (.enum values)
  | properties {members : List (String × Schema)} : n.kind = Kind.object.name → members ≠ [] →
      List.Forall₂ (fun part member => member.1 = part.1 ∧ part.2.Translates member.2)
        (n.properties.getD []) members → Owns n (.properties members)
  | required : n.kind = Kind.object.name → requiredNames (n.properties.getD []) ≠ [] →
      Owns n (.required (requiredNames (n.properties.getD [])))
  | additionalProperties (allowed : Bool) : Owns n (.additionalProperties allowed)
  | items {m : Node} {u : Schema} : n.kind = Kind.array.name → n.items = some m → m.Translates u →
      Owns n (.items u)
  | allOf {first : Node} {rest : List Node} {u : Schema} : n.kind = Kind.alternatives.name →
      n.alternatives = some (first :: rest) → first.Translates u → Owns n (.allOf [u])

theorem Owns.name_ne {k : Keyword} (h : n.Owns k) : k.name ≠ "$ref" := by
  cases h with
  | lower | upper =>
    rename_i b _ _ _
    cases b <;> simp [Keyword.name, Bound.name]
  | _ => simp [Keyword.name]

theorem owns_put? {o : Option Keyword} (hs : ∀ k ∈ s, n.Owns k) (h : ∀ k ∈ o, n.Owns k) :
    ∀ k ∈ Schema.put? s o, n.Owns k := by
  cases o with
  | none => exact hs
  | some j =>
    intro k hk
    obtain rfl | hk := Schema.mem_put hk
    · exact h k rfl
    · exact hs k hk

theorem owns_put?_map {α : Type} {f : α → Keyword} {o : Option α} (hs : ∀ k ∈ s, n.Owns k)
    (h : ∀ a ∈ o, n.Owns (f a)) : ∀ k ∈ Schema.put? s (o.map f), n.Owns k := by
  refine owns_put? hs fun k hk => ?_
  obtain ⟨a, ha, rfl⟩ := Option.map_eq_some_iff.mp hk
  exact h a ha

theorem owns_enumKeyword {o : Option Keyword} (h : n.enumKeyword = .ok o) : ∀ k ∈ o, n.Owns k := by
  intro k hk
  unfold enumKeyword at h
  split at h
  · rw [← Except.ok.inj h] at hk
    cases hk
  · cases h
  · rename_i values hne _
    rw [← Except.ok.inj h] at hk
    obtain rfl := Option.some.inj hk
    exact .enum fun hnil => hne hnil

theorem owns_type (n : Node) (t : SchemaType) : ∀ k ∈ [Keyword.type t], n.Owns k :=
  List.forall_mem_singleton.mpr (.type t)

theorem owns_stringSchema (h : n.stringSchema = .ok s) : ∀ k ∈ s, n.Owns k := by
  simp only [stringSchema, bind, Except.bind, pure, Except.pure] at h
  split at h
  · cases h
  split at h
  · cases h
  rename_i henum
  obtain rfl := Except.ok.inj h
  refine owns_put? ?_ (owns_enumKeyword henum)
  refine owns_put?_map (owns_put?_map (owns_put?_map (owns_put?_map (owns_type n _) ?_) ?_) ?_) ?_
  · exact fun a => .lower rfl
  · exact fun a => .upper rfl
  · exact fun p _ => .pattern p
  · exact fun f _ => .format f

theorem owns_numberSchema {type : SchemaType} (h : n.numberSchema type = .ok s) :
    ∀ k ∈ s, n.Owns k := by
  simp only [numberSchema, bind, Except.bind, pure, Except.pure] at h
  split at h
  · cases h
  rename_i henum
  obtain rfl := Except.ok.inj h
  refine owns_put? ?_ (owns_enumKeyword henum)
  refine owns_put?_map (owns_put?_map (owns_put?_map (owns_type n _) ?_) ?_) ?_
  · exact fun f _ => .format f
  · exact fun a => .lower rfl
  · exact fun a => .upper rfl

theorem owns_leafSchema {kind : Kind} (h : n.leafSchema kind = .ok s) : ∀ k ∈ s, n.Owns k := by
  cases kind with
  | string => exact owns_stringSchema h
  | number | integer => exact owns_numberSchema h
  | boolean =>
    obtain rfl := Except.ok.inj h
    exact owns_type n _
  | date =>
    obtain rfl := Except.ok.inj h
    exact List.forall_mem_cons.mpr ⟨.type _, List.forall_mem_singleton.mpr (.format _)⟩
  | object | array | alternatives | any =>
    obtain rfl := Except.ok.inj h
    exact nofun

theorem owns_objectSchema {members : List (String × Schema)} (hkind : n.kind = Kind.object.name)
    (h : List.Forall₂ (fun part member => member.1 = part.1 ∧ part.2.Translates member.2)
      (n.properties.getD []) members) : ∀ k ∈ n.objectSchema members, n.Owns k := by
  refine owns_put?_map (owns_put? (owns_put? (owns_type n _) fun k hk => ?_) fun k hk => ?_) ?_
  · split at hk
    · cases hk
    · rename_i hne
      obtain rfl := Option.some.inj hk
      exact .properties hkind (by simpa using hne) h
  · split at hk
    · cases hk
    · rename_i hne
      obtain rfl := Option.some.inj hk
      exact .required hkind (by simpa using hne)
  · exact fun b _ => .additionalProperties b

theorem owns_arraySchema (hkind : n.kind = Kind.array.name) (hitems : n.items = some m)
    (h : m.Translates u) : ∀ k ∈ n.arraySchema u, n.Owns k := by
  refine owns_put?_map (owns_put?_map ?_ ?_) ?_
  · exact List.forall_mem_cons.mpr ⟨.type _, List.forall_mem_singleton.mpr (.items hkind hitems h)⟩
  · exact fun a => .lower rfl
  · exact fun a => .upper rfl

theorem name_of_kind? {kind : Kind} (h : n.kind? = .ok kind) : n.kind = kind.name := by
  unfold kind? at h
  split at h
  · rename_i hname
    rw [← Except.ok.inj h]
    exact Kind.ofName?_eq_some_iff.mp hname
  · cases h

/-- Each node of a list is translated, in order. -/
theorem forall₂_of_translateList {ns : List Node} {us : List Schema}
    (h : translateList referenceTo ns = ⟨rs, .ok us⟩) : List.Forall₂ Translates ns us := by
  induction ns generalizing rs us with
  | nil =>
    obtain ⟨-, rfl⟩ := Traced.pure_ok_iff.mp (by simpa only [translateList] using h)
    exact .nil
  | cons n ns ih =>
    rw [translateList] at h
    obtain ⟨ns₁, v, rs₂, hv, htail, rfl⟩ := Traced.bind_ok_iff.mp h
    obtain ⟨vs, hvs, rfl⟩ := Traced.map_ok_iff.mp htail
    exact .cons ⟨ns₁, hv⟩ (ih hvs)

/-- Each part of an object is translated under its name. -/
theorem forall₂_of_translateMembers {members : List (String × Schema)}
    (h : translateMembers referenceTo n.properties = ⟨rs, .ok members⟩) :
    List.Forall₂ (fun part member => member.1 = part.1 ∧ part.2.Translates member.2)
      (n.properties.getD []) members := by
  cases hparts : n.properties with
  | none =>
    rw [hparts, translateMembers] at h
    obtain ⟨-, rfl⟩ := Traced.pure_ok_iff.mp h
    exact .nil
  | some parts =>
    rw [hparts, translateMembers] at h
    clear hparts
    rw [Option.getD_some]
    -- Members are translated in order, and one that fails ends the translation.
    induction parts generalizing rs members with
    | nil =>
      obtain ⟨-, rfl⟩ := Traced.pure_ok_iff.mp (by simpa only [translateNamed] using h)
      exact .nil
    | cons part parts ih =>
      rw [translateNamed] at h
      obtain ⟨rs₁, u, rs₂, hu, htail, rfl⟩ := Traced.bind_ok_iff.mp h
      obtain ⟨ms, hms, rfl⟩ := Traced.map_ok_iff.mp htail
      exact .cons ⟨rfl, rs₁, hu⟩ (ih hms)

/-- What the branches of alternatives are translated to. -/
theorem forall₂_of_translateBranches
    (h : translateBranches referenceTo n.alternatives = ⟨rs, .ok s⟩) :
    ∃ first rest u us, n.alternatives = some (first :: rest) ∧ first.Translates u ∧
      List.Forall₂ Translates rest us ∧ s = branchSchema u us := by
  match halternatives : n.alternatives with
  | none | some [] =>
    rw [halternatives, translateBranches] at h
    simp [Traced.fail] at h
  | some (first :: rest) =>
    rw [halternatives, translateBranches] at h
    obtain ⟨rs₁, u, rs₂, hu, htail, rfl⟩ := Traced.bind_ok_iff.mp h
    obtain ⟨us, hus, rfl⟩ := Traced.map_ok_iff.mp htail
    exact ⟨first, rest, u, us, rfl, ⟨rs₁, hu⟩, forall₂_of_translateList hus, rfl⟩

/-- Without branches, a node owns all that its schema has before anything is added. -/
theorem owns_of_translateKind {kind : Kind} (hkind : n.kind = kind.name)
    (hne : kind ≠ .alternatives) (h : translateKind referenceTo n kind = ⟨rs, .ok s⟩) :
    ∀ k ∈ s, n.Owns k := by
  cases kind with
  | object =>
    obtain ⟨members, hmembers, rfl⟩ := Traced.map_ok_iff.mp h
    exact owns_objectSchema hkind (forall₂_of_translateMembers hmembers)
  | array =>
    obtain ⟨u, hu, rfl⟩ := Traced.map_ok_iff.mp h
    cases hitems : n.items with
    | none =>
      rw [hitems, translateItems] at hu
      simp [Traced.fail] at hu
    | some m =>
      rw [hitems, translateItems] at hu
      exact owns_arraySchema hkind hitems ⟨_, hu⟩
  | alternatives => exact absurd rfl hne
  | string | number | integer | boolean | date | any =>
    exact owns_leafSchema (Traced.lift_ok_iff.mp h).2

/-! ## What a schema takes over -/

/-- The names of the keywords that are set on top of what a schema has. -/
def overlaid : List String := ["x-alternatives", "description", "default", "example"]

theorem name_bound_notMem_overlaid (b : Bound) {a : Number} :
    (Keyword.bound b a).name ∉ overlaid := by
  cases b <;> simp [overlaid, Keyword.name, Bound.name]

theorem mem_of_mem_annotate {k : Keyword} (h : k ∈ n.annotate s) :
    k ∈ s ∨ k.name ∈ ["description", "default", "example"] := by
  obtain hsample | h := Schema.mem_put? h
  · split at hsample
    · cases hsample
    · obtain rfl := Option.some.inj hsample
      exact .inr (by simp [Keyword.name])
  obtain hdefault | h := Schema.mem_put? h
  · split at hdefault
    · cases hdefault
    · obtain rfl := Option.some.inj hdefault
      exact .inr (by simp [Keyword.name])
  obtain hdescription | h := Schema.mem_put? h
  · obtain ⟨d, -, rfl⟩ := Option.map_eq_some_iff.mp hdescription
    exact .inr (by simp [Keyword.name])
  · exact .inl h

theorem mem_of_notMem_overlaid {k : Keyword} (hk : k ∈ n.annotate s) (hover : k.name ∉ overlaid) :
    k ∈ s ∧ k.name ≠ "x-alternatives" := by
  simp only [overlaid, List.mem_cons, not_or] at hover
  refine ⟨(mem_of_mem_annotate hk).resolve_right ?_, hover.1⟩
  simpa using hover.2

theorem names_subset_annotate (n : Node) (s : Schema) :
    s.map (·.name) ⊆ (n.annotate s).map (·.name) :=
  List.Subset.trans (Schema.names_subset_put? s _) <|
    List.Subset.trans (Schema.names_subset_put? _ _) (Schema.names_subset_put? _ _)

/-- Alternatives have what their first branch has, but for what is set on top of it. -/
theorem mem_branchSchema_iff {k : Keyword} {us : List Schema} (hu : u.isReference = false)
    (hk : k.name ≠ "x-alternatives") : k ∈ branchSchema u us ↔ k ∈ u := by
  rw [branchSchema, hu]
  exact Schema.mem_put_iff_of_ne hk

/-- What the translation of a node itself comes from: a source with its bounds in order, which owns
all keywords that are not set on top. -/
structure IsSource (n : Node) (s : Schema) : Prop where
  bounds : ∀ a ∈ n.min, ∀ b ∈ n.max, ∀ v ∈ a.value?, ∀ w ∈ b.value?, v ≤ w
  owned : ∀ k ∈ s, k.name ∉ overlaid → n.Owns k

theorem IsSource.isReference (h : n.IsSource s) : s.isReference = false := by
  rw [Schema.isReference, List.any_eq_false]
  intro k hk href
  have hname : k.name = "$ref" := by simpa [Keyword.isRef] using href
  exact (h.owned k hk (by simp [hname, overlaid])).name_ne hname

theorem bounds_of_checkBounds (h : n.checkBounds = .ok ()) :
    ∀ a ∈ n.min, ∀ b ∈ n.max, ∀ v ∈ a.value?, ∀ w ∈ b.value?, v ≤ w := by
  rw [← boundsFault?_eq_none_iff]
  rw [checkBounds_eq] at h
  cases hfault : n.boundsFault? with
  | none => rfl
  | some e =>
    rw [hfault] at h
    cases h

/-- **The source of a translation** owns its keywords. -/
theorem isSource_of_inline (h : n.inline referenceTo = ⟨rs, .ok s⟩) : n.source.IsSource s := by
  induction n using induction_usedParts generalizing rs s with
  | h n ih =>
    obtain ⟨kind, body, hkind, hbounds, hbody, rfl⟩ := inline_ok_iff.mp h
    have hname := name_of_kind? hkind
    by_cases hne : kind = .alternatives
    · subst hne
      obtain ⟨first, rest, u, us, halternatives, ⟨refs, hu⟩, hus, rfl⟩ :=
        forall₂_of_translateBranches hbody
      rw [source_of_alternatives hname halternatives]
      rw [translate_eq] at hu
      cases htag : first.tag? with
      | none =>
        -- The keywords of the first branch come from its own source.
        rw [htag] at hu
        rw [if_pos rfl]
        have hpart : first ∈ n.usedParts := by
          rw [usedParts_of_kind hname, halternatives]
          exact List.mem_cons_self
        have hfirst := ih first hpart hu
        refine ⟨hfirst.bounds, fun k hk hover => ?_⟩
        obtain ⟨hk, halt⟩ := mem_of_notMem_overlaid hk hover
        exact hfirst.owned k ((mem_branchSchema_iff hfirst.isReference halt).mp hk) hover
      | some r =>
        -- The first branch is a reference, which stands under `allOf`.
        rw [htag] at hu
        obtain ⟨-, rfl⟩ : [r] = refs ∧ referenceTo r = u := by simpa [Traced.met] using hu
        rw [if_neg (by simp)]
        refine ⟨bounds_of_checkBounds hbounds, fun k hk hover => ?_⟩
        obtain ⟨hk, halt⟩ := mem_of_notMem_overlaid hk hover
        obtain rfl := List.mem_singleton.mp ((Schema.mem_put_iff_of_ne halt).mp hk)
        refine .allOf hname halternatives ⟨refs, ?_⟩
        rw [translate_eq, htag]
        exact hu
    · rw [source_of_kind (by rw [hname]; exact fun heq => hne (Kind.name_injective heq))]
      exact ⟨bounds_of_checkBounds hbounds, fun k hk hover =>
        owns_of_translateKind hname hne hbody k (mem_of_notMem_overlaid hk hover).1⟩

/-- Branches are those of the node itself: a node without branches takes over none. -/
theorem branches_of_inline {us : List Schema} (h : n.inline referenceTo = ⟨rs, .ok s⟩)
    (hus : .branches us ∈ s) : ∃ first rest u vs, n.kind = Kind.alternatives.name ∧
      n.alternatives = some (first :: rest) ∧ first.Translates u ∧ List.Forall₂ Translates rest vs ∧
      us = u :: vs ∧ s = n.annotate (branchSchema u vs) := by
  have hnodup : (s.map (·.name)).Nodup := (shape_of_translateTagged h).nodup_names
  obtain ⟨kind, body, hkind, -, hbody, rfl⟩ := inline_ok_iff.mp h
  have hname := name_of_kind? hkind
  by_cases hne : kind = .alternatives
  · subst hne
    obtain ⟨first, rest, u, vs, halternatives, hu, hvs, rfl⟩ := forall₂_of_translateBranches hbody
    have hset : .branches (u :: vs) ∈ n.annotate (branchSchema u vs) :=
      mem_annotate (Schema.mem_put_self _ _) (by simp [Keyword.name])
    obtain rfl := Keyword.branches.inj (List.inj_on_of_nodup_map hnodup hus hset rfl)
    exact ⟨first, rest, u, vs, hname, halternatives, hu, hvs, rfl, rfl⟩
  · have hbranches := (mem_of_mem_annotate hus).resolve_right (by simp [Keyword.name])
    cases owns_of_translateKind hname hne hbody _ hbranches

/-! ## Rules -/

/-- The rules for the schema `s` of a node at one position. -/
structure Renders (n : Node) (s : Schema) : Prop where
  distinct : (s.map (·.name)).Nodup
  /-- A reference stands alone. -/
  reference : ∀ k ∈ s, k.name = "$ref" → s = [k]
  items : .type .array ∈ s → ∃ u, .items u ∈ s
  enum : ∀ values, .enum values ∈ s → values ≠ []
  /-- The members are those of the source, in the order of their declaration. -/
  properties : ∀ members, .properties members ∈ s →
    n.source.kind = Kind.object.name ∧ members ≠ [] ∧
      List.Forall₂ (fun part member => member.1 = part.1 ∧ part.2.Translates member.2)
        (n.source.properties.getD []) members
  /-- The required names are those of the parts of the source that are required, whether a tag
  stands for them or not. -/
  required : ∀ names, .required names ∈ s →
    n.source.kind = Kind.object.name ∧ names ≠ [] ∧ names.Nodup ∧
      names = ((n.source.properties.getD []).filter (·.2.required)).map (·.1)
  /-- A lower bound is at most the upper one, unless one of them is not a number. -/
  bounds : ∀ b c, b.upper? = some c → ∀ low high, .bound b low ∈ s → .bound c high ∈ s →
    ∀ v ∈ low.value?, ∀ w ∈ high.value?, v ≤ w
  /-- All branches are there, and beside them a reference that stands for the first one or what the
  first one has. -/
  branches : ∀ us, .branches us ∈ s → ∃ branches first rest, n.alternatives = some branches ∧
    List.Forall₂ Translates branches us ∧ us = first :: rest ∧
      (first.isReference = true ∧ .allOf [first] ∈ s ∨ first.isReference = false ∧
        ∀ k ∈ first, ∃ j ∈ s, j.name = k.name ∧ (k.name ∉ overlaid → j = k))

/-- No two parts that a node uses have the same name, and so in all nodes inside of it. -/
def Distinct (n : Node) : Prop := ∀ m, n.Within m → ((m.properties.getD []).map (·.1)).Nodup

theorem Distinct.within (h : n.Distinct) (hm : n.Within m) : m.Distinct :=
  fun p hp => h p (hm.trans hp)

theorem renders_reference (n : Node) (p : String) : n.Renders (Schema.reference p) := by
  constructor <;> simp [Schema.reference]

/-- Beside the branches stands what is set on top of the first one, and else what that has. -/
theorem exists_mem_annotate_branchSchema {us : List Schema} (hu : u.isReference = false)
    {k : Keyword} (hk : k ∈ u) :
    ∃ j ∈ n.annotate (branchSchema u us), j.name = k.name ∧ (k.name ∉ overlaid → j = k) := by
  by_cases hover : k.name ∈ overlaid
  · have hname : k.name ∈ (branchSchema u us).map (·.name) := by
      rw [branchSchema, hu]
      exact Schema.names_subset_put u _ (List.mem_map_of_mem hk)
    obtain ⟨j, hj, heq⟩ := List.mem_map.mp (names_subset_annotate n _ hname)
    exact ⟨j, hj, heq, fun hnot => absurd hover hnot⟩
  · simp only [overlaid, List.mem_cons, not_or] at hover
    have hkept : k ∈ branchSchema u us := (mem_branchSchema_iff hu hover.1).mpr hk
    exact ⟨k, mem_annotate hkept (by simpa using hover.2), rfl, fun _ => rfl⟩

theorem renders_of_inline (hn : n.Distinct) (h : n.inline referenceTo = ⟨rs, .ok s⟩) :
    n.Renders s := by
  have hshape := shape_of_translateTagged h
  have hsource := isSource_of_inline h
  -- What the keywords of the schema are for is read off the fields of the node that own them.
  refine ⟨hshape.nodup_names, fun k hk href => ?_, hshape.items_iff.mpr, fun values hvalues => ?_,
    fun members hmembers => ?_, fun names hnames => ?_, fun b c hupper low high hlow hhigh => ?_,
    fun us hus => ?_⟩
  · exact absurd href (hsource.owned k hk (by simp [href, overlaid])).name_ne
  · cases hsource.owned _ hvalues (by simp [overlaid, Keyword.name]) with
    | enum hne => exact hne
  · cases hsource.owned _ hmembers (by simp [overlaid, Keyword.name]) with
    | properties hkind hne hmembers => exact ⟨hkind, hne, hmembers⟩
  · cases hsource.owned _ hnames (by simp [overlaid, Keyword.name]) with
    | required hkind hne =>
      refine ⟨hkind, hne, ?_, rfl⟩
      exact (List.filter_sublist.map _).nodup (hn _ n.within_source)
  · -- A lower and an upper bound come from `min` and `max`, which are in order.
    have hlow := hsource.owned _ hlow (name_bound_notMem_overlaid b)
    have hhigh := hsource.owned _ hhigh (name_bound_notMem_overlaid c)
    obtain ⟨hb, hc⟩ := Bound.upper?_eq_some hupper
    cases hlow with
    | upper hb' => exact absurd hb' hb
    | lower _ hmin =>
      cases hhigh with
      | lower hc' => simp [hc] at hc'
      | upper _ hmax => exact hsource.bounds low hmin high hmax
  · obtain ⟨first, rest, u, vs, -, halternatives, hu, hvs, rfl, rfl⟩ := branches_of_inline h hus
    refine ⟨first :: rest, u, vs, halternatives, .cons hu hvs, rfl, ?_⟩
    cases href : u.isReference with
    | true =>
      refine .inl ⟨rfl, mem_annotate ?_ (by simp [Keyword.name])⟩
      rw [branchSchema, href]
      exact Schema.mem_put_of_ne (List.mem_singleton_self _) (by simp [Keyword.name])
    | false => exact .inr ⟨rfl, fun k hk => exists_mem_annotate_branchSchema href hk⟩

theorem distinct_iff :
    n.Distinct ↔ ((n.properties.getD []).map (·.1)).Nodup ∧ ∀ m ∈ n.usedParts, m.Distinct := by
  constructor
  · exact fun h => ⟨h n (.self n), fun m hm => h.within (.inside hm (.self m))⟩
  · rintro ⟨hself, hparts⟩ m (_ | ⟨hpart, hm⟩)
    · exact hself
    · exact hparts _ hpart m hm

/-! ## All positions -/

/-- A schema that a node gives to its own is the translation of one of the parts it uses. -/
theorem Owns.exists_part {k : Keyword} (h : n.Owns k) (hu : u ∈ k.schemas) :
    ∃ m ∈ n.usedParts, m.Translates u := by
  cases h with
  | properties hkind _ hmembers =>
    obtain ⟨member, hmember, rfl⟩ := List.mem_map.mp hu
    obtain ⟨part, hpart, -, ht⟩ := exists_of_forall₂ hmembers hmember
    rw [usedParts_of_kind hkind]
    exact ⟨part.2, List.mem_map_of_mem hpart, ht⟩
  | items hkind hitems ht =>
    obtain rfl := List.mem_singleton.mp hu
    rw [usedParts_of_kind hkind]
    exact ⟨_, by simp [hitems], ht⟩
  | allOf hkind halternatives ht =>
    obtain rfl := List.mem_singleton.mp hu
    rw [usedParts_of_kind hkind]
    exact ⟨_, by simp [halternatives], ht⟩
  | _ => cases hu

/-- A node is translated to a reference, or as if it had no tag. -/
theorem Translates.reference_or_inline (h : n.Translates s) :
    (∃ r, s = referenceTo r) ∨ ∃ rs, n.inline referenceTo = ⟨rs, .ok s⟩ := by
  obtain ⟨rs, h⟩ := h
  rw [translate_eq] at h
  split at h
  · rename_i r _
    obtain ⟨-, rfl⟩ : [r] = rs ∧ referenceTo r = s := by simpa [Traced.met] using h
    exact .inl ⟨r, rfl⟩
  · exact .inr ⟨rs, h⟩

/-- **Each schema directly inside a translated one** is the translation of a node inside. -/
theorem exists_within {k : Keyword} (h : n.Translates s) (hk : k ∈ s) (hu : u ∈ k.schemas) :
    ∃ m, n.Within m ∧ m.Translates u := by
  obtain ⟨r, rfl⟩ | ⟨rs, h⟩ := h.reference_or_inline
  · obtain rfl := List.mem_singleton.mp hk
    cases hu
  · -- The branches are those of the node itself; the other keywords are those of its source.
    by_cases hbranches : ∃ us, k = .branches us
    · obtain ⟨us, rfl⟩ := hbranches
      obtain ⟨first, rest, v, vs, hkind, halternatives, hv, hvs, rfl, -⟩ := branches_of_inline h hk
      obtain ⟨m, hm, ht⟩ := exists_of_forall₂ (.cons hv hvs) hu
      have hpart : m ∈ n.usedParts := by
        rw [usedParts_of_kind hkind, halternatives]
        exact hm
      exact ⟨m, .inside hpart (.self m), ht⟩
    · have hover : k.name ∉ overlaid := by
        cases k with
        | branches us => exact absurd ⟨us, rfl⟩ hbranches
        | properties | items | allOf => simp [overlaid, Keyword.name]
        | _ => cases hu
      obtain ⟨m, hm, ht⟩ := ((isSource_of_inline h).owned k hk hover).exists_part hu
      exact ⟨m, n.within_source.trans (.inside hm (.self m)), ht⟩

/-- **Translated schemas are well formed** at every schema position: what stands there is the
translation of a node inside the translated one, and keeps the rules for it. -/
theorem renders_of_part (hn : n.Distinct) (h : n.Translates s) :
    ∀ t, s.Part t → ∃ m, n.Within m ∧ m.Translates t ∧ m.Renders t := by
  intro t ht
  induction ht generalizing n with
  | self s =>
    refine ⟨n, .self n, h, ?_⟩
    obtain ⟨r, rfl⟩ | ⟨rs, h⟩ := h.reference_or_inline
    · exact renders_reference n _
    · exact renders_of_inline hn h
  | inside hk hu _ ih =>
    obtain ⟨m, hm, ht⟩ := exists_within h hk hu
    obtain ⟨p, hp, hp', hrenders⟩ := ih (hn.within hm) ht
    exact ⟨p, hm.trans hp, hp', hrenders⟩

/-! An object with a tagged part, and alternatives of which it is the first branch. -/

namespace Sample

def entry : Node where
  kind := "object"
  properties := some
    [("id", { kind := "string", required := true, ref := some "Id" }),
      ("size", { kind := "integer" })]

def entryOrAny : Node := { kind := "alternatives", alternatives := some [entry, { kind := "any" }] }

def entrySchema : Schema :=
  [.type .object, .properties [("id", [.ref "#/definitions/Id"]), ("size", [.type .integer])],
    .required ["id"]]

theorem translates_entryOrAny :
    entryOrAny.Translates (entrySchema ++ [.branches [entrySchema, []]]) :=
  ⟨["Id"], rfl⟩

theorem part_entrySchema : Schema.Part (entrySchema ++ [.branches [entrySchema, []]]) entrySchema :=
  .inside (k := .branches [entrySchema, []]) (by simp) List.mem_cons_self (.self _)

theorem distinct_entryOrAny : entryOrAny.Distinct := by
  have hleaf (n : Node) (hparts : n.usedParts = []) (hnone : n.properties = none) : n.Distinct := by
    rw [distinct_iff, hparts, hnone]
    simp
  have hentry : entry.Distinct := by
    refine distinct_iff.mpr ⟨by decide, ?_⟩
    have hparts : entry.usedParts = (entry.properties.getD []).map (·.2) := rfl
    rw [hparts]
    simp only [entry, Option.getD_some, List.map_cons, List.map_nil, List.forall_mem_cons]
    exact ⟨hleaf _ rfl rfl, hleaf _ rfl rfl, nofun⟩
  refine distinct_iff.mpr ⟨by decide, ?_⟩
  have hparts : entryOrAny.usedParts = entryOrAny.alternatives.getD [] := rfl
  rw [hparts]
  simp only [entryOrAny, Option.getD_some, List.forall_mem_cons]
  exact ⟨hentry, hleaf _ rfl rfl, nofun⟩

end Sample

theorem renders_of_part_sample :
    Sample.entryOrAny.Distinct ∧
      Sample.entryOrAny.Translates (Sample.entrySchema ++ [.branches [Sample.entrySchema, []]]) ∧
      Schema.Part (Sample.entrySchema ++ [.branches [Sample.entrySchema, []]]) Sample.entrySchema ∧
      ∃ m, Sample.entryOrAny.Within m ∧ m.Translates Sample.entrySchema ∧
      m.Renders Sample.entrySchema :=
  ⟨Sample.distinct_entryOrAny, Sample.translates_entryOrAny, Sample.part_entrySchema,
    renders_of_part Sample.distinct_entryOrAny Sample.translates_entryOrAny _
    Sample.part_entrySchema⟩

/-! ## Nodes that are read -/

/-- A node is distinct when all its parts are, whether its kind uses them or not. -/
theorem distinct_of_parts (hitems : ∀ m, n.items = some m → m.Distinct)
    (hproperties : ∀ parts, n.properties = some parts →
      (parts.map (·.1)).Nodup ∧ ∀ part ∈ parts, part.2.Distinct)
    (halternatives : ∀ branches, n.alternatives = some branches → ∀ m ∈ branches, m.Distinct) :
    n.Distinct := by
  refine distinct_iff.mpr ⟨?_, fun m hm => ?_⟩
  · cases hparts : n.properties with
    | none => exact .nil
    | some parts => exact (hproperties parts hparts).1
  · obtain ⟨parts, hparts, part, hpart, rfl⟩ | hm | ⟨branches, hbranches, hm⟩ := mem_usedParts hm
    · exact (hproperties parts hparts).2 part hpart
    · exact hitems m hm
    · exact halternatives branches hbranches m hm

theorem Proper.distinct (h : n.Proper) : n.Distinct := by
  induction h with
  | intro _ names _ _ items properties alternatives =>
    exact distinct_of_parts items
      (fun parts hparts => ⟨names parts hparts, properties parts hparts⟩) alternatives

/-- **Every node that is read** is distinct. -/
theorem gives_distinct : Checked.Gives read Distinct := fun v n h => (gives_proper v n h).distinct

end Node

end ApiDoc
