import ApiDoc.Proofs.Schema.Parts
import ApiDoc.Schema.Reference

/-!
# How a translation is built

A translation that succeeds is taken apart into the translations of its parts: a node makes its
schema from those of the parts that its kind uses (`Node.Assembles`), and adds what any node can say
about itself. So what is kept in such a step holds of everything that is translated
(`Node.induction_translateTagged`). Nothing else has to look into the loops over the parts.

Main statement: `Node.induction_translateTagged`.
-/

namespace ApiDoc

namespace Traced

variable {ε α β : Type} {rs : List String} {b : β}

theorem bind_ok_iff {x : Traced ε α} {f : α → Traced ε β} :
    x >>= f = ⟨rs, .ok b⟩ ↔
      ∃ rs₁ a rs₂, x = ⟨rs₁, .ok a⟩ ∧ f a = ⟨rs₂, .ok b⟩ ∧ rs = rs₁ ++ rs₂ := by
  rw [bind_eq]
  obtain ⟨rs₁, e | a⟩ := x
  · simp
  · simp only [bind_ok, mk.injEq, Except.ok.injEq]
    constructor
    · rintro ⟨rfl, h⟩
      exact ⟨rs₁, a, (f a).refs, ⟨rfl, rfl⟩, by rw [← h], rfl⟩
    · rintro ⟨rs₁', a', rs₂, ⟨rfl, rfl⟩, h, rfl⟩
      simp [h]

theorem pure_ok_iff {a : α} {b : α} : (pure a : Traced ε α) = ⟨rs, .ok b⟩ ↔ rs = [] ∧ b = a := by
  simp [eq_comm]

theorem lift_ok_iff {r : Except ε α} {b : α} :
    (lift r : Traced ε α) = ⟨rs, .ok b⟩ ↔ rs = [] ∧ r = .ok b := by
  simp [lift, eq_comm]

theorem map_ok_iff {x : Traced ε α} {f : α → β} :
    f <$> x = ⟨rs, .ok b⟩ ↔ ∃ a, x = ⟨rs, .ok a⟩ ∧ b = f a := by
  rw [show f <$> x = x >>= fun a => pure (f a) from rfl, bind_ok_iff]
  constructor
  · rintro ⟨rs₁, a, rs₂, hx, hf, rfl⟩
    obtain ⟨rfl, rfl⟩ := pure_ok_iff.mp hf
    exact ⟨a, by simpa using hx, rfl⟩
  · rintro ⟨a, hx, rfl⟩
    exact ⟨rs, a, [], hx, rfl, by simp⟩

end Traced

namespace Node

/-! ## Induction -/

theorem sizeOf_lt_of_items {n m : Node} (h : n.items = some m) : sizeOf m < sizeOf n := by
  cases n
  simp only at h
  simp only [h, mk.sizeOf_spec, Option.some.sizeOf_spec]
  omega

theorem sizeOf_lt_of_mem_properties {n : Node} {ps : List (String × Node)} {p : String × Node}
    (h : n.properties = some ps) (hp : p ∈ ps) : sizeOf p.2 < sizeOf n := by
  have hlt := List.sizeOf_lt_of_mem hp
  cases n
  obtain ⟨name, m⟩ := p
  simp only at h
  simp only [h, mk.sizeOf_spec, Option.some.sizeOf_spec, Prod.mk.sizeOf_spec] at hlt ⊢
  omega

theorem sizeOf_lt_of_mem_alternatives {n m : Node} {ms : List Node}
    (h : n.alternatives = some ms) (hm : m ∈ ms) : sizeOf m < sizeOf n := by
  have hlt := List.sizeOf_lt_of_mem hm
  cases n
  simp only at h
  simp only [h, mk.sizeOf_spec, Option.some.sizeOf_spec]
  omega

/-- The parts of a node that its kind uses, in order. -/
def usedParts (n : Node) : List Node :=
  match Kind.ofName? n.kind with
  | some .object => (n.properties.getD []).map (·.2)
  | some .array => n.items.toList
  | some .alternatives => n.alternatives.getD []
  | _ => []

theorem mem_usedParts {n m : Node} (h : m ∈ n.usedParts) :
    (∃ ps, n.properties = some ps ∧ ∃ p ∈ ps, p.2 = m) ∨ n.items = some m ∨
      ∃ ms, n.alternatives = some ms ∧ m ∈ ms := by
  unfold usedParts at h
  split at h
  · obtain ⟨p, hp, rfl⟩ := List.mem_map.mp h
    cases hps : n.properties with
    | none => simp [hps] at hp
    | some ps => exact .inl ⟨ps, rfl, p, by simpa [hps] using hp, rfl⟩
  · exact .inr (.inl (Option.mem_toList.mp h))
  · cases hms : n.alternatives with
    | none => simp [hms] at h
    | some ms => exact .inr (.inr ⟨ms, rfl, by simpa [hms] using h⟩)
  · simp at h

theorem sizeOf_lt_of_mem_usedParts {n m : Node} (h : m ∈ n.usedParts) : sizeOf m < sizeOf n := by
  obtain ⟨ps, hps, p, hp, rfl⟩ | hm | ⟨ms, hms, hm⟩ := mem_usedParts h
  · exact sizeOf_lt_of_mem_properties hps hp
  · exact sizeOf_lt_of_items hm
  · exact sizeOf_lt_of_mem_alternatives hms hm

/-- Induction over the parts of a node that its kind uses. -/
theorem induction_usedParts {motive : Node → Prop}
    (h : ∀ n : Node, (∀ m ∈ n.usedParts, motive m) → motive n) (n : Node) : motive n :=
  h n fun m hm => have _hlt := sizeOf_lt_of_mem_usedParts hm; induction_usedParts h m
termination_by sizeOf n
decreasing_by exact _hlt

/-! ## One step of a translation -/

variable {resolve : String → Schema} {n : Node} {rs : List String} {s : Schema}

/-- The schema of a node of a known kind, before anything is added that any node can say. -/
def translateKind (resolve : String → Schema) (n : Node) : Kind → Translation Schema
  | .object => n.objectSchema <$> translateMembers resolve n.properties
  | .array => n.arraySchema <$> translateItems resolve n.items
  | .alternatives => translateBranches resolve n.alternatives
  | k => .lift (n.leafSchema k)

theorem translateTagged_eq (resolve : String → Schema) (tagged : Bool) (n : Node) :
    translateTagged resolve tagged n =
      match if tagged then n.tag? else none with
      | some r => .met r (resolve r)
      | none => do
        let kind ← .lift n.kind?
        .lift n.checkBounds
        return n.annotate (← translateKind resolve n kind) := by
  cases n
  rw [translateTagged]
  generalize (if tagged then tag? _ else none) = tag
  cases tag with
  | some r => rfl
  | none =>
    dsimp only
    refine congrArg _ (funext fun kind => ?_)
    cases kind <;> rfl

/-- A tag stands for the node. -/
theorem translate_eq (resolve : String → Schema) (n : Node) :
    n.translate resolve = match n.tag? with
      | some r => .met r (resolve r)
      | none => n.inline resolve := by
  rw [translate, inline, translateTagged_eq, translateTagged_eq]
  cases n.tag? <;> rfl

/-- What a node needs to be translated itself. -/
theorem inline_ok_iff :
    n.inline resolve = ⟨rs, .ok s⟩ ↔
      ∃ kind body, n.kind? = .ok kind ∧ n.checkBounds = .ok () ∧
        translateKind resolve n kind = ⟨rs, .ok body⟩ ∧ s = n.annotate body := by
  rw [inline, translateTagged_eq]
  simp only [Bool.false_eq_true, if_false, Traced.bind_ok_iff, Traced.lift_ok_iff,
    Traced.pure_ok_iff]
  constructor
  · rintro ⟨_, kind, _, ⟨rfl, hk⟩,
      ⟨_, _, _, ⟨rfl, hb⟩, ⟨rs', body, _, hbody, ⟨rfl, rfl⟩, rfl⟩, rfl⟩, rfl⟩
    exact ⟨kind, body, hk, hb, by simpa using hbody, rfl⟩
  · rintro ⟨kind, body, hk, hb, hbody, rfl⟩
    exact ⟨[], kind, rs, ⟨rfl, hk⟩,
      ⟨[], (), rs, ⟨rfl, hb⟩, ⟨rs, body, [], hbody, ⟨rfl, rfl⟩, by simp⟩, rfl⟩, rfl⟩

/-- Named nodes are translated as the nodes alone, and keep their names. -/
theorem translateNamed_ok {parts : List (String × Node)} {members : List (String × Schema)}
    (h : translateNamed resolve parts = ⟨rs, .ok members⟩) :
    translateList resolve (parts.map (·.2)) = ⟨rs, .ok (members.map (·.2))⟩ ∧
      members.map (·.1) = parts.map (·.1) := by
  induction parts generalizing rs members with
  | nil =>
    obtain ⟨rfl, rfl⟩ := Traced.pure_ok_iff.mp (by simpa only [translateNamed] using h)
    exact ⟨by simp [translateList], rfl⟩
  | cons p parts ih =>
    obtain ⟨name, m⟩ := p
    rw [translateNamed] at h
    obtain ⟨rs₁, u, rs₂, hu, htail, rfl⟩ := Traced.bind_ok_iff.mp h
    obtain ⟨us, hus, rfl⟩ := Traced.map_ok_iff.mp htail
    obtain ⟨hlist, hnames⟩ := ih hus
    refine ⟨?_, by simp [hnames]⟩
    rw [List.map_cons, translateList]
    exact Traced.bind_ok_iff.mpr ⟨rs₁, u, rs₂, hu, Traced.map_ok_iff.mpr ⟨_, hlist, rfl⟩, rfl⟩

/-- Each schema of a list of translations is that of a node, and each reference that is met is met
for the schema of a node. -/
theorem translateList_ok {ns : List Node} {us : List Schema}
    (h : translateList resolve ns = ⟨rs, .ok us⟩) :
    (∀ u ∈ us, ∃ m ∈ ns, ∃ ms, ms ⊆ rs ∧ translateTagged resolve true m = ⟨ms, .ok u⟩) ∧
      ∀ r ∈ rs, ∃ m ∈ ns, ∃ ms, r ∈ ms ∧
        ∃ u ∈ us, translateTagged resolve true m = ⟨ms, .ok u⟩ := by
  induction ns generalizing rs us with
  | nil =>
    obtain ⟨rfl, rfl⟩ := Traced.pure_ok_iff.mp (by simpa only [translateList] using h)
    simp
  | cons n ns ih =>
    rw [translateList] at h
    obtain ⟨ns₁, v, rs₂, hv, htail, rfl⟩ := Traced.bind_ok_iff.mp h
    obtain ⟨vs, hvs, rfl⟩ := Traced.map_ok_iff.mp htail
    -- The references met are those of the first node, then those of the others.
    obtain ⟨hschemas, hrefs⟩ := ih hvs
    constructor
    · intro u hu
      rcases List.mem_cons.mp hu with rfl | hu
      · exact ⟨n, List.mem_cons_self, ns₁, List.subset_append_left _ _, hv⟩
      · obtain ⟨m, hm, ms, hsub, ht⟩ := hschemas u hu
        exact ⟨m, List.mem_cons_of_mem _ hm, ms, List.subset_append_of_subset_right _ hsub, ht⟩
    · intro r hr
      rcases List.mem_append.mp hr with hr | hr
      · exact ⟨n, List.mem_cons_self, ns₁, hr, v, List.mem_cons_self, hv⟩
      · obtain ⟨m, hm, ms, hr, u, hu, ht⟩ := hrefs r hr
        exact ⟨m, List.mem_cons_of_mem _ hm, ms, hr, u, List.mem_cons_of_mem _ hu, ht⟩

/-! ## From the parts to the node -/

/-- What a node makes of the schemas of its used parts, before anything is added that any node can
say. -/
inductive Assembles (n : Node) : List Schema → Schema → Prop
  | leaf {kind : Kind} {s : Schema} : n.leafSchema kind = .ok s → Assembles n [] s
  | object {members : List (String × Schema)} :
      members.map (·.1) = (n.properties.getD []).map (·.1) →
      Assembles n (members.map (·.2)) (n.objectSchema members)
  | array (items : Schema) : Assembles n [items] (n.arraySchema items)
  | branches (first : Schema) (rest : List Schema) :
      Assembles n (first :: rest) (branchSchema first rest)

theorem assembles_of_translateKind {kind : Kind} (hkind : Kind.ofName? n.kind = some kind)
    (h : translateKind resolve n kind = ⟨rs, .ok s⟩) :
    ∃ us, translateList resolve n.usedParts = ⟨rs, .ok us⟩ ∧ n.Assembles us s := by
  unfold usedParts
  rw [hkind]
  cases kind with
  | object =>
    obtain ⟨members, hm, rfl⟩ := Traced.map_ok_iff.mp h
    suffices h : translateList resolve ((n.properties.getD []).map (·.2)) =
        ⟨rs, .ok (members.map (·.2))⟩ ∧ members.map (·.1) = (n.properties.getD []).map (·.1) from
      ⟨_, h.1, .object h.2⟩
    cases hps : n.properties with
    | none =>
      rw [hps, translateMembers] at hm
      obtain ⟨rfl, rfl⟩ := Traced.pure_ok_iff.mp hm
      simp [translateList]
    | some ps =>
      rw [hps, translateMembers] at hm
      exact translateNamed_ok hm
  | array =>
    obtain ⟨u, hu, rfl⟩ := Traced.map_ok_iff.mp h
    refine ⟨[u], ?_, .array u⟩
    cases hm : n.items with
    | none =>
      rw [hm, translateItems] at hu
      simp [Traced.fail] at hu
    | some m =>
      rw [hm, translateItems] at hu
      simp [translateList, hu, Traced.bind]
  | alternatives =>
    unfold translateKind at h
    match hms : n.alternatives with
    | none | some [] =>
      -- Without branches there is no translation.
      rw [hms, translateBranches] at h
      simp [Traced.fail] at h
    | some (m :: ms) =>
      rw [hms, translateBranches] at h
      obtain ⟨rs₁, u, rs₂, hu, htail, rfl⟩ := Traced.bind_ok_iff.mp h
      obtain ⟨us, hus, rfl⟩ := Traced.map_ok_iff.mp htail
      refine ⟨u :: us, ?_, .branches u us⟩
      rw [Option.getD_some, translateList]
      exact Traced.bind_ok_iff.mpr ⟨rs₁, u, rs₂, hu, Traced.map_ok_iff.mpr ⟨us, hus, rfl⟩, rfl⟩
  | string | number | integer | boolean | date | any =>
    obtain ⟨rfl, hs⟩ := Traced.lift_ok_iff.mp h
    exact ⟨[], by simp [translateList], .leaf hs⟩

/-- **Induction over translations.** What holds of a tag, and of a node as soon as it holds of the
parts that the node uses, holds of every translation that succeeds. -/
theorem induction_translateTagged {motive : List String → Schema → Prop}
    (htag : ∀ r, motive [r] (resolve r))
    (hnode : ∀ (n : Node) us body rs, n.Assembles us body →
      (∀ u ∈ us, ∃ ms, ms ⊆ rs ∧ motive ms u) → (∀ r ∈ rs, ∃ u ∈ us, ∃ ms, r ∈ ms ∧ motive ms u) →
      motive rs (n.annotate body))
    {tagged : Bool} (h : translateTagged resolve tagged n = ⟨rs, .ok s⟩) : motive rs s := by
  induction n using induction_usedParts generalizing tagged rs s with
  | h n ih =>
    -- Tagged or not, a node that is gone into is assembled from the schemas of its parts.
    have hinline {rs s} (h : n.inline resolve = ⟨rs, .ok s⟩) : motive rs s := by
      obtain ⟨kind, body, hkind, -, hbody, rfl⟩ := inline_ok_iff.mp h
      have hname : Kind.ofName? n.kind = some kind := by
        unfold kind? at hkind
        split at hkind
        · rename_i hname
          rw [hname, Except.ok.inj hkind]
        · cases hkind
      obtain ⟨us, hus, hassembles⟩ := assembles_of_translateKind hname hbody
      obtain ⟨hschemas, hrefs⟩ := translateList_ok hus
      refine hnode n us body rs hassembles (fun u hu => ?_) fun r hr => ?_
      · obtain ⟨m, hm, ms, hsub, ht⟩ := hschemas u hu
        exact ⟨ms, hsub, ih m hm ht⟩
      · obtain ⟨m, hm, ms, hr, u, hu, ht⟩ := hrefs r hr
        exact ⟨u, hu, ms, hr, ih m hm ht⟩
    cases tagged with
    | false => exact hinline h
    | true =>
      have h : n.translate resolve = ⟨rs, .ok s⟩ := h
      rw [translate_eq] at h
      split at h
      · simp only [Traced.met, Traced.mk.injEq, Except.ok.injEq] at h
        obtain ⟨rfl, rfl⟩ := h
        exact htag _
      · exact hinline h

end Node

end ApiDoc
