import ApiDoc.Proofs.Json.Graphs
import ApiDoc.Proofs.Yaml.Building

/-!
# Values of JSON texts

The value of a graph that is made of a tree is the value of the tree, in which each container is the
object that its node stands for.

Main statement: `Source.read_written`.
-/

namespace ApiDoc.Json

open Yaml

/-! ## The value of a tree whose containers are nodes -/

mutual

/-- The value of a tree whose node has the number `n`. -/
def Tree.valueAt (n : Nat) : Tree → Value
  | .scalar s => s.value
  | .emptyArray _ => .list (.source n) []
  | .array items => .list (.source n) (items.valuesAt (n + 1))
  | .emptyObject _ => .map (.source n) []
  | .object members => .map (.source n) (Entries.ofList (members.entriesAt (n + 1)))

/-- The values of items whose nodes begin with the number `n`. -/
def Items.valuesAt (n : Nat) : Items → List Value
  | .last _ item _ => [item.valueAt n]
  | .more _ item _ rest => item.valueAt n :: rest.valuesAt (n + item.size)

/-- The entries whose nodes begin with the number `n`, as they are written. -/
def Members.entriesAt (n : Nat) : Members → List (Value × Value)
  | .last key _ item _ => [(.str (stringValue key.letters), item.valueAt (n + 1))]
  | .more key _ item _ rest =>
    (.str (stringValue key.letters), item.valueAt (n + 1)) :: rest.entriesAt (n + 1 + item.size)

end

/-! ## Nodes in a graph -/

/-- The nodes from number `n` on are these. -/
def HoldsFrom (g : Graph) (n : Nat) (vs : List Vertex) : Prop :=
  ∀ (i : Nat) v, vs[i]? = some v → g[n + i]? = some v

variable {g : Graph} {n : Nat}

theorem holdsFrom_cons {v : Vertex} {vs : List Vertex} :
    HoldsFrom g n (v :: vs) ↔ g[n]? = some v ∧ HoldsFrom g (n + 1) vs := by
  constructor
  · intro h
    refine ⟨h 0 v rfl, fun i w hw => ?_⟩
    have hi := h (i + 1) w hw
    rwa [show n + (i + 1) = n + 1 + i by omega] at hi
  · rintro ⟨hv, hvs⟩ i w hw
    cases i with
    | zero => rwa [← Option.some.inj hw]
    | succ i =>
      rw [show n + (i + 1) = n + 1 + i by omega]
      exact hvs i w hw

theorem holdsFrom_append {vs us : List Vertex} :
    HoldsFrom g n (vs ++ us) ↔ HoldsFrom g n vs ∧ HoldsFrom g (n + vs.length) us := by
  induction vs generalizing n with
  | nil => simp [HoldsFrom]
  | cons v vs ih =>
    rw [List.cons_append, holdsFrom_cons, holdsFrom_cons, ih, and_assoc, List.length_cons,
      show n + 1 + vs.length = n + (vs.length + 1) by omega]

/-- The nodes of a list, in an array of their own. -/
theorem holdsFrom_toArray (vs : List Vertex) : HoldsFrom vs.toArray 0 vs := by
  intro i v hv
  rwa [Nat.zero_add, List.getElem?_toArray]

/-! ## The graph is plain -/

theorem Scalar.isPlain_vertex {s : Scalar} (hs : s.IsCommon) : s.vertex.IsPlain g := by
  have htag : s.tag.isContainer = false ∧ s.tag ≠ .merge ∧ s.tag ≠ .value := by
    cases s with
    | null | bool | string => exact ⟨rfl, nofun, nofun⟩
    | number m => cases h : m.isInteger <;> simp [Scalar.tag, h, Tag.isContainer]
  exact ⟨htag.1, htag.2.1, htag.2.2, fun id => ⟨_, s.value?_vertex hs id⟩⟩

theorem Members.vertex_of_mem_ids (members : Members) {n : Nat}
    (h : HoldsFrom g n (members.nodes n)) :
    ∀ e ∈ members.ids n, ∃ text, g[e.1]? = some (.scalar .str text) := by
  cases members with
  | last key before item after =>
    obtain ⟨hkey, -⟩ := holdsFrom_cons.mp h
    exact List.forall_mem_singleton.mpr ⟨_, hkey⟩
  | more key before item after others =>
    obtain ⟨hkey, h⟩ := holdsFrom_cons.mp h
    obtain ⟨-, hothers⟩ := holdsFrom_append.mp h
    rw [item.length_nodes] at hothers
    exact List.forall_mem_cons.mpr ⟨⟨_, hkey⟩, others.vertex_of_mem_ids hothers⟩

mutual

/-- The nodes of a value can be built. -/
theorem Tree.isPlain_of_mem_nodes (t : Tree) (ht : t.IsCommon) {n : Nat}
    (h : HoldsFrom g n (t.nodes n)) :
    ∀ v ∈ t.nodes n, v.IsPlain g := by
  cases t with
  | scalar s => exact List.forall_mem_singleton.mpr (Scalar.isPlain_vertex ht)
  | emptyArray => exact List.forall_mem_singleton.mpr rfl
  | array items =>
    obtain ⟨-, hitems⟩ := holdsFrom_cons.mp h
    exact List.forall_mem_cons.mpr ⟨rfl, items.isPlain_of_mem_nodes ht hitems⟩
  | emptyObject => exact List.forall_mem_singleton.mpr ⟨rfl, by simp⟩
  | object members =>
    obtain ⟨-, hmembers⟩ := holdsFrom_cons.mp h
    exact List.forall_mem_cons.mpr
      ⟨⟨rfl, members.vertex_of_mem_ids hmembers⟩, members.isPlain_of_mem_nodes ht hmembers⟩

/-- The nodes of items can be built. -/
theorem Items.isPlain_of_mem_nodes (items : Items) (hitems : items.IsCommon) {n : Nat}
    (h : HoldsFrom g n (items.nodes n)) : ∀ v ∈ items.nodes n, v.IsPlain g := by
  cases items with
  | last before item after => exact item.isPlain_of_mem_nodes hitems.2.1 h
  | more before item after others =>
    obtain ⟨hitem, hothers⟩ := holdsFrom_append.mp h
    rw [item.length_nodes] at hothers
    exact List.forall_mem_append.mpr
      ⟨item.isPlain_of_mem_nodes hitems.2.1 hitem, others.isPlain_of_mem_nodes hitems.2.2.2 hothers⟩

/-- The nodes of entries can be built. -/
theorem Members.isPlain_of_mem_nodes (members : Members) (hmembers : members.IsCommon) {n : Nat}
    (h : HoldsFrom g n (members.nodes n)) : ∀ v ∈ members.nodes n, v.IsPlain g := by
  have hkey (k : Key) : k.vertex.IsPlain g := ⟨rfl, nofun, nofun, fun _ => ⟨_, rfl⟩⟩
  cases members with
  | last key before item after =>
    obtain ⟨-, hitem⟩ := holdsFrom_cons.mp h
    exact List.forall_mem_cons.mpr ⟨hkey key, item.isPlain_of_mem_nodes hmembers.2.2.1 hitem⟩
  | more key before item after others =>
    obtain ⟨-, h⟩ := holdsFrom_cons.mp h
    obtain ⟨hitem, hothers⟩ := holdsFrom_append.mp h
    rw [item.length_nodes] at hothers
    exact List.forall_mem_cons.mpr ⟨hkey key, List.forall_mem_append.mpr
      ⟨item.isPlain_of_mem_nodes hmembers.2.2.1 hitem,
        others.isPlain_of_mem_nodes hmembers.2.2.2.2 hothers⟩⟩

end

/-- The graph of a tree is plain. -/
theorem Tree.isPlain_graph (t : Tree) (ht : t.IsCommon) : Graph.IsPlain (t.nodes 0).toArray := by
  intro n v hv
  rw [List.getElem?_toArray] at hv
  exact t.isPlain_of_mem_nodes ht (holdsFrom_toArray _) v (List.mem_of_getElem? hv)

/-! ## Values of built nodes -/

/-- A construction in which everything is built that can be reached from what has been met. -/
structure IsBuilt (g : Graph) (c : Construction) : Prop extends c.IsSound g where
  parts : ∀ n v, g[n]? = some v → c.Has n → ∀ p ∈ v.parts, c.Has p

variable {c : Construction} {fuel : Nat} {path : List Nat}

/-- Outside of itself, a node is a container or a scalar. -/
theorem valueOf_succ (hpath : ∀ p ∈ path, p < n) :
    c.valueOf (fuel + 1) path n =
      match c.graph[n]? with
      | some (.sequence .seq items) => .list (.source n) (items.map (c.valueOf fuel (n :: path)))
      | some (.sequence .pairs items) =>
        .list (.source n) (items.zipIdx.map fun (item, i) =>
          .tuple (.pair n i) ((c.graph.entriesOf item).flatMap fun (k, v) =>
            [c.valueOf fuel (n :: path) k, c.valueOf fuel (n :: path) v]))
      | some (.mapping .set es) =>
        .set (.source n)
          ((Entries.ofList (es.map fun (k, _) => (c.valueOf fuel (n :: path) k, .null))).map (·.1))
      | some (.mapping .map es) =>
        .map (.source n)
          (Entries.ofList
            (es.map fun (k, v) => (c.valueOf fuel (n :: path) k, c.valueOf fuel (n :: path) v)))
      | _ => c.scalars[n]?.getD .null := by
  have hcontains : ¬ path.contains n = true := by
    rw [List.contains_iff_mem]
    exact fun h => Nat.lt_irrefl n (hpath n h)
  rw [Construction.valueOf]
  exact if_neg hcontains

/-- The value of the node of a key. -/
theorem valueOf_key (hc : IsBuilt g c) {k : Key} (h : g[n]? = some k.vertex) (hn : c.Has n)
    (hpath : ∀ p ∈ path, p < n) : c.valueOf (fuel + 1) path n = .str (stringValue k.letters) := by
  rw [valueOf_succ hpath, hc.graph, h]
  exact congrArg (·.getD .null) (hc.value n .str _ _ hn h rfl)

mutual

/-- The value of the node of a tree. -/
theorem valueOf_tree (hc : IsBuilt g c) (t : Tree) (ht : t.IsCommon) {n : Nat}
    (h : HoldsFrom g n (t.nodes n)) (hn : c.Has n) {path : List Nat} (hpath : ∀ p ∈ path, p < n)
    {fuel : Nat} (hfuel : t.size ≤ fuel) :
    c.valueOf fuel path n = t.valueAt n := by
  -- Parts have greater numbers than their whole, so no value is met inside of itself.
  have hparts : ∀ p ∈ n :: path, p < n + 1 :=
    List.forall_mem_cons.mpr ⟨Nat.lt_succ_self n, fun p hp => Nat.lt_succ_of_lt (hpath p hp)⟩
  obtain ⟨fuel, rfl⟩ : ∃ m, fuel = m + 1 := ⟨fuel - 1, by have := t.size_pos; omega⟩
  cases t with
  | scalar s =>
    obtain ⟨hv, -⟩ := holdsFrom_cons.mp h
    rw [valueOf_succ hpath, hc.graph, hv]
    have hvalue := hc.value n s.tag s.text s.value hn hv (s.value?_vertex ht n)
    exact congrArg (·.getD .null) hvalue
  | emptyArray space =>
    obtain ⟨hv, -⟩ := holdsFrom_cons.mp h
    rw [valueOf_succ hpath, hc.graph, hv]
    rfl
  | array items =>
    obtain ⟨hv, hitems⟩ := holdsFrom_cons.mp h
    rw [valueOf_succ hpath, hc.graph, hv]
    exact congrArg (Value.list (.source n))
      (valueOf_items hc items ht hitems (hc.parts n _ hv hn) hparts (Nat.le_of_succ_le_succ hfuel))
  | emptyObject space =>
    obtain ⟨hv, -⟩ := holdsFrom_cons.mp h
    rw [valueOf_succ hpath, hc.graph, hv]
    rfl
  | object members =>
    obtain ⟨hv, hmembers⟩ := holdsFrom_cons.mp h
    rw [valueOf_succ hpath, hc.graph, hv]
    have hhas : ∀ e ∈ members.ids (n + 1), c.Has e.1 ∧ c.Has e.2 := by
      intro e he
      have hall := hc.parts n _ hv hn
      simp only [Vertex.parts, List.forall_mem_flatMap, List.forall_mem_cons] at hall
      exact ⟨(hall e he).1, (hall e he).2.1⟩
    exact congrArg (fun es => Value.map (.source n) (Entries.ofList es))
      (valueOf_members hc members ht hmembers hhas hparts (Nat.le_of_succ_le_succ hfuel))

/-- The values of the nodes of items. -/
theorem valueOf_items (hc : IsBuilt g c) (items : Items) (hitems : items.IsCommon) {n : Nat}
    (h : HoldsFrom g n (items.nodes n)) (hhas : ∀ id ∈ items.ids n, c.Has id) {path : List Nat}
    (hpath : ∀ p ∈ path, p < n) {fuel : Nat} (hfuel : items.size ≤ fuel) :
    (items.ids n).map (c.valueOf fuel path) = items.valuesAt n := by
  cases items with
  | last before item after =>
    obtain ⟨-, hitem, -⟩ := hitems
    exact congrArg (fun v => [v])
      (valueOf_tree hc item hitem h (hhas n List.mem_cons_self) hpath hfuel)
  | more before item after others =>
    obtain ⟨-, hitem, -, hothers⟩ := hitems
    obtain ⟨hholds, hholds'⟩ := holdsFrom_append.mp h
    rw [item.length_nodes] at hholds'
    rw [Items.size] at hfuel
    obtain ⟨hn, hids⟩ := List.forall_mem_cons.mp hhas
    exact congrArg₂ List.cons (valueOf_tree hc item hitem hholds hn hpath (by omega))
      (valueOf_items hc others hothers hholds' hids (fun p hp => Nat.lt_add_right _ (hpath p hp))
        (by omega))

/-- The values of the nodes of entries. -/
theorem valueOf_members (hc : IsBuilt g c) (members : Members) (hmembers : members.IsCommon)
    {n : Nat} (h : HoldsFrom g n (members.nodes n))
    (hhas : ∀ e ∈ members.ids n, c.Has e.1 ∧ c.Has e.2) {path : List Nat}
    (hpath : ∀ p ∈ path, p < n) {fuel : Nat} (hfuel : members.size ≤ fuel) :
    ((members.ids n).map fun (k, v) => (c.valueOf fuel path k, c.valueOf fuel path v)) =
      members.entriesAt n := by
  have hbehind : ∀ p ∈ path, p < n + 1 := fun p hp => Nat.lt_succ_of_lt (hpath p hp)
  cases members with
  | last key before item after =>
    obtain ⟨-, -, hitem, -⟩ := hmembers
    rw [Members.size] at hfuel
    obtain ⟨fuel, rfl⟩ : ∃ m, fuel = m + 1 := ⟨fuel - 1, by omega⟩
    obtain ⟨hkey, hholds⟩ := holdsFrom_cons.mp h
    obtain ⟨⟨hhaskey, hhasitem⟩, -⟩ := List.forall_mem_cons.mp hhas
    exact congrArg (fun e => [e]) (congrArg₂ Prod.mk (valueOf_key hc hkey hhaskey hpath)
      (valueOf_tree hc item hitem hholds hhasitem hbehind (by omega)))
  | more key before item after others =>
    obtain ⟨-, -, hitem, -, hothers⟩ := hmembers
    rw [Members.size] at hfuel
    obtain ⟨fuel, rfl⟩ : ∃ m, fuel = m + 1 := ⟨fuel - 1, by omega⟩
    obtain ⟨hkey, h⟩ := holdsFrom_cons.mp h
    obtain ⟨hholds, hholds'⟩ := holdsFrom_append.mp h
    rw [item.length_nodes] at hholds'
    obtain ⟨⟨hhaskey, hhasitem⟩, hids⟩ := List.forall_mem_cons.mp hhas
    exact congrArg₂ List.cons
      (congrArg₂ Prod.mk (valueOf_key hc hkey hhaskey hpath)
        (valueOf_tree hc item hitem hholds hhasitem hbehind (by omega)))
      (valueOf_members hc others hothers hholds' hids
        (fun p hp => Nat.lt_add_right _ (hbehind p hp)) (by omega))

end

/-- The value of a text of the common part is that of its tree. -/
theorem Source.read_written {x : Source} (hx : x.IsCommon) (htree : ¬ x.tree.IsScalar) :
    Yaml.read (x.written Space.unified) = .ok (x.tree.valueAt 0) := by
  have ht := hx.2.1
  let g : Graph := (x.tree.nodes 0).toArray
  have hsize : g.size = x.tree.size := by simp [g, x.tree.length_nodes]
  obtain ⟨c, hrun, hsound, hroot, hparts⟩ := Graph.exists_value (x.tree.isPlain_graph ht) 0
  have hvalue : c.valueOf (g.size + 1) [] 0 = x.tree.valueAt 0 :=
    valueOf_tree ⟨hsound, hparts⟩ x.tree ht (holdsFrom_toArray _) hroot (by simp) (by omega)
  unfold Yaml.read
  rw [x.readGraph_written hx htree, ← hvalue]
  exact hrun

end ApiDoc.Json
