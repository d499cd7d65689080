import ApiDoc.Yaml.Reader
import Mathlib.Data.List.Basic

/-!
# Building the values of a plain graph

A graph is plain when all its nodes can be built: scalars of types that their texts fit, lists, and
mappings whose keys are texts. Then building never fails, and it comes to an end with everything
that can be reached from the root built (`Graph.exists_value`).

**Why the levels are enough.** A container is opened once, when it has been met. So the containers
to be opened and the nodes that have not been met get fewer with each level (`Construction.left`).

**What is built.** A scalar that has been met has its value, and the parts of a container that has
been opened have been met (`Construction.IsClosed`).
-/

namespace ApiDoc.Yaml

/-! ## Plain graphs -/

/-- The parts of a node. -/
def Vertex.parts : Vertex → List Nat
  | .scalar .. | .brokenScalar .. => []
  | .sequence _ items => items
  | .mapping _ entries => entries.flatMap fun e => [e.1, e.2]

/-- A node that can be built. -/
def Vertex.IsPlain (g : Graph) : Vertex → Prop
  | .scalar tag text => tag.isContainer = false ∧ tag ≠ .merge ∧ tag ≠ .value ∧
      ∀ id, ∃ v, Scalar.value? id tag text = some (.ok v)
  | .brokenScalar .. => False
  | .sequence tag _ => tag = .seq
  | .mapping tag entries => tag = .map ∧ ∀ e ∈ entries, ∃ text, g[e.1]? = some (.scalar .str text)

def Graph.IsPlain (g : Graph) : Prop := ∀ (n : Nat) v, g[n]? = some v → v.IsPlain g

theorem Vertex.IsPlain.parts_eq_nil {g : Graph} {v : Vertex} (h : v.IsPlain g)
    (hcontainer : v.tag.isContainer = false) :
    v.parts = [] := by
  cases v with
  | scalar | brokenScalar => rfl
  | sequence =>
    cases h
    cases hcontainer
  | mapping =>
    obtain ⟨rfl, -⟩ := h
    cases hcontainer

namespace Graph

variable {g : Graph}

theorem tagOf_eq {n : Nat} {v : Vertex} (h : g[n]? = some v) : g.tagOf n = v.tag := by
  rw [tagOf, h]
  rfl

/-- Among keys that are texts there is none for merging. -/
theorem takeMerge?_eq_none {entries : List (Nat × Nat)}
    (h : ∀ e ∈ entries, ∃ text, g[e.1]? = some (.scalar .str text)) :
    g.takeMerge? entries = none := by
  induction entries with
  | nil => rfl
  | cons e es ih =>
    obtain ⟨⟨text, he⟩, hes⟩ := List.forall_mem_cons.mp h
    have htag : g.tagOf e.1 ≠ .merge := by
      rw [tagOf_eq he]
      nofun
    rw [takeMerge?, if_neg htag, ih hes]
    rfl

/-- Keys that are texts stay as they are. -/
theorem foldl_plainKey_eq {entries : List (Nat × Nat)}
    (h : ∀ e ∈ entries, ∃ text, g[e.1]? = some (.scalar .str text)) :
    entries.foldl (fun g e => g.plainKey e.1) g = g := by
  induction entries with
  | nil => rfl
  | cons e es ih =>
    obtain ⟨⟨text, he⟩, hes⟩ := List.forall_mem_cons.mp h
    have hkey : g.plainKey e.1 = g := by rw [plainKey, he]
    rw [List.foldl_cons, hkey, ih hes]

/-- A mapping of texts has nothing to be merged. -/
theorem merge_eq {n : Nat} {entries : List (Nat × Nat)} (h : g[n]? = some (.mapping .map entries))
    (hkeys : ∀ e ∈ entries, ∃ text, g[e.1]? = some (.scalar .str text)) : g.merge n = .ok g := by
  have hentries : g.entriesOf n = entries := by rw [entriesOf, h]
  have htake := takeMerge?_eq_none hkeys
  unfold merge
  rw [hentries, htake]
  unfold mergeFrom
  rw [hentries, htake]
  dsimp only
  rw [foldl_plainKey_eq hkeys]
  rfl

end Graph

/-! ## Meeting nodes -/

namespace Construction

variable {g : Graph} {c c' c'' : Construction}

/-- A node that has been met, or that does not exist. -/
def Has (c : Construction) (n : Nat) : Prop := c.met[n]?.getD true = true

/-- The number of steps that are left: containers to be opened and nodes that have not been met. -/
def left (c : Construction) : Nat := c.pending.length + c.met.count false

/-- A construction over a plain graph whose scalars have their values as far as they have been
met. -/
structure IsSound (g : Graph) (c : Construction) : Prop where
  graph : c.graph = g
  met : c.met.size = g.size
  scalars : c.scalars.size = g.size
  pending : ∀ n ∈ c.pending, ∃ v, g[n]? = some v ∧ v.tag.isContainer = true
  value : ∀ n tag text v, c.Has n → g[n]? = some (.scalar tag text) →
    Scalar.value? n tag text = some (.ok v) → c.scalars[n]? = some v

/-- A construction that has gone on: more nodes are met, and the containers among them are still to
be opened. -/
structure Grows (g : Graph) (c c' : Construction) : Prop where
  has : ∀ n, c.Has n → c'.Has n
  pending : ∀ n ∈ c.pending, n ∈ c'.pending
  new : ∀ n v, g[n]? = some v → v.tag.isContainer = true → c'.Has n → c.Has n ∨ n ∈ c'.pending
  left : c'.left ≤ c.left

theorem Grows.refl (g : Graph) (c : Construction) : Grows g c c :=
  ⟨fun _ h => h, fun _ h => h, fun _ _ _ _ h => .inl h, Nat.le_refl _⟩

theorem Grows.trans (h : Grows g c c') (h' : Grows g c' c'') : Grows g c c'' where
  has n hn := h'.has n (h.has n hn)
  pending n hn := h'.pending n (h.pending n hn)
  new n v hv hcontainer hn := by
    obtain hn | hn := h'.new n v hv hcontainer hn
    · exact (h.new n v hv hcontainer hn).imp_right (h'.pending n)
    · exact .inr hn
  left := Nat.le_trans h'.left h.left

theorem scalar_eq (hc : c.graph = g) {n : Nat} {tag : Tag} {text : String}
    (h : g[n]? = some (.scalar tag text)) {v : Value}
    (hv : Scalar.value? n tag text = some (.ok v)) : c.scalar n = .ok v := by
  have hscalar : g.scalarOf? (g.size + 1) n = some (.scalar tag text) := by rw [Graph.scalarOf?, h]
  unfold scalar
  rw [hc, hscalar, Graph.tagOf_eq h]
  exact congrArg (·.getD unfit) hv

/-- Meeting a node that has not been met. -/
theorem met_of_not_has {n : Nat} (h : ¬ c.Has n) : ∃ hn : n < c.met.size, c.met[n] = false := by
  unfold Has at h
  cases hmet : c.met[n]? with
  | none => simp [hmet] at h
  | some b =>
    obtain ⟨hn, hb⟩ := Array.getElem?_eq_some_iff.mp hmet
    refine ⟨hn, hb.trans ?_⟩
    simpa [hmet] using h

theorem has_set (c : Construction) (n k : Nat) (pending : List Nat) (scalars : Array Value) :
    Has { c with met := c.met.setIfInBounds n true, pending, scalars } k ↔ k = n ∨ c.Has k := by
  unfold Has
  rw [Array.getElem?_setIfInBounds]
  by_cases hk : n = k
  · subst hk
    by_cases hn : n < c.met.size <;> simp [hn]
  · simp [hk, Ne.symm hk]

/-- A node more is met. -/
theorem count_set {n : Nat} (hn : n < c.met.size) (h : c.met[n] = false) :
    (c.met.setIfInBounds n true).count false + 1 = c.met.count false := by
  have hpos : 0 < c.met.count false := Array.count_pos_iff.mpr (h ▸ Array.getElem_mem hn)
  rw [Array.setIfInBounds, dif_pos hn, Array.count_set, h]
  simp
  omega

/-- A container that is met waits to be opened. -/
theorem isSound_met_container {n : Nat} {v : Vertex} (hc : c.IsSound g) (hmet : ¬ c.Has n)
    (hv : g[n]? = some v) (hcontainer : v.tag.isContainer = true) (hplain : v.IsPlain g) :
    IsSound g { c with met := c.met.setIfInBounds n true, pending := n :: c.pending } ∧
      Grows g c { c with met := c.met.setIfInBounds n true, pending := n :: c.pending } := by
  obtain ⟨hn, hfalse⟩ := met_of_not_has hmet
  have hcount := count_set hn hfalse
  have hhas := fun k => has_set c n k (n :: c.pending) c.scalars
  refine ⟨⟨hc.graph, by simp [hc.met], hc.scalars, ?_, ?_⟩, ⟨?_, ?_, ?_, ?_⟩⟩
  · exact List.forall_mem_cons.mpr ⟨⟨v, hv, hcontainer⟩, hc.pending⟩
  · -- A container has no value of its own, so the values that are known stay right.
    intro k tag text w hk hvertex hw
    obtain rfl | hk := (hhas k).mp hk
    · obtain rfl := Option.some.inj (hv.symm.trans hvertex)
      exact absurd hcontainer (by rw [Vertex.tag, hplain.1]; exact Bool.false_ne_true)
    · exact hc.value k tag text w hk hvertex hw
  · exact fun k hk => (hhas k).mpr (.inr hk)
  · exact fun k hk => List.mem_cons_of_mem n hk
  · intro k w _ _ hk
    obtain rfl | hk := (hhas k).mp hk
    · exact .inr List.mem_cons_self
    · exact .inl hk
  · simp only [left, List.length_cons]
    omega

/-- A scalar that is met has its value at once. -/
theorem isSound_met_scalar {n : Nat} {tag : Tag} {text : String} {v : Value} (hc : c.IsSound g)
    (hmet : ¬ c.Has n) (hvertex : g[n]? = some (.scalar tag text))
    (hv : Scalar.value? n tag text = some (.ok v)) (htag : tag.isContainer = false) :
    IsSound g { c with met := c.met.setIfInBounds n true, scalars := c.scalars.setIfInBounds n v } ∧
      Grows g c { c with
        met := c.met.setIfInBounds n true
        scalars := c.scalars.setIfInBounds n v } := by
  obtain ⟨hn, hfalse⟩ := met_of_not_has hmet
  have hcount := count_set hn hfalse
  have hhas := fun k => has_set c n k c.pending (c.scalars.setIfInBounds n v)
  have hsize : n < c.scalars.size := by rw [hc.scalars, ← hc.met]; exact hn
  refine ⟨⟨hc.graph, by simp [hc.met], by simp [hc.scalars], hc.pending, ?_⟩,
    ⟨?_, fun _ h => h, ?_, ?_⟩⟩
  · intro k tag' text' w hk hvertex' hw
    -- The value that is stored is the one of this scalar; the others are from before.
    by_cases hkn : n = k
    · subst hkn
      cases Option.some.inj (hvertex.symm.trans hvertex')
      cases Except.ok.inj (Option.some.inj (hv.symm.trans hw))
      simp [hsize]
    · have hk := ((hhas k).mp hk).resolve_left (Ne.symm hkn)
      simpa [Array.getElem?_setIfInBounds, hkn] using hc.value k tag' text' w hk hvertex' hw
  · exact fun k hk => (hhas k).mpr (.inr hk)
  · intro k w hw hcontainer hk
    obtain rfl | hk := (hhas k).mp hk
    · cases Option.some.inj (hvertex.symm.trans hw)
      exact absurd hcontainer (by rw [Vertex.tag, htag]; exact Bool.false_ne_true)
    · exact .inl hk
  · simp only [left]
    omega

/-- Meeting a node of a plain graph succeeds. -/
theorem exists_meet (hg : g.IsPlain) (hc : c.IsSound g) (n : Nat) :
    ∃ c', c.meet n = .ok c' ∧ c'.IsSound g ∧ Grows g c c' ∧ c'.Has n := by
  unfold meet
  by_cases hmet : c.Has n
  · -- A node that has been met stays as it is.
    have hif : c.met[n]?.getD true = true := hmet
    rw [if_pos hif]
    exact ⟨c, rfl, hc, Grows.refl g c, hmet⟩
  · have hif : ¬ c.met[n]?.getD true = true := hmet
    obtain ⟨hn, -⟩ := met_of_not_has hmet
    obtain ⟨v, hv⟩ : ∃ v, g[n]? = some v := ⟨_, Array.getElem?_eq_getElem (hc.met ▸ hn)⟩
    have htag : ({ c with met := c.met.setIfInBounds n true } : Construction).graph.tagOf n =
      v.tag := by
      rw [← Graph.tagOf_eq hv, ← hc.graph]
    have hplain := hg n v hv
    rw [if_neg hif]
    dsimp only
    rw [htag]
    have hwaits (hcontainer : v.tag.isContainer = true) :=
      isSound_met_container hc hmet hv hcontainer hplain
    cases v with
    | scalar tag text =>
      obtain ⟨hcontainer, -, -, hvalue⟩ := hplain
      obtain ⟨w, hw⟩ := hvalue n
      obtain ⟨hsound, hgrows⟩ := isSound_met_scalar hc hmet hv hw hcontainer
      have hscalar := scalar_eq (c := { c with met := c.met.setIfInBounds n true }) hc.graph hv hw
      have hif : ¬ (Vertex.scalar tag text).tag.isContainer = true := by
        rw [Vertex.tag, hcontainer]; nofun
      rw [if_neg hif, hscalar]
      exact ⟨_, rfl, hsound, hgrows, (has_set ..).mpr (.inl rfl)⟩
    | brokenScalar tag codes => exact hplain.elim
    | sequence tag items =>
      cases hplain
      obtain ⟨hsound, hgrows⟩ := hwaits rfl
      exact ⟨_, rfl, hsound, hgrows, (has_set ..).mpr (.inl rfl)⟩
    | mapping tag entries =>
      obtain ⟨rfl, -⟩ := hplain
      obtain ⟨hsound, hgrows⟩ := hwaits rfl
      exact ⟨_, rfl, hsound, hgrows, (has_set ..).mpr (.inl rfl)⟩

/-! ## Opening containers -/

/-- A node whose parts have been met. -/
def IsOpened (g : Graph) (c : Construction) (n : Nat) : Prop :=
  ∀ v, g[n]? = some v → ∀ p ∈ v.parts, c.Has p

/-- Work that goes on from step to step, each of which achieves something that lasts. -/
theorem exists_foldlM {α : Type} {step : Construction → α → Except Error Construction}
    {P : Construction → α → Prop} (hlast : ∀ a {c c' : Construction}, Grows g c c' → P c a → P c' a)
    (as : List α) (hstep : ∀ a ∈ as, ∀ {c : Construction}, c.IsSound g →
      ∃ c', step c a = .ok c' ∧ c'.IsSound g ∧ Grows g c c' ∧ P c' a) (hc : c.IsSound g) :
    ∃ c', as.foldlM step c = .ok c' ∧ c'.IsSound g ∧ Grows g c c' ∧ ∀ a ∈ as, P c' a := by
  induction as generalizing c with
  | nil => exact ⟨c, rfl, hc, Grows.refl g c, by simp⟩
  | cons a as ih =>
    obtain ⟨ha, has⟩ := List.forall_mem_cons.mp hstep
    obtain ⟨c₁, hrun₁, hc₁, hgrows₁, hP⟩ := ha hc
    obtain ⟨c₂, hrun₂, hc₂, hgrows₂, hPs⟩ := ih has hc₁
    refine ⟨c₂, ?_, hc₂, hgrows₁.trans hgrows₂, List.forall_mem_cons.mpr ⟨hlast a hgrows₂ hP, hPs⟩⟩
    rw [List.foldlM_cons, hrun₁]
    exact hrun₂

theorem exists_meetEntry (hg : g.IsPlain) (hc : c.IsSound g) {e : Nat × Nat} {text : String}
    (hkey : g[e.1]? = some (.scalar .str text)) :
    ∃ c', c.meetEntry e = .ok c' ∧ c'.IsSound g ∧ Grows g c c' ∧ c'.Has e.1 ∧ c'.Has e.2 := by
  obtain ⟨c₁, hrun₁, hc₁, hgrows₁, hhas₁⟩ := exists_meet hg hc e.1
  obtain ⟨c₂, hrun₂, hc₂, hgrows₂, hhas₂⟩ := exists_meet hg hc₁ e.2
  have htag : ¬ (c₁.graph.tagOf e.1).isContainer = true := by
    rw [hc₁.graph, Graph.tagOf_eq hkey]
    nofun
  refine ⟨c₂, ?_, hc₂, hgrows₁.trans hgrows₂, hgrows₂.has _ hhas₁, hhas₂⟩
  unfold meetEntry
  rw [hrun₁]
  refine Eq.trans ?_ hrun₂
  exact if_neg htag

/-- Opening a container of a plain graph succeeds. -/
theorem exists_expand (hg : g.IsPlain) (hc : c.IsSound g) {n : Nat} {v : Vertex}
    (hv : g[n]? = some v) (hcontainer : v.tag.isContainer = true) :
    ∃ c', c.expand n = .ok c' ∧ c'.IsSound g ∧ Grows g c c' ∧ IsOpened g c' n := by
  have hplain := hg n v hv
  have hopened {c' : Construction} (h : ∀ p ∈ v.parts, c'.Has p) : IsOpened g c' n := by
    intro w hw
    rwa [Option.some.inj (hw.symm.trans hv)]
  unfold expand
  rw [hc.graph, hv]
  cases v with
  | scalar tag text =>
    exact absurd hcontainer (by rw [Vertex.tag, hplain.1]; exact Bool.false_ne_true)
  | brokenScalar tag codes => exact hplain.elim
  | sequence tag items =>
    cases hplain
    obtain ⟨c', hrun, hc', hgrows, hhas⟩ := exists_foldlM (P := Has) (fun a _ _ h => h.has a) items
      (fun a _ _ hc => exists_meet hg hc a) hc
    exact ⟨c', hrun, hc', hgrows, hopened hhas⟩
  | mapping tag entries =>
    obtain ⟨rfl, hkeys⟩ := hplain
    obtain ⟨c', hrun, hc', hgrows, hhas⟩ :=
      exists_foldlM (P := fun c (e : Nat × Nat) => c.Has e.1 ∧ c.Has e.2)
        (fun a _ _ h => And.imp (h.has _) (h.has _)) entries
        (fun a ha _ hc => (hkeys a ha).elim fun _ hkey => exists_meetEntry hg hc hkey) hc
    -- Without a merge key the entries stay as they are, and so does the graph.
    have hself : ({ c with graph := g } : Construction) = c := by rw [← hc.graph]
    refine ⟨c', ?_, hc', hgrows, hopened fun p hp => ?_⟩
    · dsimp only
      rw [Graph.merge_eq hv hkeys]
      have hentries : g.entriesOf n = entries := by rw [Graph.entriesOf, hv]
      refine Eq.trans ?_ hrun
      exact congrArg₂ (List.foldlM meetEntry) hself hentries
    · simp only [Vertex.parts, List.mem_flatMap, List.mem_cons, List.not_mem_nil, or_false] at hp
      obtain ⟨e, he, rfl | rfl⟩ := hp
      · exact (hhas e he).1
      · exact (hhas e he).2

/-! ## Levels -/

/-- The containers that have been met wait or have been opened. -/
def IsClosed (g : Graph) (c : Construction) : Prop :=
  ∀ n v, g[n]? = some v → v.tag.isContainer = true → c.Has n → n ∈ c.pending ∨ IsOpened g c n

/-- A level is opened completely, and fewer steps are left. -/
theorem exists_level (hg : g.IsPlain) (hc : c.IsSound g) (hclosed : IsClosed g c) :
    ∃ c', c.pending.reverse.foldlM expand { c with pending := [] } = .ok c' ∧ c'.IsSound g ∧
      IsClosed g c' ∧ (∀ n, c.Has n → c'.Has n) ∧ c'.left + c.pending.length ≤ c.left := by
  have hempty : IsSound g { c with pending := [] } :=
    ⟨hc.graph, hc.met, hc.scalars, by simp, hc.value⟩
  have hopen : ∀ n ∈ c.pending.reverse, ∀ {c : Construction}, c.IsSound g →
      ∃ c', c.expand n = .ok c' ∧ c'.IsSound g ∧ Grows g c c' ∧ IsOpened g c' n := by
    intro n hn c' hc'
    obtain ⟨v, hv, hcontainer⟩ := hc.pending n (List.mem_reverse.mp hn)
    exact exists_expand hg hc' hv hcontainer
  have hlast : ∀ n {c c' : Construction}, Grows g c c' → IsOpened g c n → IsOpened g c' n :=
    fun n _ _ h hn v hv p hp => h.has p (hn v hv p hp)
  obtain ⟨c', hrun, hc', hgrows, hopened⟩ := exists_foldlM hlast c.pending.reverse hopen hempty
  refine ⟨c', hrun, hc', ?_, hgrows.has, ?_⟩
  · -- A container met so far is pending or opened; those that were pending are opened now.
    intro n v hv hcontainer hn
    obtain hn | hn := hgrows.new n v hv hcontainer hn
    · obtain hn | hn := hclosed n v hv hcontainer hn
      · exact .inr (hopened n (List.mem_reverse.mpr hn))
      · exact .inr (hlast n hgrows hn)
    · exact .inl hn
  · have hleft : c'.left ≤ 0 + c.met.count false := hgrows.left
    have hbefore : c.left = c.pending.length + c.met.count false := rfl
    omega

/-- With enough levels, everything is opened in the end. -/
theorem exists_run_of_left (hg : g.IsPlain) (fuel : Nat) (hc : c.IsSound g) (hclosed : IsClosed g c)
    (hfuel : c.left ≤ fuel) :
    ∃ c', c.run fuel = .ok c' ∧ c'.IsSound g ∧ IsClosed g c' ∧ c'.pending = [] ∧
      ∀ n, c.Has n → c'.Has n := by
  -- Each level leaves fewer vertices that are pending or not met, so the fuel lasts.
  induction fuel generalizing c with
  | zero =>
    have hpending : c.pending.length = 0 := by rw [left] at hfuel; omega
    exact ⟨c, rfl, hc, hclosed, List.length_eq_zero_iff.mp hpending, fun _ h => h⟩
  | succ fuel ih =>
    unfold run
    cases hpending : c.pending with
    | nil => exact ⟨c, rfl, hc, hclosed, hpending, fun _ h => h⟩
    | cons n ns =>
      obtain ⟨c₁, hrun₁, hc₁, hclosed₁, hhas₁, hleft⟩ := exists_level hg hc hclosed
      rw [hpending, List.length_cons] at hleft
      obtain ⟨c₂, hrun₂, hc₂, hclosed₂, hpending₂, hhas₂⟩ := ih hc₁ hclosed₁ (by omega)
      refine ⟨c₂, ?_, hc₂, hclosed₂, hpending₂, fun n hn => hhas₂ n (hhas₁ n hn)⟩
      rw [if_neg (by simp), ← hpending, hrun₁]
      exact hrun₂

end Construction

open Construction

/-- Building a plain graph from a node succeeds. Everything that can be reached is built. -/
theorem Graph.exists_value {g : Graph} (hg : g.IsPlain) (root : Nat) :
    ∃ c : Construction,
      g.value root = .ok (c.valueOf (g.size + 1) [] root) ∧ c.IsSound g ∧ c.Has root ∧
        ∀ (n : Nat) v, g[n]? = some v → c.Has n → ∀ p ∈ v.parts, c.Has p := by
  have hunmet : ∀ n v, g[n]? = some v → ¬ (start g).Has n := by
    intro n v hv
    obtain ⟨hn, -⟩ := Array.getElem?_eq_some_iff.mp hv
    simp [Has, start, hn]
  have hstart : (start g).IsSound g :=
    ⟨rfl, Array.size_replicate, Array.size_replicate,
      by simp [start], fun n _ _ _ hn hv => absurd hn (hunmet n _ hv)⟩
  obtain ⟨c₁, hrun₁, hc₁, hgrows, hroot⟩ := exists_meet hg hstart root
  -- Only the root has been met, and if it is a container it is pending.
  have hclosed : IsClosed g c₁ := fun n v hv hcontainer hn =>
    .inl ((hgrows.new n v hv hcontainer hn).resolve_left (hunmet n v hv))
  have hleft : c₁.left ≤ g.size + 1 := by
    have hleft : (start g).left = g.size := by simp [left, start]
    have := hgrows.left
    omega
  obtain ⟨c₂, hrun₂, hc₂, hclosed₂, hpending, hhas⟩ :=
    exists_run_of_left hg (g.size + 1) hc₁ hclosed hleft
  refine ⟨c₂, ?_, hc₂, hhas root hroot, fun n v hv hn => ?_⟩
  · unfold Graph.value
    rw [hrun₁]
    exact congrArg (Except.map (·.valueOf (g.size + 1) [] root)) hrun₂
  · cases hcontainer : v.tag.isContainer with
    | true =>
      obtain h | h := hclosed₂ n v hv hcontainer hn
      · simp [hpending] at h
      · exact h v hv
    | false =>
      rw [(hg n v hv).parts_eq_nil hcontainer]
      nofun

end ApiDoc.Yaml
