import ApiDoc.Value.Shown
import Mathlib.Data.List.Basic

/-!
# Values without labels

The label of a container says which object it is, and two values are equal as data when they differ
only in their labels. `Value.unlabelled` leaves the labels out.

A value is a *tree* when it is made of null, truth values, numbers, texts, lists and mappings with
texts for keys, and no container with a label is inside of itself (`Value.IsTree`). Of a tree the
parts are the same with labels and without.
-/

namespace ApiDoc

namespace Value

mutual

/-- A value in which every object is one of its own. -/
def unlabelled : Value → Value
  | date _ d => date .none d
  | timestamp _ t => timestamp .none t
  | list _ items => list .none (unlabelledItems items)
  | tuple _ items => tuple .none (unlabelledItems items)
  | set _ keys => set .none (unlabelledItems keys)
  | map _ entries => map .none (unlabelledEntries entries)
  | again _ ofMap => again .none ofMap
  | v => v

def unlabelledItems : List Value → List Value
  | [] => []
  | v :: vs => v.unlabelled :: unlabelledItems vs

def unlabelledEntries : List (Value × Value) → List (Value × Value)
  | [] => []
  | (k, v) :: es => (k.unlabelled, v.unlabelled) :: unlabelledEntries es

end

theorem unlabelledItems_eq (vs : List Value) : unlabelledItems vs = vs.map unlabelled := by
  induction vs with
  | nil => rfl
  | cons v vs ih => rw [unlabelledItems, ih, List.map_cons]

mutual

/-- A message shows a value without its labels. -/
@[simp] theorem shown_unlabelled (v : Value) : v.unlabelled.shown = v.shown := by
  cases v with
  | list l items =>
    exact congrArg (fun ss => "[" ++ ", ".intercalate ss ++ "]") (shownItems_unlabelled items)
  | tuple l items =>
    have hlength : (unlabelledItems items).length = items.length := by
      rw [unlabelledItems_eq, List.length_map]
    exact congrArg₂ (fun ss n => "(" ++ ", ".intercalate ss ++ (if n = 1 then "," else "") ++ ")")
      (shownItems_unlabelled items) hlength
  | set l keys =>
    cases keys with
    | nil => rfl
    | cons v vs =>
      exact congrArg (fun ss => "\x7b" ++ ", ".intercalate ss ++ "\x7d")
        (shownItems_unlabelled (v :: vs))
  | map l entries =>
    exact congrArg (fun ss => "\x7b" ++ ", ".intercalate ss ++ "\x7d")
      (shownEntries_unlabelled entries)
  | again l ofMap => cases ofMap <;> rfl
  | _ => rfl

theorem shownItems_unlabelled (vs : List Value) :
    shownItems (unlabelledItems vs) = shownItems vs := by
  cases vs with
  | nil => rfl
  | cons v vs => exact congrArg₂ List.cons (shown_unlabelled v) (shownItems_unlabelled vs)

theorem shownEntries_unlabelled (es : List (Value × Value)) :
    shownEntries (unlabelledEntries es) = shownEntries es := by
  cases es with
  | nil => rfl
  | cons e es =>
    obtain ⟨k, v⟩ := e
    exact congrArg₂ List.cons
      (congrArg₂ (fun s t => s ++ ": " ++ t) (shown_unlabelled k) (shown_unlabelled v))
      (shownEntries_unlabelled es)

end

@[simp] theorem typeName_unlabelled (v : Value) : v.unlabelled.typeName = v.typeName := by
  cases v with
  | number n => cases n <;> rfl
  | again l ofMap => cases ofMap <;> rfl
  | _ => rfl

/-! ## Trees -/

/-- A tree inside of the containers with the labels `path`. -/
inductive IsTree : List Label → Value → Prop
  | null {path : List Label} : IsTree path null
  | bool {path : List Label} (b : Bool) : IsTree path (bool b)
  | number {path : List Label} (n : Number) : IsTree path (number n)
  | str {path : List Label} (s : String) : IsTree path (str s)
  | list {path : List Label} {l : Label} {items : List Value} (hnew : l ∈ path → l = .none)
      (hitems : ∀ v ∈ items, IsTree (l :: path) v) : IsTree path (list l items)
  | map {path : List Label} {l : Label} {entries : Entries} (hnew : l ∈ path → l = .none)
      (hkeys : ∀ e ∈ entries, ∃ s, e.1 = .str s) (hvalues : ∀ e ∈ entries, IsTree (l :: path) e.2) :
      IsTree path (map l entries)

variable {path path' : List Label} {v : Value}

/-- Inside of fewer containers with labels a tree is still one. -/
theorem IsTree.mono (h : v.IsTree path) (hsub : ∀ l ∈ path', l ≠ .none → l ∈ path) :
    v.IsTree path' := by
  have hnew' {path path' : List Label} {l : Label} (hnew : l ∈ path → l = .none)
      (hsub : ∀ l ∈ path', l ≠ .none → l ∈ path) (hl : l ∈ path') : l = .none :=
    Classical.byContradiction fun hne => hne (hnew (hsub l hl hne))
  have hcons {path path' : List Label} (l : Label) (hsub : ∀ l ∈ path', l ≠ .none → l ∈ path) :
      ∀ k ∈ l :: path', k ≠ .none → k ∈ l :: path := by
    intro k hk hne
    obtain rfl | hk := List.mem_cons.mp hk
    · exact List.mem_cons_self
    · exact List.mem_cons_of_mem l (hsub k hk hne)
  induction h generalizing path' with
  | null => exact .null
  | bool b => exact .bool b
  | number n => exact .number n
  | str s => exact .str s
  | list hnew _ ih => exact .list (hnew' hnew hsub) fun v hv => ih v hv (hcons _ hsub)
  | map hnew hkeys _ ih => exact .map (hnew' hnew hsub) hkeys fun e he => ih e he (hcons _ hsub)

/-- A tree inside of a container is one outside of it. -/
theorem IsTree.of_cons {l : Label} (h : v.IsTree (l :: path)) : v.IsTree path :=
  h.mono fun _ hk _ => List.mem_cons_of_mem l hk

/-- A tree is one inside of a container without a label. -/
theorem IsTree.cons_none (h : v.IsTree path) : v.IsTree (.none :: path) :=
  h.mono fun _ hk hne => List.mem_of_ne_of_mem hne hk

theorem mem_unlabelledEntries {es : Entries} {e : Value × Value} (he : e ∈ unlabelledEntries es) :
    ∃ e' ∈ es, e = (e'.1.unlabelled, e'.2.unlabelled) := by
  induction es with
  | nil => cases he
  | cons e' es ih =>
    obtain rfl | he := List.mem_cons.mp he
    · exact ⟨e', List.mem_cons_self, rfl⟩
    · obtain ⟨e'', he'', rfl⟩ := ih he
      exact ⟨e'', List.mem_cons_of_mem _ he'', rfl⟩

/-- Without labels a tree is still one, wherever it is. -/
theorem isTree_unlabelled (h : v.IsTree path) : v.unlabelled.IsTree path' := by
  induction h generalizing path' with
  | null => exact .null
  | bool b => exact .bool b
  | number n => exact .number n
  | str s => exact .str s
  | list _ _ ih =>
    refine .list (fun _ => rfl) fun w hw => ?_
    rw [unlabelledItems_eq] at hw
    obtain ⟨u, hu, rfl⟩ := List.mem_map.mp hw
    exact ih u hu
  | map _ hkeys _ ih =>
    refine .map (fun _ => rfl) (fun e he => ?_) fun e he => ?_
    all_goals obtain ⟨e', he', rfl⟩ := mem_unlabelledEntries he
    · obtain ⟨s, hs⟩ := hkeys e' he'
      exact ⟨s, congrArg Value.unlabelled hs⟩
    · exact ih e' he'

theorem refillItems_eq_self {l : Label} {whole : Value} {items : List Value}
    (h : ∀ v ∈ items, refill l whole v = v) : refillItems l whole items = items := by
  induction items with
  | nil => rfl
  | cons v vs ih =>
    obtain ⟨hv, hvs⟩ := List.forall_mem_cons.mp h
    rw [refillItems, hv, ih hvs]

theorem refillEntries_eq_self {l : Label} {whole : Value} {es : Entries}
    (h : ∀ e ∈ es, refill l whole e.2 = e.2) :
    refillEntries l whole es = es := by
  induction es with
  | nil => rfl
  | cons e es ih =>
    obtain ⟨he, hes⟩ := List.forall_mem_cons.mp h
    rw [refillEntries, he, ih hes]

/-- Nothing in a tree refers back to a container around it. -/
theorem IsTree.refill_eq (h : v.IsTree path) (l : Label) (whole : Value) :
    refill l whole v = v := by
  induction h with
  | null | bool | number | str => simp [refill]
  | list _ _ ih => rw [refill, refillItems_eq_self ih, ite_self]
  | map _ _ _ ih => rw [refill, refillEntries_eq_self ih, ite_self]

/-- A container with a label is not inside of itself. -/
theorem IsTree.label_eq_none (h : v.IsTree path) (hmem : v.label ∈ path) : v.label = .none := by
  cases h with
  | list hnew | map hnew => exact hnew hmem
  | _ => rfl

theorem label_unlabelled (v : Value) : v.unlabelled.label = .none := by cases v <;> rfl

theorem size_unlabelled (h : v.IsTree path) : v.unlabelled.size = v.size := by
  induction h with
  | null | bool | number | str => rfl
  | @list path l items hnew hitems ih =>
    refine congrArg (1 + ·) ?_
    clear hnew hitems
    induction items with
    | nil => rfl
    | cons v vs ihs =>
      exact congrArg₂ (· + ·) (ih v List.mem_cons_self)
        (ihs fun w hw => ih w (List.mem_cons_of_mem v hw))
  | @map path l entries hnew hkeys hvalues ih =>
    refine congrArg (1 + ·) ?_
    clear hnew hkeys hvalues
    induction entries with
    | nil => rfl
    | cons e es ihs =>
      exact congrArg₂ (· + ·) (ih e List.mem_cons_self)
        (ihs fun w hw => ih w (List.mem_cons_of_mem e hw))

end Value

/-! ## Parts of a tree -/

namespace Entries

open Value

variable {path path' : List Label} {es : Entries}

/-- The entries of a tree: the keys are texts and the values are trees. -/
def AreTrees (path : List Label) (es : Entries) : Prop :=
  ∀ e ∈ es, (∃ s, e.1 = .str s) ∧ e.2.IsTree path

theorem areTrees_cons {k v : Value} : AreTrees path ((k, v) :: es) ↔
    (∃ s, k = .str s) ∧ v.IsTree path ∧ es.AreTrees path := by
  unfold AreTrees
  rw [List.forall_mem_cons, and_assoc]

/-- An entry of a tree with its label or without. -/
theorem get?_unlabelled (es : Entries) (key : String) :
    get? (unlabelledEntries es) key = (get? es key).map unlabelled := by
  induction es with
  | nil => rfl
  | cons e es ih =>
    obtain ⟨k, v⟩ := e
    cases k with
    | str s =>
      simp only [unlabelledEntries, unlabelled, get?, ih]
      split <;> rfl
    | _ => exact ih

theorem has_unlabelled (es : Entries) (key : String) :
    has (unlabelledEntries es) key = has es key := by
  rw [has, get?_unlabelled, Option.isSome_map, has]

theorem AreTrees.of_get? (h : es.AreTrees path) {key : String} {v : Value}
    (hv : get? es key = some v) :
    v.IsTree path := by
  induction es with
  | nil => cases hv
  | cons e es ih =>
    obtain ⟨k, w⟩ := e
    obtain ⟨⟨s, rfl⟩, hw, hes⟩ := areTrees_cons.mp h
    rw [get?] at hv
    split at hv
    · exact Option.some.inj hv ▸ hw
    · exact ih hes hv

theorem put_unlabelled (h : es.AreTrees path) (s : String) (v : Value) :
    put (unlabelledEntries es) (.str s) v.unlabelled = unlabelledEntries (put es (.str s) v) := by
  induction es with
  | nil => rfl
  | cons e es ih =>
    obtain ⟨k, w⟩ := e
    obtain ⟨⟨t, rfl⟩, hw, hes⟩ := areTrees_cons.mp h
    have hkey : (str t).unlabelled = str t := rfl
    rw [unlabelledEntries, hkey, put, put, ih hes]
    split <;> rfl

theorem AreTrees.put (h : es.AreTrees path) (s : String) {v : Value} (hv : v.IsTree path) :
    (es.put (.str s) v).AreTrees path := by
  induction es with
  | nil => exact areTrees_cons.mpr ⟨⟨s, rfl⟩, hv, h⟩
  | cons e es ih =>
    obtain ⟨k, w⟩ := e
    obtain ⟨hk, hw, hes⟩ := areTrees_cons.mp h
    rw [Entries.put]
    split
    · exact areTrees_cons.mpr ⟨hk, hv, hes⟩
    · exact areTrees_cons.mpr ⟨hk, hw, ih hes⟩

/-- The mapping that entries denote is the same with labels and without. -/
theorem AreTrees.ofList {es : List (Value × Value)} (h : AreTrees path es) :
    (ofList es).AreTrees path ∧ ofList (unlabelledEntries es) = unlabelledEntries (ofList es) := by
  -- Stated for any mapping to start with, for the induction to go through.
  have hfold : ∀ found : Entries, found.AreTrees path →
      AreTrees path (es.foldl (fun found e => found.put e.1 e.2) found) ∧
        (unlabelledEntries es).foldl (fun found e => Entries.put found e.1 e.2)
            (unlabelledEntries found) =
          unlabelledEntries (es.foldl (fun found e => Entries.put found e.1 e.2) found) := by
    induction es with
    | nil => exact fun _ hfound => ⟨hfound, rfl⟩
    | cons e es ih =>
      intro found hfound
      obtain ⟨k, v⟩ := e
      obtain ⟨⟨s, rfl⟩, hv, hes⟩ := areTrees_cons.mp h
      rw [unlabelledEntries, List.foldl_cons, List.foldl_cons]
      have hkey : (str s).unlabelled = str s := rfl
      dsimp only
      rw [hkey, put_unlabelled hfound]
      exact ih hes _ (hfound.put s hv)
  exact hfold [] nofun

end Entries

namespace Value

variable {path : List Label} {v : Value} {es : Entries} {items : List Value}

theorem entries?_map {l : Label} (h : (map l es).IsTree path) : (map l es).entries? = some es := by
  cases h with
  | map hnew hkeys hvalues =>
    have hrefill : refillEntries l (map l es) es = es :=
      refillEntries_eq_self fun e he => (hvalues e he).refill_eq ..
    unfold entries?
    cases l with
    | none => rfl
    | _ => exact congrArg some hrefill

theorem items?_list {l : Label} (h : (list l items).IsTree path) :
    (list l items).items? = some items := by
  cases h with
  | list hnew hitems =>
    have hrefill : refillItems l (list l items) items = items :=
      refillItems_eq_self fun w hw => (hitems w hw).refill_eq ..
    unfold items? listItems?
    cases l with
    | none => rfl
    | _ => exact congrArg some hrefill

/-- The entries of a tree, with labels and without. -/
theorem IsTree.entries?_unlabelled (h : v.IsTree path) :
    v.unlabelled.entries? = v.entries?.map unlabelledEntries := by
  cases v with
  | map l es => rw [entries?_map h, unlabelled, entries?, Option.map_some]
  | _ => rfl

theorem IsTree.areTrees (h : v.IsTree path) (hv : v.entries? = some es) :
    es.AreTrees (v.label :: path) := by
  cases v with
  | map l es' =>
    obtain rfl : es' = es := Option.some.inj ((entries?_map h).symm.trans hv)
    cases h with
    | map hnew hkeys hvalues => exact fun e he => ⟨hkeys e he, hvalues e he⟩
  | _ => cases hv

/-- The items of a tree, with labels and without. -/
theorem IsTree.items?_unlabelled (h : v.IsTree path) :
    v.unlabelled.items? = v.items?.map unlabelledItems := by
  cases v with
  | list l items =>
    rw [items?_list h]
    rfl
  | _ => rfl

theorem IsTree.isTree_of_mem_items (h : v.IsTree path) (hv : v.items? = some items) :
    ∀ w ∈ items, w.IsTree (v.label :: path) := by
  cases v with
  | list l items' =>
    obtain rfl : items' = items := Option.some.inj ((items?_list h).symm.trans hv)
    cases h with
    | list hnew hitems => exact hitems
  | tuple | set => cases h
  | _ => cases hv

end Value

end ApiDoc
