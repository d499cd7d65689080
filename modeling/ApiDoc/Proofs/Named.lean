import Mathlib.Data.List.Forall2
import Mathlib.Data.List.Induction
import Mathlib.Data.List.Nodup
import ApiDoc.Value.Basic

/-!
# Laws of named lists

A list of values with names is a mapping that keeps its order: `putNamed` sets a value in place or
at the end, `getNamed?` looks one up. After a sequence of settings the names stand in the order of
their first occurrence, which is what `List.eraseDups` keeps of a list, and the values are those of
the last one (`IsLast`). Where only missing names are set, the values are those of the first one
(`IsFirst`).

A named list of values is a mapping whose keys are texts, and setting and looking up are the same in
both.

Main statements: `getNamed?_putNamed`, `names_putNamed`, and for a whole mapping set on top of
another `foldl_putNamed`.
-/

namespace ApiDoc

variable {α : Type} {name key : String} {value v : α} {m : List (String × α)}

/-! ## One setting -/

theorem getNamed?_putNamed :
    getNamed? key (putNamed name value m) = if key = name then some value else getNamed? key m := by
  induction m with
  | nil =>
    by_cases h : key = name
    · simp [putNamed, getNamed?, h]
    · simp [putNamed, getNamed?, h, Ne.symm h]
  | cons e m ih =>
    obtain ⟨k, u⟩ := e
    by_cases hk : k = name
    · subst hk
      by_cases h : key = k <;> simp [putNamed, getNamed?, h, eq_comm]
    · simp only [putNamed, hk, if_false, getNamed?, ih]
      by_cases h : k = key
      · subst h; simp [hk]
      · simp [h]

theorem mem_of_getNamed? (h : getNamed? key m = some v) : (key, v) ∈ m := by
  induction m with
  | nil => simp [getNamed?] at h
  | cons e m ih =>
    obtain ⟨k, u⟩ := e
    by_cases hk : k = key
    · subst hk
      simp only [getNamed?, if_true, Option.some.injEq] at h
      simp [h]
    · simp only [getNamed?, hk, if_false] at h
      exact List.mem_cons_of_mem _ (ih h)

theorem getNamed?_eq_none_iff : getNamed? key m = none ↔ key ∉ m.map (·.1) := by
  induction m with
  | nil => simp [getNamed?]
  | cons e m ih =>
    obtain ⟨k, u⟩ := e
    by_cases hk : k = key
    · simp [getNamed?, hk]
    · simp [getNamed?, hk, ih, Ne.symm hk]

theorem isSome_getNamed?_iff : (getNamed? key m).isSome ↔ key ∈ m.map (·.1) := by
  rw [← not_iff_not, ← getNamed?_eq_none_iff]
  simp

theorem getNamed?_of_mem (hm : (m.map (·.1)).Nodup) (h : (key, v) ∈ m) :
    getNamed? key m = some v := by
  induction m with
  | nil => simp at h
  | cons e m ih =>
    obtain ⟨k, u⟩ := e
    simp only [List.map_cons, List.nodup_cons] at hm
    rcases List.mem_cons.mp h with heq | hmem
    · obtain ⟨rfl, rfl⟩ := Prod.mk.inj heq
      simp [getNamed?]
    · have hne : k ≠ key := by
        rintro rfl
        exact hm.1 (List.mem_map.mpr ⟨_, hmem, rfl⟩)
      simp [getNamed?, hne, ih hm.2 hmem]

theorem mem_putNamed {e : String × α} (h : e ∈ putNamed name value m) :
    e = (name, value) ∨ e ∈ m := by
  induction m with
  | nil => simpa [putNamed] using h
  | cons d m ih =>
    obtain ⟨k, u⟩ := d
    by_cases hk : k = name
    · subst hk
      simp only [putNamed, if_true, List.mem_cons] at h
      exact h.imp_right (List.mem_cons_of_mem _)
    · simp only [putNamed, hk, if_false, List.mem_cons] at h
      rcases h with rfl | h
      · exact .inr List.mem_cons_self
      · exact (ih h).imp_right (List.mem_cons_of_mem _)

/-- Setting a value keeps the names, and a new name goes to the end. -/
theorem names_putNamed :
    (putNamed name value m).map (·.1) =
      if name ∈ m.map (·.1) then m.map (·.1) else m.map (·.1) ++ [name] := by
  induction m with
  | nil => simp [putNamed]
  | cons e m ih =>
    obtain ⟨k, u⟩ := e
    by_cases hk : k = name
    · simp [putNamed, hk]
    · simp only [putNamed, hk, if_false, List.map_cons, ih, List.mem_cons, Ne.symm hk, false_or]
      split <;> simp

theorem putNamed_of_notMem (h : name ∉ m.map (·.1)) :
    putNamed name value m = m ++ [(name, value)] := by
  induction m with
  | nil => rfl
  | cons e m ih =>
    obtain ⟨k, u⟩ := e
    simp only [List.map_cons, List.mem_cons, not_or] at h
    simp only [putNamed, Ne.symm h.1, if_false, ih h.2, List.cons_append]

theorem putNamed_of_mem (hm : (m.map (·.1)).Nodup) (h : name ∈ m.map (·.1)) :
    putNamed name value m = m.map fun e => if e.1 = name then (name, value) else e := by
  induction m with
  | nil => simp at h
  | cons e m ih =>
    obtain ⟨k, u⟩ := e
    simp only [List.map_cons, List.nodup_cons] at hm
    by_cases hk : k = name
    · subst hk
      have hrest : ∀ e ∈ m, e.1 ≠ k := fun e he heq =>
        hm.1 (List.mem_map.mpr ⟨e, he, heq⟩)
      simp only [putNamed, if_true, List.map_cons, List.cons.injEq, true_and]
      exact ((List.map_congr_left fun e he => if_neg (hrest e he)).trans (List.map_id' m)).symm
    · have hin : name ∈ m.map (·.1) := by
        simpa [Ne.symm hk] using h
      simp only [putNamed, hk, if_false, List.map_cons, ih hm.2 hin]

theorem nodup_putNamed (hm : (m.map (·.1)).Nodup) : ((putNamed name value m).map (·.1)).Nodup := by
  rw [names_putNamed]
  split
  · exact hm
  · rename_i h
    exact List.nodup_append.mpr ⟨hm, by simp, fun a ha b hb hab => by
      rw [List.mem_singleton.mp hb] at hab
      exact h (hab ▸ ha)⟩

/-! ## A mapping on top of another -/

theorem nodup_foldl_putNamed (es : List (String × α)) (hm : (m.map (·.1)).Nodup) :
    ((es.foldl (fun out (name, v) => putNamed name v out) m).map (·.1)).Nodup := by
  induction es generalizing m with
  | nil => exact hm
  | cons e es ih => exact ih (nodup_putNamed hm)

theorem forall_mem_foldl_putNamed {P : String × α → Prop} {es : List (String × α)}
    (hm : ∀ e ∈ m, P e) (hes : ∀ e ∈ es, P e) :
    ∀ e ∈ es.foldl (fun out (name, v) => putNamed name v out) m, P e := by
  induction es generalizing m with
  | nil => exact hm
  | cons e es ih =>
    obtain ⟨he, hes⟩ := List.forall_mem_cons.mp hes
    exact ih (fun d hd => (mem_putNamed hd).elim (fun heq => heq ▸ he) (hm d)) hes

/-- A mapping set on top of another: the names that both have get the new values where they stand,
and the other new names follow. -/
theorem foldl_putNamed {es : List (String × α)} (hm : (m.map (·.1)).Nodup)
    (hes : (es.map (·.1)).Nodup) :
    es.foldl (fun out (name, v) => putNamed name v out) m =
      m.map (fun e => (e.1, (getNamed? e.1 es).getD e.2)) ++ es.filter (·.1 ∉ m.map (·.1)) := by
  induction es generalizing m with
  | nil => simp [getNamed?]
  | cons e es ih =>
    obtain ⟨k, u⟩ := e
    simp only [List.map_cons, List.nodup_cons] at hes
    have hnone : getNamed? k es = none := getNamed?_eq_none_iff.mpr hes.1
    rw [List.foldl_cons, ih (nodup_putNamed hm) hes.2, names_putNamed]
    by_cases h : k ∈ m.map (·.1)
    · -- The name is there already: its value changes in place.
      rw [if_pos h, putNamed_of_mem hm h, List.map_map, List.filter_cons_of_neg (by simpa using h)]
      congr 1
      refine List.map_congr_left fun e _ => ?_
      by_cases he : e.1 = k
      · simp [he, hnone, getNamed?]
      · simp [he, getNamed?, Ne.symm he]
    · -- A new name goes to the end, before the new names that follow it.
      rw [if_neg h, putNamed_of_notMem h, List.map_append, List.append_assoc,
        List.filter_cons_of_pos (by simpa using h)]
      have hes' : ∀ e ∈ es, e.1 ≠ k := fun e he heq => hes.1 (List.mem_map.mpr ⟨e, he, heq⟩)
      have hm'' : ∀ e ∈ m, e.1 ≠ k := fun e he heq => h (List.mem_map.mpr ⟨e, he, heq⟩)
      congr 1
      · refine List.map_congr_left fun e he => ?_
        simp [getNamed?, Ne.symm (hm'' e he)]
      · simp only [List.map_cons, List.map_nil, hnone, Option.getD_none, List.singleton_append,
          List.cons.injEq, true_and]
        refine List.filter_congr fun e he => ?_
        simp [hes' e he]

/-- A mapping set on top of nothing stays what it is. -/
theorem foldl_putNamed_nil {es : List (String × α)} (hes : (es.map (·.1)).Nodup) :
    es.foldl (fun out (name, v) => putNamed name v out) [] = es := by
  rw [foldl_putNamed (m := []) List.nodup_nil hes]
  simp

/-- In a mapping set on top of another the new values count. -/
theorem getNamed?_foldl_putNamed {es : List (String × α)} (hes : (es.map (·.1)).Nodup) :
    getNamed? key (es.foldl (fun out (name, v) => putNamed name v out) m) =
      (getNamed? key es).or (getNamed? key m) := by
  induction es generalizing m with
  | nil => rfl
  | cons e es ih =>
    obtain ⟨k, u⟩ := e
    obtain ⟨hk, hes⟩ := List.nodup_cons.mp hes
    rw [List.foldl_cons, ih hes, getNamed?_putNamed, getNamed?]
    by_cases h : key = k
    · rw [if_pos h, if_pos h.symm, h, getNamed?_eq_none_iff.mpr hk]
      rfl
    · rw [if_neg h, if_neg (Ne.symm h)]

/-! ## Text keys -/

/-- A named list of values is a mapping with text keys. -/
theorem get?_map_str {es : List (String × Value)} {key : String} :
    Entries.get? (es.map fun (k, v) => (.str k, v)) key = getNamed? key es := by
  induction es with
  | nil => rfl
  | cons e es ih =>
    obtain ⟨k, v⟩ := e
    rw [List.map_cons]
    by_cases h : k = key
    · simp [Entries.get?, getNamed?, h]
    · simp [Entries.get?, getNamed?, h, ih]

theorem Entries.has_iff {es : Entries} {key : String} :
    es.has key = true ↔ .str key ∈ es.map (·.1) := by
  unfold Entries.has
  fun_induction Entries.get? es key with
  | case1 => simp
  | case2 v rest => simp
  | case3 k v rest hne ih =>
    rw [ih, List.map_cons, List.mem_cons, or_iff_right (by simpa using Ne.symm hne)]
  | case4 e rest hkey ih =>
    refine ih.trans
      ⟨List.mem_cons_of_mem _, fun h => (List.mem_cons.mp h).resolve_left fun heq => ?_⟩
    exact hkey key e.2 (Prod.ext heq.symm rfl)

theorem put_map_str {m : List (String × Value)} {value : Value} :
    Entries.put (m.map fun (k, v) => (.str k, v)) (.str name) value =
      (putNamed name value m).map fun (k, v) => (.str k, v) := by
  induction m with
  | nil => rfl
  | cons e m ih =>
    obtain ⟨k, v⟩ := e
    by_cases h : k = name
    · simp [Entries.put, putNamed, Value.sameKey, h]
    · simp [Entries.put, putNamed, Value.sameKey, h, ih]

theorem foldl_put_map_str (es done : List (String × Value)) :
    (es.map fun (k, v) => (.str k, v)).foldl (fun out (k, v) => Entries.put out k v)
        (done.map fun (k, v) => (.str k, v)) =
      (es.foldl (fun out (name, v) => putNamed name v out) done).map fun (k, v) => (.str k, v) := by
  induction es generalizing done with
  | nil => rfl
  | cons e es ih =>
    obtain ⟨name, value⟩ := e
    rw [List.map_cons, List.foldl_cons, List.foldl_cons]
    dsimp only
    rw [put_map_str, ih]

/-- Different text keys stay as they are. -/
theorem ofList_map_str {m : List (String × Value)} (hm : (m.map (·.1)).Nodup) :
    Entries.ofList (m.map fun (k, v) => (.str k, v)) = m.map fun (k, v) => (.str k, v) := by
  exact (foldl_put_map_str m []).trans (by rw [foldl_putNamed_nil hm])

/-! ## Other values -/

section OtherValues

variable {β : Type} (f : α → β)

/-- A mapping with other values under the same names. -/
def mapNamed (m : List (String × α)) : List (String × β) := m.map fun e => (e.1, f e.2)

@[simp] theorem mapNamed_nil : mapNamed f [] = [] := rfl

@[simp] theorem mapNamed_cons (e : String × α) (m : List (String × α)) :
    mapNamed f (e :: m) = (e.1, f e.2) :: mapNamed f m := rfl

theorem names_mapNamed (m : List (String × α)) : (mapNamed f m).map (·.1) = m.map (·.1) := by
  rw [mapNamed, List.map_map]
  rfl

theorem getNamed?_mapNamed (key : String) (m : List (String × α)) :
    getNamed? key (mapNamed f m) = (getNamed? key m).map f := by
  induction m with
  | nil => rfl
  | cons e m ih =>
    rw [mapNamed_cons, getNamed?, getNamed?, ih]
    split <;> rfl

theorem putNamed_mapNamed (name : String) (value : α) (m : List (String × α)) :
    putNamed name (f value) (mapNamed f m) = mapNamed f (putNamed name value m) := by
  induction m with
  | nil => rfl
  | cons e m ih =>
    rw [mapNamed_cons, putNamed, putNamed, ih]
    split <;> rfl

end OtherValues

/-! ## Order -/

theorem mem_iff_getNamed? (hm : (m.map (·.1)).Nodup) : (key, v) ∈ m ↔ getNamed? key m = some v :=
  ⟨getNamed?_of_mem hm, mem_of_getNamed?⟩

/-- Mappings with the same values under all names are the same up to the order of the names. -/
theorem perm_of_getNamed? {m' : List (String × α)} (hm : (m.map (·.1)).Nodup)
    (hm' : (m'.map (·.1)).Nodup) (h : ∀ key, getNamed? key m = getNamed? key m') : m.Perm m' := by
  refine (List.perm_ext_iff_of_nodup (.of_map _ hm) (.of_map _ hm')).mpr fun ⟨key, v⟩ => ?_
  rw [mem_iff_getNamed? hm, mem_iff_getNamed? hm', h]

/-- Two mappings have the same names, up to their order, and under each name values that are
related. -/
def SameNames {β : Type} (R : α → β → Prop) (m : List (String × α)) (m' : List (String × β)) :
    Prop :=
  ∃ ordered, m.Perm ordered ∧ List.Forall₂ (fun e f => e.1 = f.1 ∧ R e.2 f.2) ordered m'

theorem sameNames_of_mem {β : Type} {R : α → β → Prop} {m' : List (String × β)}
    (hm : (m.map (·.1)).Nodup) (hm' : (m'.map (·.1)).Nodup)
    (hnames : ∀ key, key ∈ m.map (·.1) ↔ key ∈ m'.map (·.1))
    (h : ∀ key v w, (key, v) ∈ m → (key, w) ∈ m' → R v w) : SameNames R m m' := by
  induction m' generalizing m with
  | nil =>
    obtain rfl : m = [] := by
      rw [← List.map_eq_nil_iff (f := (·.1))]
      exact List.eq_nil_iff_forall_not_mem.mpr fun key hkey => by simpa using (hnames key).mp hkey
    exact ⟨[], .refl _, .nil⟩
  | cons f m' ih =>
    obtain ⟨name, w⟩ := f
    rw [List.map_cons, List.nodup_cons] at hm'
    obtain ⟨⟨k, v⟩, hmem, hk⟩ := List.mem_map.mp ((hnames name).mpr (by simp))
    obtain rfl : k = name := hk
    obtain ⟨before, after, rfl⟩ := List.append_of_mem hmem
    have hperm : (before ++ (k, v) :: after).Perm ((k, v) :: (before ++ after)) :=
      List.perm_middle
    have hrest := (hperm.map (·.1)).nodup hm
    rw [List.map_cons, List.nodup_cons] at hrest
    -- Without the name, both mappings still have the same names.
    have hnames' (key : String) : key ∈ (before ++ after).map (·.1) ↔ key ∈ m'.map (·.1) := by
      have hkey := hnames key
      rw [(hperm.map (·.1)).mem_iff, List.map_cons, List.map_cons, List.mem_cons, List.mem_cons]
        at hkey
      by_cases heq : key = k
      · rw [heq]
        exact iff_of_false hrest.1 hm'.1
      · simpa [heq] using hkey
    obtain ⟨ordered, hordered, hrelated⟩ := ih hrest.2 hm'.2 hnames' fun key u x hu hx =>
      h key u x (hperm.mem_iff.mpr (List.mem_cons_of_mem _ hu)) (List.mem_cons_of_mem _ hx)
    exact ⟨(k, v) :: ordered, hperm.trans (hordered.cons _),
      .cons ⟨rfl, h k v w hmem List.mem_cons_self⟩ hrelated⟩

/-! ## Related items -/

/-- In lists that are related item by item, an item of the second is related to one of the first. -/
theorem exists_of_forall₂ {β : Type} {R : α → β → Prop} {xs : List α} {ys : List β} {y : β}
    (h : List.Forall₂ R xs ys) (hy : y ∈ ys) : ∃ x ∈ xs, R x y := by
  induction h with
  | nil => cases hy
  | cons hxy _ ih =>
    obtain rfl | hy := List.mem_cons.mp hy
    · exact ⟨_, List.mem_cons_self, hxy⟩
    · obtain ⟨x, hx, hxy⟩ := ih hy
      exact ⟨x, List.mem_cons_of_mem _ hx, hxy⟩

/-! ## First occurrences -/

theorem eraseDups_concat [BEq α] [LawfulBEq α] (xs : List α) (x : α) :
    (xs ++ [x]).eraseDups = if x ∈ xs then xs.eraseDups else xs.eraseDups ++ [x] := by
  rw [List.eraseDups_append]
  split <;> rename_i h <;> simp [List.removeAll, h, List.eraseDups_cons]

theorem nodup_eraseDups [BEq α] [LawfulBEq α] (xs : List α) : xs.eraseDups.Nodup := by
  induction xs using List.reverseRecOn with
  | nil => simp
  | append_singleton xs x ih =>
    rw [eraseDups_concat]
    split
    · exact ih
    · rename_i h
      exact List.nodup_append.mpr ⟨ih, by simp, by
        rintro a ha b hb rfl
        rw [List.mem_singleton.mp hb, List.mem_eraseDups] at ha
        exact h ha⟩

/-! ## Last items -/

/-- The last item of a list that has a property. -/
def IsLast (p : α → Prop) (xs : List α) (x : α) : Prop :=
  ∃ before after, xs = before ++ x :: after ∧ p x ∧ ∀ y ∈ after, ¬ p y

namespace IsLast

variable {β : Type} {p : α → Prop} {xs ys : List α} {x y : α}

theorem mem (h : IsLast p xs x) : x ∈ xs := by
  obtain ⟨before, after, rfl, -, -⟩ := h
  simp

theorem prop (h : IsLast p xs x) : p x := h.choose_spec.choose_spec.2.1

theorem concat_self (xs : List α) (h : p x) : IsLast p (xs ++ [x]) x := ⟨xs, [], rfl, h, by simp⟩

/-- Later items that do not have the property change nothing. -/
theorem append (h : IsLast p xs x) (hys : ∀ y ∈ ys, ¬ p y) : IsLast p (xs ++ ys) x := by
  obtain ⟨before, after, rfl, hx, hafter⟩ := h
  refine ⟨before, after ++ ys, by simp, hx, ?_⟩
  intro y hy
  rcases List.mem_append.mp hy with hy | hy
  · exact hafter y hy
  · exact hys y hy

theorem append_left (xs : List α) (h : IsLast p ys y) : IsLast p (xs ++ ys) y := by
  obtain ⟨before, after, rfl, hy, hafter⟩ := h
  exact ⟨xs ++ before, after, by simp, hy, hafter⟩

theorem filter {q : α → Bool} (h : IsLast p xs x) (hx : q x) : IsLast p (xs.filter q) x := by
  obtain ⟨before, after, rfl, hp, hafter⟩ := h
  refine ⟨before.filter q, after.filter q, ?_, hp, fun y hy => hafter y (List.mem_of_mem_filter hy)⟩
  rw [List.filter_append, List.filter_cons_of_pos hx]

theorem map {f : α → β} {q : β → Prop} (h : IsLast p xs x) (hf : ∀ a, q (f a) ↔ p a) :
    IsLast q (xs.map f) (f x) := by
  obtain ⟨before, after, rfl, hx, hafter⟩ := h
  refine ⟨before.map f, after.map f, by simp, (hf x).mpr hx, ?_⟩
  intro y hy
  obtain ⟨a, ha, rfl⟩ := List.mem_map.mp hy
  exact mt (hf a).mp (hafter a ha)

theorem of_concat (h : IsLast p (xs ++ [y]) x) : (x = y ∧ p y) ∨ (¬ p y ∧ IsLast p xs x) := by
  obtain ⟨before, after, heq, hx, hafter⟩ := h
  rcases List.eq_nil_or_concat after with rfl | ⟨after, z, rfl⟩
  · obtain ⟨-, hlast⟩ := List.append_inj' heq rfl
    obtain rfl := List.singleton_inj.mp hlast
    exact .inl ⟨rfl, hx⟩
  · rw [List.concat_eq_append] at heq hafter
    rw [← List.cons_append, ← List.append_assoc] at heq
    obtain ⟨rfl, hlast⟩ := List.append_inj' heq rfl
    obtain rfl := List.singleton_inj.mp hlast
    exact .inr ⟨hafter y (by simp), before, after, rfl, hx,
      fun z hz => hafter z (List.mem_append_left _ hz)⟩

theorem unique (hx : IsLast p xs x) (hy : IsLast p xs y) : x = y := by
  induction xs using List.reverseRecOn with
  | nil => exact absurd hx.mem (by simp)
  | append_singleton xs z ih =>
    rcases hx.of_concat with ⟨rfl, hz⟩ | ⟨hz, hx⟩
    · rcases hy.of_concat with ⟨rfl, -⟩ | ⟨hnot, -⟩
      · rfl
      · exact absurd hz hnot
    · rcases hy.of_concat with ⟨-, hz'⟩ | ⟨-, hy⟩
      · exact absurd hz' hz
      · exact ih hx hy

end IsLast

theorem isLast_cons {p : α → Prop} {xs : List α} {x y : α} :
    IsLast p (x :: xs) y ↔ IsLast p xs y ∨ y = x ∧ p x ∧ ∀ z ∈ xs, ¬ p z := by
  constructor
  · rintro ⟨before, after, heq, hy, hafter⟩
    cases before with
    | nil =>
      obtain ⟨rfl, rfl⟩ := List.cons.inj heq
      exact .inr ⟨rfl, hy, hafter⟩
    | cons z before =>
      obtain ⟨rfl, rfl⟩ := List.cons.inj heq
      exact .inl ⟨before, after, rfl, hy, hafter⟩
  · rintro (h | ⟨rfl, hx, hnot⟩)
    · exact h.append_left [x]
    · exact ⟨[], xs, rfl, hx, hnot⟩

theorem exists_isLast {p : α → Prop} {xs : List α} (h : ∃ x ∈ xs, p x) : ∃ x, IsLast p xs x := by
  induction xs using List.reverseRecOn with
  | nil => simp at h
  | append_singleton xs y ih =>
    by_cases hy : p y
    · exact ⟨y, .concat_self xs hy⟩
    · obtain ⟨x, hx, hp⟩ := h
      rcases List.mem_append.mp hx with hx | hx
      · obtain ⟨z, hz⟩ := ih ⟨x, hx, hp⟩
        exact ⟨z, hz.append (by simpa using hy)⟩
      · exact absurd (List.mem_singleton.mp hx ▸ hp) hy

/-! ## First items -/

/-- The first item of a list that has a property. -/
def IsFirst (p : α → Prop) (xs : List α) (x : α) : Prop :=
  ∃ before after, xs = before ++ x :: after ∧ p x ∧ ∀ y ∈ before, ¬ p y

namespace IsFirst

variable {p : α → Prop} {xs : List α} {x y : α}

theorem cons_self (xs : List α) (h : p x) : IsFirst p (x :: xs) x := ⟨[], xs, rfl, h, by simp⟩

/-- An earlier item that does not have the property changes nothing. -/
theorem cons (h : IsFirst p xs x) (hy : ¬ p y) : IsFirst p (y :: xs) x := by
  obtain ⟨before, after, rfl, hx, hbefore⟩ := h
  exact ⟨y :: before, after, rfl, hx, List.forall_mem_cons.mpr ⟨hy, hbefore⟩⟩

end IsFirst

end ApiDoc
