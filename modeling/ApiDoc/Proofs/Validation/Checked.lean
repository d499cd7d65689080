import ApiDoc.Error
import ApiDoc.Proofs.Named
import ApiDoc.Validation.Container

/-!
# Values that are read

A reader that succeeds went through all its parts with success, and each value is made from those of
the parts. So what all values of a reader have in common (`Checked.Gives`) is found in the fields
and items that it reads. The same holds of a loop over items that may fail (`mapM_eq_ok_iff`).
-/

namespace ApiDoc

/-- A loop succeeds when every round does, and gives the results of the rounds. -/
theorem mapM_eq_ok_iff {α β ε : Type} {f : α → Except ε β} {xs : List α} {ys : List β} :
    xs.mapM f = .ok ys ↔ List.Forall₂ (fun x y => f x = .ok y) xs ys := by
  induction xs generalizing ys with
  | nil =>
    rw [List.mapM_nil, List.forall₂_nil_left_iff]
    exact ⟨fun h => (Except.ok.inj h).symm, fun h => congrArg Except.ok h.symm⟩
  | cons x xs ih =>
    rw [List.mapM_cons, List.forall₂_cons_left_iff]
    cases hx : f x with
    | error e =>
      refine iff_of_false nofun ?_
      rintro ⟨y, zs, hy, -⟩
      cases hy
    | ok y =>
      simp only [← ih, Except.ok.injEq, exists_eq_left', exists_and_left]
      cases xs.mapM f with
      | error e => exact iff_of_false nofun fun ⟨zs, hzs, _⟩ => by cases hzs
      | ok zs => simp [bind, Except.bind, pure, Except.pure, eq_comm]

namespace Checked

variable {α β : Type} {P : α → Prop} {read : Value → Checked α}

theorem map_eq_valid {f : α → β} {x : Checked α} {b : β} :
    f <$> x = valid b ↔ ∃ a, x = valid a ∧ f a = b := by
  cases x <;> simp [Functor.map, map]

theorem apply_eq_valid {f : Checked (α → β)} {x : Checked α} {b : β} :
    f <*> x = valid b ↔ ∃ g a, f = valid g ∧ x = valid a ∧ g a = b := seq_eq_valid

theorem under_eq_valid {step : Step} {x : Checked α} {a : α} :
    x.under step = valid a ↔ x = valid a := by
  cases x <;> simp [under]

theorem toExcept_eq_ok_iff {part : Section} {x : Checked α} {a : α} :
    x.toExcept part = .ok a ↔ x = valid a := by
  cases x <;> simp [toExcept]

/-- A result has a property, if there is one. -/
def Ensures (x : Checked α) (P : α → Prop) : Prop := ∀ a, x = valid a → P a

theorem ensures_issue (kind : IssueKind) (v : Value) : (issue kind v : Checked α).Ensures P :=
  fun _ h => by cases h

namespace Ensures

variable {f : Checked (α → β)} {x : Checked α} {Q : β → Prop}

theorem map {g : α → β} (h : x.Ensures fun a => Q (g a)) : (g <$> x).Ensures Q := fun b hb => by
  obtain ⟨a, ha, rfl⟩ := map_eq_valid.mp hb
  exact h a ha

theorem seq (hx : x.Ensures P) (hf : f.Ensures fun g => ∀ a, P a → Q (g a)) :
    (f <*> x).Ensures Q := fun b hb => by
  obtain ⟨g, a, hg, ha, rfl⟩ := apply_eq_valid.mp hb
  exact hf g hg a (hx a ha)

/-- A field that does not matter for the property. -/
theorem skip (hf : f.Ensures fun g => ∀ a, Q (g a)) : (f <*> x).Ensures Q := fun b hb => by
  obtain ⟨g, a, hg, -, rfl⟩ := apply_eq_valid.mp hb
  exact hf g hg a

end Ensures

/-- All values that are read have a property. -/
def Gives (read : Value → Checked α) (P : α → Prop) : Prop := ∀ v a, read v = valid a → P a

theorem Gives.and {Q : α → Prop} (hP : Gives read P) (hQ : Gives read Q) :
    Gives read fun a => P a ∧ Q a := fun v a h => ⟨hP v a h, hQ v a h⟩

theorem Gives.fieldOr (hread : Gives read P) {default : α} {es : Entries} {names : List String}
    (hdefault : P default) : (fieldOr default es names read).Ensures P := by
  unfold Checked.fieldOr
  split
  · exact fun a h => hread _ a (under_eq_valid.mp h)
  · intro a h
    cases h
    exact hdefault

theorem Gives.field (hread : Gives read P) {es : Entries} {whole : Value} {names : List String} :
    (field es whole names read).Ensures P := by
  unfold Checked.field
  split
  · exact fun a h => hread _ a (under_eq_valid.mp h)
  · nofun

theorem Gives.optional (hread : Gives read P) :
    Gives (optional read) fun o => ∀ a, o = some a → P a := by
  rintro v o h a rfl
  unfold Checked.optional at h
  split at h
  · cases h
  · have hmap : some <$> read _ = valid (some a) := h
    obtain ⟨b, hb, heq⟩ := map_eq_valid.mp hmap
    exact Option.some.inj heq ▸ hread _ _ hb

theorem Gives.itemsFrom (hread : Gives read P) {n : Nat} {vs : List Value} {as : List α}
    (h : itemsFrom read n vs = valid as) : ∀ a ∈ as, P a := by
  induction vs generalizing n as with
  | nil =>
    cases h
    simp
  | cons v vs ih =>
    obtain ⟨g, rest, hg, hrest, rfl⟩ := apply_eq_valid.mp h
    obtain ⟨a, ha, rfl⟩ := map_eq_valid.mp hg
    exact List.forall_mem_cons.mpr ⟨hread _ _ (under_eq_valid.mp ha), ih hrest⟩

/-- The items of a list that is read are read one by one. -/
theorem map_read_of_itemsFrom {n : Nat} {vs : List Value} {as : List α}
    (h : itemsFrom read n vs = valid as) : vs.map read = as.map valid := by
  induction vs generalizing n as with
  | nil =>
    cases h
    rfl
  | cons v vs ih =>
    obtain ⟨g, rest, hg, hrest, rfl⟩ := apply_eq_valid.mp h
    obtain ⟨a, ha, rfl⟩ := map_eq_valid.mp hg
    rw [List.map_cons, under_eq_valid.mp ha, ih hrest, List.map_cons]

theorem Gives.listOf (hread : Gives read P) : Gives (listOf read) fun as => ∀ a ∈ as, P a := by
  intro v as h
  unfold Checked.listOf at h
  split at h
  · exact hread.itemsFrom h
  · cases h

theorem Gives.namedEntries (hread : Gives read P) {es : List (Value × Value)}
    {m : List (String × α)} (h : namedEntries read es = valid m) : ∀ e ∈ m, P e.2 := by
  induction es generalizing m with
  | nil =>
    cases h
    simp
  | cons e es ih =>
    obtain ⟨g, rest, hg, hrest, rfl⟩ := apply_eq_valid.mp h
    obtain ⟨f, a, hf, ha, rfl⟩ := apply_eq_valid.mp hg
    obtain ⟨key, -, rfl⟩ := map_eq_valid.mp hf
    exact List.forall_mem_cons.mpr ⟨hread _ _ (under_eq_valid.mp ha), ih hrest⟩

theorem Gives.mappingOf (hread : Gives read P) :
    Gives (mappingOf read) fun m => ∀ e ∈ m, P e.2 := by
  intro v m h
  unfold Checked.mappingOf at h
  split at h
  · obtain ⟨es, hes, rfl⟩ := map_eq_valid.mp h
    exact forall_mem_foldl_putNamed nofun (hread.namedEntries hes)
  · cases h

/-- The names of a mapping that is read are different. -/
theorem gives_mappingOf (read : Value → Checked α) :
    Gives (mappingOf read) fun m => (m.map (·.1)).Nodup := by
  intro v m h
  unfold mappingOf at h
  split at h
  · obtain ⟨es, -, rfl⟩ := map_eq_valid.mp h
    exact nodup_foldl_putNamed es (by simp)
  · cases h

end Checked

end ApiDoc
