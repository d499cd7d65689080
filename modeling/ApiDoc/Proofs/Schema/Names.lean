import ApiDoc.Proofs.Validation.Checked
import ApiDoc.Schema.NodeReader

/-!
# Names of parts

The parts of a node are a mapping, so no two of them have the same name. In a node that is read this
holds of all nodes inside, whether their kinds use them or not (`Node.Proper`): an induction over
the levels that are read, with one lemma about the fields of one node.

Main statement: `Node.gives_proper`.
-/

namespace ApiDoc.Node

/-- No two parts have the same name, in a node and in all nodes inside of it. -/
inductive Proper : Node → Prop
  | intro {n : Node} (items : ∀ m, n.items = some m → Proper m)
      (names : ∀ parts, n.properties = some parts → (parts.map (·.1)).Nodup)
      (properties : ∀ parts, n.properties = some parts → ∀ part ∈ parts, Proper part.2)
      (alternatives : ∀ branches, n.alternatives = some branches → ∀ m ∈ branches, Proper m) :
        Proper n

theorem ensures_proper_assemble {read : Value → Checked Node} (hread : Checked.Gives read Proper)
    (es : Entries) (v : Value) : (assemble read es v).Ensures Proper := by
  have hitems {names : List String} :
      (Checked.fieldOr none es names (Checked.optional read)).Ensures
        fun items => ∀ m, items = some m → m.Proper := hread.optional.fieldOr (by simp)
  have hproperties {names : List String} :
      (Checked.fieldOr none es names (Checked.optional (Checked.mappingOf read))).Ensures
        fun properties => ∀ parts, properties = some parts →
          (parts.map (·.1)).Nodup ∧ ∀ part ∈ parts, part.2.Proper :=
    ((Checked.gives_mappingOf read).and hread.mappingOf).optional.fieldOr (by simp)
  have halternatives {names : List String} :
      (Checked.fieldOr none es names (Checked.optional (Checked.listOf read))).Ensures
        fun alternatives => ∀ branches, alternatives = some branches → ∀ m ∈ branches, m.Proper :=
    hread.listOf.optional.fieldOr (by simp)
  unfold assemble
  -- Three fields come after the parts, and nine before them beside the kind.
  iterate 3 refine Checked.Ensures.skip ?_
  refine .seq halternatives (.seq hproperties (.seq hitems ?_))
  iterate 9 refine Checked.Ensures.skip ?_
  refine Checked.Ensures.map fun kind _ => ?_
  intro _ _ _ _ _ _ _ _ _ items hitems properties hproperties alternatives halternatives _ _ _
  exact .intro hitems (fun parts h => (hproperties parts h).1)
    (fun parts h => (hproperties parts h).2) halternatives

theorem gives_proper_readWithin (fuel : Nat) (path : List Label) :
    Checked.Gives (readWithin fuel path) Proper := by
  induction fuel generalizing path with
  | zero => exact Checked.ensures_issue _
  | succ fuel ih =>
    intro v n h
    unfold readWithin at h
    split at h
    · cases h
    · dsimp only at h
      split at h
      · cases h
      · split at h
        · -- A mapping with a kind is a node; one without is the map of members of an object.
          exact ensures_proper_assemble (ih _) _ _ n h
        · obtain ⟨properties, hproperties, rfl⟩ := Checked.map_eq_valid.mp h
          have hread := Checked.under_eq_valid.mp hproperties
          refine .intro nofun (fun parts hparts => ?_) (fun parts hparts => ?_) nofun
          · obtain rfl := Option.some.inj hparts
            exact Checked.gives_mappingOf _ _ _ hread
          · obtain rfl := Option.some.inj hparts
            exact (ih _).mappingOf _ _ hread

/-- **Every node that is read** is proper. -/
theorem gives_proper : Checked.Gives read Proper := fun v => gives_proper_readWithin _ _ v

end ApiDoc.Node
