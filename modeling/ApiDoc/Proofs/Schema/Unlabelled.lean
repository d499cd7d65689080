import ApiDoc.Proofs.Validation.Unlabelled
import ApiDoc.Schema.NodeReader

/-!
# Validation schemas without labels

A node has values in it: those of an enumeration, a default value and an example. A tree without
labels is read as the node of the tree, in which these values are without labels.

Main statement: `Node.alike_read`.
-/

namespace ApiDoc.Node

open Value Checked

mutual

/-- A node whose values are without labels. -/
def unlabelled : Node → Node
  | ⟨kind, description, required, min, max, pattern, enum, format, defaultValue, exampleValue,
      items, properties, alternatives, additionalProperties, ref⟩ =>
    ⟨kind, description, required, min, max, pattern, enum.map (·.map Value.unlabelled), format,
      defaultValue.unlabelled, exampleValue.unlabelled, unlabelledItems items,
      unlabelledProperties properties, unlabelledAlternatives alternatives, additionalProperties,
      ref⟩

/-- The items of an array whose values are without labels. -/
def unlabelledItems : Option Node → Option Node
  | none => none
  | some n => some (unlabelled n)

/-- The parts of an object whose values are without labels. -/
def unlabelledProperties : Option (List (String × Node)) → Option (List (String × Node))
  | none => none
  | some parts => some (unlabelledNamed parts)

/-- The branches of alternatives whose values are without labels. -/
def unlabelledAlternatives : Option (List Node) → Option (List Node)
  | none => none
  | some ns => some (unlabelledList ns)

/-- Named nodes whose values are without labels. -/
def unlabelledNamed : List (String × Node) → List (String × Node)
  | [] => []
  | (name, n) :: parts => (name, unlabelled n) :: unlabelledNamed parts

def unlabelledList : List Node → List Node
  | [] => []
  | n :: ns => unlabelled n :: unlabelledList ns

end

theorem unlabelledItems_eq (n : Option Node) : unlabelledItems n = n.map unlabelled := by
  cases n <;> rfl

theorem unlabelledNamed_eq (parts : List (String × Node)) :
    unlabelledNamed parts = mapNamed unlabelled parts := by
  induction parts with
  | nil => simp [unlabelledNamed]
  | cons p parts ih => rw [unlabelledNamed, ih, mapNamed_cons]

theorem unlabelledList_eq (ns : List Node) : unlabelledList ns = ns.map unlabelled := by
  induction ns with
  | nil => simp [unlabelledList]
  | cons n ns ih => rw [unlabelledList, ih, List.map_cons]

theorem unlabelledProperties_eq (parts : Option (List (String × Node))) :
    unlabelledProperties parts = parts.map (mapNamed unlabelled) := by
  cases parts with
  | none => rfl
  | some parts => rw [unlabelledProperties, unlabelledNamed_eq, Option.map_some]

theorem unlabelledAlternatives_eq (ns : Option (List Node)) :
    unlabelledAlternatives ns = ns.map (List.map unlabelled) := by
  cases ns with
  | none => rfl
  | some ns => rw [unlabelledAlternatives, unlabelledList_eq, Option.map_some]

variable {path : List Label}

/-- The fields of a node are read alike when its parts are. -/
theorem agrees_assemble {read read' : Value → Checked Node}
    (h : Alike path (IsImage unlabelled) read read') {es : Entries} (hes : es.AreTrees path)
    (whole : Value) :
    Agrees (IsImage unlabelled) (assemble read es whole)
      (assemble read' (unlabelledEntries es) whole.unlabelled) := by
  have htext : Alike path Eq (optional text) (optional text) := alike_text.optional_eq
  have hnumber : Alike path Eq (optional number) (optional number) := alike_number.optional_eq
  unfold assemble
  rw [usedNames_unlabelled]
  refine Agrees.map (alike_text.field hes whole _) ?_
    |>.seq (htext.fieldOr hes rfl _)
    |>.seq (alike_bool.fieldOr hes rfl _)
    |>.seq (hnumber.fieldOr hes rfl _)
    |>.seq (hnumber.fieldOr hes rfl _)
    |>.seq (htext.fieldOr hes rfl _)
    |>.seq (alike_any.listOf.optional_map.fieldOr hes rfl _)
    |>.seq (htext.fieldOr hes rfl _)
    |>.seq (alike_any.fieldOr hes rfl _)
    |>.seq (alike_any.fieldOr hes rfl _)
    |>.seq (h.optional_map.fieldOr hes rfl _)
    |>.seq (h.mappingOf.optional_map.fieldOr hes rfl _)
    |>.seq (h.listOf.optional_map.fieldOr hes rfl _)
    |>.seq (alike_bool.optional_eq.fieldOr hes rfl _)
    |>.seq (htext.fieldOr hes rfl _)
    |>.seq (agrees_noExtras hes _)
  rintro kind _ rfl description _ rfl required _ rfl min _ rfl max _ rfl pattern _ rfl
    enum _ rfl format _ rfl defaultValue _ rfl exampleValue _ rfl items _ rfl properties _ rfl
    alternatives _ rfl additionalProperties _ rfl ref _ rfl _ _ rfl
  simp only [IsImage, unlabelled, unlabelledItems_eq, unlabelledProperties_eq,
    unlabelledAlternatives_eq]

/-- A tree is read as the same node, but for labels. The containers around it are other ones without
labels, but no tree asks for them. -/
theorem alike_readWithin (fuel : Nat) (path path' : List Label) :
    Alike path (IsImage unlabelled) (readWithin fuel path) (readWithin fuel path') := by
  induction fuel generalizing path path' with
  | zero => exact fun v _ => agrees_issue ..
  | succ fuel ih =>
    intro v hv
    -- A tree holds no container inside of itself, so neither reader stops at one.
    have hlabel : ¬ (v.label ≠ .none ∧ v.label ∈ path) := fun h => h.1 (hv.label_eq_none h.2)
    have hlabel' : ¬ (v.unlabelled.label ≠ .none ∧ v.unlabelled.label ∈ path') :=
      fun h => h.1 v.label_unlabelled
    rw [readWithin, readWithin, if_neg hlabel, if_neg hlabel', hv.entries?_unlabelled]
    dsimp only
    cases hentries : v.entries? with
    | none => exact agrees_issue ..
    | some es =>
      have hes := hv.areTrees hentries
      have hpart := ih (v.label :: path) (v.unlabelled.label :: path')
      rw [Option.map_some]
      dsimp only
      rw [Entries.has_unlabelled]
      split
      · exact agrees_assemble hpart hes v
      · refine Agrees.map ((agrees_mappingOf hv hpart).under _) ?_
        rintro properties _ rfl
        simp only [IsImage, unlabelled, unlabelledItems_eq, unlabelledProperties_eq,
          unlabelledAlternatives_eq]
        rfl

/-- A tree is read as the same node, but for labels. -/
theorem alike_read : Alike path (IsImage unlabelled) read read := by
  intro v hv
  unfold read
  rw [size_unlabelled hv]
  exact alike_readWithin _ [] [] v (hv.mono nofun)

end ApiDoc.Node
