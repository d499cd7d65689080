import ApiDoc.Proofs.Named
import ApiDoc.Proofs.Value.Unlabelled
import ApiDoc.Validation.Container
import ApiDoc.Validation.Report
import Mathlib.Logic.Relator

/-!
# Validation without labels

Validation looks at a label only to see whether a container is inside of itself. So a tree is read
with its labels as it is without: to the same, with issues at the same places and faults at the same
time.

**Relations.** Two results agree when they are values that are related, issues that are the same but
for labels, or the same fault (`Checked.Agrees`). What is read from a value without labels is mostly
a function of what is read from the value, and then the relation is the one that a function makes
(`Checked.IsImage`). Joining results keeps agreement, whatever the relations are, so a whole model
needs nothing but one lemma for each way of reading.
-/

namespace ApiDoc

open Value

def Issue.unlabelled (i : Issue) : Issue := { i with input := i.input.unlabelled }

/-- The text about an issue says nothing about labels. -/
theorem Issue.text_unlabelled (i : Issue) : i.unlabelled.text = i.text := by
  have hshown := shown_unlabelled i.input
  have hname := typeName_unlabelled i.input
  unfold text unlabelled
  rw [hshown, hname]

theorem Issue.report_unlabelled (model : String) (is : List Issue) :
    report model (is.map unlabelled) = report model is := by
  have htexts : (is.map unlabelled).map text = is.map text := by
    rw [List.map_map]
    exact List.map_congr_left fun i _ => i.text_unlabelled
  unfold report
  rw [htexts, List.length_map]

namespace Checked

open Relator

/-! ## Agreement -/

/-- Two results agree when their values are related. -/
inductive Agrees {α β : Type} (R : α → β → Prop) : Checked α → Checked β → Prop
  | valid {a : α} {b : β} (h : R a b) : Agrees R (valid a) (valid b)
  | invalid (i : Issue) (is : List Issue) :
    Agrees R (invalid i is) (invalid i.unlabelled (is.map Issue.unlabelled))
  | aborted (f : Fault) : Agrees R (aborted f) (aborted f)

/-- The relation that a function makes. -/
def IsImage {α β : Type} (f : α → β) (a : α) (b : β) : Prop := f a = b

variable {α β γ δ : Type} {R : α → β → Prop} {S : γ → δ → Prop} {x : Checked α} {y : Checked β}

theorem agrees_issue (kind : IssueKind) (v : Value) :
    Agrees R (issue kind v) (issue kind v.unlabelled) :=
  .invalid ⟨[], kind, v⟩ []

theorem Agrees.map {f : α → γ} {g : β → δ} (hx : Agrees R x y) (hf : (R ⇒ S) f g) :
    Agrees S (f <$> x) (g <$> y) := by
  cases hx with
  | valid h => exact .valid (hf h)
  | invalid i is => exact .invalid i is
  | aborted f => exact .aborted f

theorem Agrees.seq {f : Checked (α → γ)} {g : Checked (β → δ)} (hf : Agrees (R ⇒ S) f g)
    (hx : Agrees R x y) :
    Agrees S (f <*> x) (g <*> y) := by
  cases hf with
  | valid h => exact hx.map h
  | aborted f => exact .aborted f
  | invalid i is =>
    cases hx with
    | valid _ => exact .invalid i is
    | aborted f => exact .aborted f
    | invalid j js =>
      have hissues : (is ++ j :: js).map Issue.unlabelled =
          is.map Issue.unlabelled ++ j.unlabelled :: js.map Issue.unlabelled := by
        rw [List.map_append, List.map_cons]
      have h : Agrees S _ _ := .invalid i (is ++ j :: js)
      rwa [hissues] at h

theorem Agrees.under (hx : Agrees R x y) (step : Step) :
    Agrees R (x.under step) (y.under step) := by
  cases hx with
  | valid h => exact .valid h
  | aborted f => exact .aborted f
  | invalid i is =>
    let down (i : Issue) : Issue := { i with location := step :: i.location }
    have hissues : (is.map down).map Issue.unlabelled = (is.map Issue.unlabelled).map down := by
      rw [List.map_map, List.map_map]
      rfl
    have h : Agrees R _ _ := .invalid (down i) (is.map down)
    rwa [hissues] at h

theorem Agrees.andThen {f : α → Checked γ} {g : β → Checked δ} (hx : Agrees R x y)
    (hf : ∀ a b, R a b → Agrees S (f a) (g b)) : Agrees S (x.andThen f) (y.andThen g) := by
  cases hx with
  | valid h => exact hf _ _ h
  | invalid i is => exact .invalid i is
  | aborted f => exact .aborted f

/-! ## Scalars -/

/-- The second way reads every tree without labels as the first way reads it with them. -/
def Alike (path : List Label) (R : α → β → Prop) (read : Value → Checked α)
    (read' : Value → Checked β) : Prop :=
  ∀ v, v.IsTree path → Agrees R (read v) (read' v.unlabelled)

variable {path : List Label} {f : α → β} {read : Value → Checked α} {read' : Value → Checked β}

theorem alike_text : Alike path Eq text text := by
  intro v hv
  cases hv with
  | str s => exact .valid rfl
  | _ => exact agrees_issue ..

theorem boolNumber?_cases {v : Value} {n : Number} {r : Checked Bool}
    (h : boolNumber? v n = some r) :
    (∃ b, r = valid b) ∨ r = issue .boolParsing v := by
  unfold boolNumber? at h
  repeat' split at h
  all_goals cases h
  all_goals first | exact .inl ⟨_, rfl⟩ | exact .inr rfl

theorem alike_bool : Alike path Eq bool bool := by
  intro v hv
  cases hv with
  | bool b => exact .valid rfl
  | str s =>
    change Agrees Eq (((boolWord? s).map valid).getD (issue .boolParsing (.str s)))
      (((boolWord? s).map valid).getD (issue .boolParsing (.str s)))
    cases boolWord? s with
    | none => exact agrees_issue _ (.str s)
    | some b => exact .valid rfl
  | number n =>
    change Agrees Eq ((boolNumber? (.number n) n).getD (issue .boolType (.number n)))
      ((boolNumber? (.number n) n).getD (issue .boolType (.number n)))
    cases h : boolNumber? (.number n) n with
    | none => exact agrees_issue _ (.number n)
    | some r =>
      obtain ⟨b, rfl⟩ | rfl := boolNumber?_cases h
      · exact .valid rfl
      · exact agrees_issue _ (.number n)
  | _ => exact agrees_issue ..

theorem alike_number : Alike path Eq number number := by
  have hnot (v : Value) (integer float : IssueKind) :
      Agrees Eq (notNumber v integer float : Checked Number)
      (notNumber v.unlabelled integer float) :=
    .invalid ⟨[.name "int"], integer, v⟩ [⟨[.name "float"], float, v⟩]
  intro v hv
  cases hv with
  | bool b => exact .valid rfl
  | number n => exact .valid rfl
  | str s =>
    have hstr : (Value.str s).unlabelled = .str s := rfl
    rw [hstr]
    unfold number asText?
    dsimp only
    split
    · exact .valid rfl
    · exact .valid rfl
    · exact hnot (.str s) ..
    · exact hnot (.str s) ..
  | _ => exact hnot ..

theorem alike_any : Alike path (IsImage unlabelled) any any := fun _ _ => .valid rfl

theorem Alike.optional {Q : Option α → Option β → Prop} (h : Alike path R read read')
    (hnone : Q none none) (hsome : (R ⇒ Q) some some) :
    Alike path Q (Checked.optional read) (Checked.optional read') := by
  intro v hv
  have hread := (h v hv).map hsome
  cases hv with
  | null => exact .valid hnone
  | _ => exact hread

/-- A value that may be absent, of a kind that has no labels. -/
theorem Alike.optional_eq {read read' : Value → Checked α} (h : Alike path Eq read read') :
    Alike path Eq (Checked.optional read) (Checked.optional read') :=
  h.optional rfl fun _ _ => congrArg some

theorem Alike.optional_map (h : Alike path (IsImage f) read read') :
    Alike path (IsImage (Option.map f)) (Checked.optional read) (Checked.optional read') :=
  h.optional rfl fun _ _ => congrArg some

/-! ## Lists -/

theorem agrees_itemsFrom {vs : List Value}
    (hvs : ∀ v ∈ vs, Agrees (IsImage f) (read v) (read' v.unlabelled)) (n : Nat) :
    Agrees (IsImage (List.map f)) (itemsFrom read n vs)
      (itemsFrom read' n (unlabelledItems vs)) := by
  induction vs generalizing n with
  | nil => exact .valid rfl
  | cons v vs ih =>
    obtain ⟨hv, hvs⟩ := List.forall_mem_cons.mp hvs
    refine Agrees.seq (Agrees.map (hv.under _) ?_) (ih hvs (n + 1))
    rintro a _ rfl as _ rfl
    rfl

theorem Alike.listOf (h : Alike path (IsImage f) read read') :
    Alike path (IsImage (List.map f)) (Checked.listOf read) (Checked.listOf read') := by
  intro v hv
  unfold Checked.listOf
  rw [hv.items?_unlabelled]
  cases hitems : v.items? with
  | none => exact agrees_issue ..
  | some items =>
    exact agrees_itemsFrom (fun w hw => h w (hv.isTree_of_mem_items hitems w hw).of_cons) 0

/-- A list of what has no labels. -/
theorem Alike.listOf_eq {read read' : Value → Checked α} (h : Alike path Eq read read') :
    Alike path Eq (Checked.listOf read) (Checked.listOf read') := by
  have hid : (IsImage (List.map id) : List α → List α → Prop) = Eq := by
    funext as bs
    rw [IsImage, List.map_id]
  exact hid ▸ Alike.listOf (f := id) h

/-! ## Mappings -/

theorem agrees_namedEntries {es : Entries} (hes : es.AreTrees path)
    (h : Alike path (IsImage f) read read') :
    Agrees (IsImage (mapNamed f)) (namedEntries read es)
      (namedEntries read' (unlabelledEntries es)) := by
  induction es with
  | nil => exact .valid rfl
  | cons e es ih =>
    obtain ⟨k, v⟩ := e
    obtain ⟨⟨s, rfl⟩, hv, hes⟩ := Entries.areTrees_cons.mp hes
    have hkey : Agrees Eq (textKey (.str s)) (textKey (.str s)) := .valid rfl
    refine Agrees.seq (Agrees.seq (Agrees.map hkey ?_) ((h v hv).under _)) (ih hes)
    rintro name _ rfl a _ rfl rest _ rfl
    rfl

theorem foldl_putNamed_mapNamed (f : α → β) (es found : List (String × α)) :
    (mapNamed f es).foldl (fun found (name, a) => putNamed name a found) (mapNamed f found) =
      mapNamed f (es.foldl (fun found (name, a) => putNamed name a found) found) := by
  induction es generalizing found with
  | nil => rfl
  | cons e es ih =>
    rw [mapNamed_cons, List.foldl_cons, List.foldl_cons]
    dsimp only
    rw [putNamed_mapNamed, ih]

/-- A mapping is read alike when the values inside of it are. -/
theorem agrees_mappingOf {v : Value} (hv : v.IsTree path)
    (h : Alike (v.label :: path) (IsImage f) read read') :
    Agrees (IsImage (mapNamed f)) (Checked.mappingOf read v)
      (Checked.mappingOf read' v.unlabelled) := by
  unfold Checked.mappingOf
  rw [hv.entries?_unlabelled]
  cases hentries : v.entries? with
  | none => exact agrees_issue ..
  | some es =>
    refine (agrees_namedEntries (hv.areTrees hentries) h).map ?_
    rintro found _ rfl
    exact (foldl_putNamed_mapNamed f found []).symm

theorem Alike.mappingOf (h : Alike path (IsImage f) read read') :
    Alike path (IsImage (mapNamed f)) (Checked.mappingOf read) (Checked.mappingOf read') :=
  fun _ hv => agrees_mappingOf hv fun w hw => h w hw.of_cons

/-! ## Fields -/

theorem lookup_unlabelled (es : Entries) (names : List String) :
    lookup (unlabelledEntries es) names = (lookup es names).map fun p => (p.1, p.2.unlabelled) := by
  induction names with
  | nil => rfl
  | cons name names ih =>
    rw [lookup, lookup, Entries.get?_unlabelled]
    cases Entries.get? es name with
    | none => exact ih
    | some v => rfl

theorem isTree_of_lookup {es : Entries} (hes : es.AreTrees path) {names : List String}
    {name : String} {v : Value} (h : lookup es names = some (name, v)) : v.IsTree path := by
  induction names with
  | nil => cases h
  | cons n names ih =>
    rw [lookup] at h
    split at h
    · rename_i w hw
      cases h
      exact hes.of_get? hw
    · exact ih h

theorem usedNames_unlabelled (es : Entries) (fields : List (List String)) :
    usedNames (unlabelledEntries es) fields = usedNames es fields := by
  unfold usedNames
  simp only [lookup_unlabelled, Option.map_map, Function.comp_def]

theorem Alike.fieldOr {es : Entries} (h : Alike path R read read') (hes : es.AreTrees path) {a : α}
    {b : β} (hab : R a b) (names : List String) :
    Agrees R (fieldOr a es names read) (fieldOr b (unlabelledEntries es) names read') := by
  unfold Checked.fieldOr
  rw [lookup_unlabelled]
  cases hlookup : lookup es names with
  | none => exact .valid hab
  | some p => exact (h _ (isTree_of_lookup hes hlookup)).under _

theorem Alike.field {es : Entries} (h : Alike path R read read') (hes : es.AreTrees path)
    (whole : Value) (names : List String) :
    Agrees R (field es whole names read)
      (field (unlabelledEntries es) whole.unlabelled names read') := by
  unfold Checked.field
  rw [lookup_unlabelled]
  cases hlookup : lookup es names with
  | none => exact .invalid ⟨[.name (names.headD "")], .missing, whole⟩ []
  | some p => exact (h _ (isTree_of_lookup hes hlookup)).under _

theorem agrees_extras {es : Entries} (hes : es.AreTrees path) (used : List String) :
    Agrees (IsImage (mapNamed unlabelled)) (extras used es)
      (extras used (unlabelledEntries es)) := by
  induction es with
  | nil => exact .valid rfl
  | cons e es ih =>
    obtain ⟨k, v⟩ := e
    obtain ⟨⟨s, rfl⟩, -, hes⟩ := Entries.areTrees_cons.mp hes
    have hkey : (Value.str s).unlabelled = .str s := rfl
    rw [unlabelledEntries, hkey, extras, extras]
    split
    · exact ih hes
    · refine (ih hes).map ?_
      rintro rest _ rfl
      rfl

theorem agrees_noExtras {es : Entries} (hes : es.AreTrees path) (used : List String) :
    Agrees Eq (noExtras used es) (noExtras used (unlabelledEntries es)) := by
  induction es with
  | nil => exact .valid rfl
  | cons e es ih =>
    obtain ⟨k, v⟩ := e
    obtain ⟨⟨s, rfl⟩, -, hes⟩ := Entries.areTrees_cons.mp hes
    have hkey : (Value.str s).unlabelled = .str s := rfl
    rw [unlabelledEntries, hkey, noExtras, noExtras]
    split
    · exact ih hes
    · refine Agrees.seq (Agrees.map ((agrees_issue (R := Eq) ..).under _) ?_) (ih hes)
      rintro _ _ rfl _ _ rfl
      rfl

end Checked

end ApiDoc
