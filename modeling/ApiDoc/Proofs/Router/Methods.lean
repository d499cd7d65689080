import ApiDoc.Proofs.Validation.Checked
import ApiDoc.Router.Reader

/-!
# How methods are read

A value holds the names of methods: it is one name, or the names are what going through it gives
(`Value.HoldsNames`). They are read in lower case, one by one. A value is read as methods exactly
when it holds names, at least one, that are in lower case names of methods.

Main statement: `Method.readAll_eq_valid_iff`.
-/

namespace ApiDoc

open Checked (valid)

/-- The names that a value holds: a text is one name, and anything else is gone through. A text with
codes that are no characters holds none. -/
def Value.HoldsNames : Value → List String → Prop
  | .str s, names => names = [s]
  | .brokenText _, _ => False
  | v, names => v.iterate? = .ok (names.map .str)

namespace Method

theorem ofName?_name (m : Method) : ofName? m.name = some m := by cases m <;> rfl

theorem ofName?_eq_some_iff {s : String} {m : Method} : ofName? s = some m ↔ s = m.name := by
  constructor
  · intro h
    have hname := List.find?_some h
    exact (of_decide_eq_true hname).symm
  · rintro rfl
    exact ofName?_name m

theorem ofValue?_eq_some_iff {v : Value} {m : Method} : ofValue? v = some m ↔ v = .str m.name := by
  cases v with
  | str s => simp [ofValue?, ofName?_eq_some_iff]
  | _ => simp [ofValue?]

/-- Only a text has a text for its lower-case form. -/
theorem lowerName_eq_str_iff {v : Value} {s : String} :
    lowerName v = .ok (.str s) ↔ ∃ name, v = .str name ∧ Text.lower name = s := by
  cases v <;> simp [lowerName]

theorem mapM_lowerName_eq_iff {items : List Value} {lowered : List String} :
    items.mapM lowerName = .ok (lowered.map .str) ↔
      ∃ names : List String, items = names.map .str ∧ names.map Text.lower = lowered := by
  rw [mapM_eq_ok_iff, List.forall₂_map_right_iff]
  constructor
  · intro h
    induction h with
    | nil => exact ⟨[], rfl, rfl⟩
    | cons hv _ ih =>
      obtain ⟨name, rfl, rfl⟩ := lowerName_eq_str_iff.mp hv
      obtain ⟨names, rfl, rfl⟩ := ih
      exact ⟨name :: names, rfl, rfl⟩
  · rintro ⟨names, rfl, rfl⟩
    rw [List.forall₂_map_left_iff, List.forall₂_map_right_iff]
    exact List.forall₂_same.mpr fun name _ => rfl

/-- The lower-case forms are texts exactly when the value holds names. -/
theorem lowerNames_eq_iff {v : Value} {lowered : List String} :
    lowerNames v = .ok (lowered.map .str) ↔
      ∃ names, v.HoldsNames names ∧ names.map Text.lower = lowered := by
  -- What is no text is gone through item by item.
  have hgone {v : Value} (hcodes : v.codes? = none) :
      lowerNames v = .ok (lowered.map .str) ↔
        ∃ names : List String,
        v.iterate? = .ok (names.map .str) ∧ names.map Text.lower = lowered := by
    unfold lowerNames
    rw [hcodes]
    cases v.iterate? with
    | error f => exact iff_of_false (by rintro ⟨⟩) (by rintro ⟨names, ⟨⟩, -⟩)
    | ok items => simpa [bind, Except.bind] using mapM_lowerName_eq_iff
  cases v with
  | str s =>
    refine mapM_lowerName_eq_iff.trans (exists_congr fun names => and_congr_left fun _ => ?_)
    refine ⟨fun h => ?_, fun h : names = [s] => by rw [h]; rfl⟩
    exact List.map_injective_iff.mpr (fun _ _ => Value.str.inj) h.symm
  | brokenText codes =>
    refine iff_of_false (fun h => ?_) (by rintro ⟨names, ⟨⟩, -⟩)
    obtain ⟨names, hnames, -⟩ := mapM_lowerName_eq_iff.mp h
    obtain ⟨name, -, hname⟩ : ∃ name ∈ names, .str name = Value.brokenText codes :=
      List.mem_map.mp (hnames ▸ List.mem_singleton_self _)
    cases hname
  | _ => exact hgone rfl

theorem map_filterMap_ofValue? {names : List Value} (h : ∀ v ∈ names, (ofValue? v).isSome) :
    (names.filterMap ofValue?).map (fun m => .str m.name) = names := by
  induction names with
  | nil => rfl
  | cons v vs ih =>
    obtain ⟨hv, hvs⟩ := List.forall_mem_cons.mp h
    obtain ⟨m, hm⟩ := Option.isSome_iff_exists.mp hv
    rw [List.filterMap_cons_some hm, List.map_cons, ih hvs, ofValue?_eq_some_iff.mp hm]

theorem filterMap_ofValue?_map (ms : List Method) :
    (ms.map fun m => Value.str m.name).filterMap ofValue? = ms := by
  induction ms with
  | nil => rfl
  | cons m ms ih => rw [List.map_cons, List.filterMap_cons_some (ofValue?_eq_some_iff.mpr rfl), ih]

theorem isSome_ofValue?_of_mem_map {ms : List Method} :
    ∀ v ∈ ms.map fun m => Value.str m.name, (ofValue? v).isSome := by
  intro v hv
  obtain ⟨m, -, rfl⟩ := List.mem_map.mp hv
  rw [ofValue?_eq_some_iff.mpr rfl]
  rfl

/-- What is in lower case has to be the names of methods. -/
theorem readAll_eq_valid_of_lowerNames {v : Value} {ms : List Method} :
    readAll v = valid ms ↔ ms ≠ [] ∧ lowerNames v = .ok (ms.map fun m => .str m.name) := by
  have hunknown (names : List Value) : (names.filter fun n => (ofValue? n).isNone) = [] ↔
      ∀ v ∈ names, (ofValue? v).isSome := by
    simp [List.filter_eq_nil_iff, Option.isSome_iff_ne_none]
  unfold readAll
  cases lowerNames v with
  | error f => exact iff_of_false (by rintro ⟨⟩) (by rintro ⟨-, ⟨⟩⟩)
  | ok names =>
    dsimp only
    constructor
    · intro h
      split at h
      · rename_i hnone
        rw [hunknown] at hnone
        split at h
        · cases h
        · rename_i hsome
          cases h
          rw [map_filterMap_ofValue? hnone]
          refine ⟨fun hnil => hsome ?_, rfl⟩
          rw [← map_filterMap_ofValue? hnone, hnil]
          rfl
      · -- With a name that is not known, no methods come out, whatever the message is.
        split at h
        · cases h
        · unfold unknownNames at h
          dsimp only at h
          split at h <;> cases h
    · rintro ⟨hne, hnames⟩
      obtain rfl := Except.ok.inj hnames
      rw [(hunknown _).mpr isSome_ofValue?_of_mem_map, filterMap_ofValue?_map]
      exact if_neg (by simpa using hne)

/-- **Reading methods.** The methods are those whose names are in lower case what a value holds, one
by one, and there is at least one. -/
theorem readAll_eq_valid_iff {v : Value} {ms : List Method} :
    readAll v = valid ms ↔
    ms ≠ [] ∧ ∃ names, v.HoldsNames names ∧ names.map Text.lower = ms.map (·.name) := by
  rw [readAll_eq_valid_of_lowerNames, ← lowerNames_eq_iff, List.map_map]
  rfl

theorem gives_readAll : Checked.Gives readAll (· ≠ []) := fun _ _ h => (readAll_eq_valid_iff.mp h).1

/-- Methods are read back from their names. -/
theorem readAll_names {ms : List Method} (h : ms ≠ []) :
    readAll (.listOf (ms.map fun m => .str m.name)) = valid ms := by
  refine readAll_eq_valid_iff.mpr ⟨h, ms.map (·.name), ?_, ?_⟩
  · exact congrArg Except.ok List.map_map.symm
  · rw [List.map_map]
    exact List.map_congr_left fun m _ => by cases m <;> rfl

end Method

end ApiDoc
