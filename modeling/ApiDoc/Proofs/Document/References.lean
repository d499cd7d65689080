import Mathlib.Data.List.TakeWhile
import ApiDoc.Proofs.Document.Positions

/-!
# References of finished documents

A pointer is resolved by a document when it is `#/definitions/N`, or that followed by a further
`/...`, and `N` is the name of a definition (`Document.Resolves`). The check of a draft looks at
what the search finds and at what was recorded. The search finds only what was recorded, so the
recorded pointers alone decide whether the check succeeds; the search only decides which pointer is
reported.

Main statements:

- `Api.resolves_of_generate`: every reference at a schema position of a finished document is
  resolved, also where the search does not look;
- `Api.generate_of_draft`: the search finds recorded pointers only, the check fails exactly when a
  recorded pointer is not resolved, and it reports the first such pointer.
-/

namespace ApiDoc

/-! ## Targets of pointers -/

namespace References

theorem takeWhile_eq_iff {cs name : List Char} :
    cs.takeWhile (· ≠ '/') = name ↔
      '/' ∉ name ∧ ∃ rest, cs = name ++ rest ∧ (rest = [] ∨ ∃ tail, rest = '/' :: tail) := by
  constructor
  · rintro rfl
    refine ⟨fun h => by simpa using List.mem_takeWhile_imp h, cs.dropWhile (· ≠ '/'),
      List.takeWhile_append_dropWhile.symm, ?_⟩
    have hhead := List.head?_dropWhile_not (· ≠ '/') cs
    cases hrest : cs.dropWhile (· ≠ '/') with
    | nil => exact .inl rfl
    | cons c tail =>
      rw [hrest] at hhead
      exact .inr ⟨tail, by simpa using hhead⟩
  · rintro ⟨hname, rest, rfl, hrest⟩
    rw [List.takeWhile_append_of_pos fun c hc => by
      simpa using fun heq : c = '/' => hname (heq ▸ hc)]
    rcases hrest with rfl | ⟨tail, rfl⟩ <;> simp

theorem toList_pointer (name rest : String) :
    ("#/definitions/" ++ name ++ rest).toList =
      definitionsPrefix ++ (name.toList ++ rest.toList) := by
  unfold definitionsPrefix
  rw [String.toList_append, String.toList_append, List.append_assoc]

theorem toList_slash (tail : String) : ("/" ++ tail).toList = '/' :: tail.toList := by
  rw [String.toList_append, show "/".toList = ['/'] by decide, List.singleton_append]

/-- A pointer to a definition, with something behind it, character by character. -/
theorem exists_rest_iff {p name : String} :
    (∃ rest, p = "#/definitions/" ++ name ++ rest ∧ (rest = "" ∨ ∃ tail, rest = "/" ++ tail)) ↔
      ∃ cs, p.toList = definitionsPrefix ++ cs ∧
        ∃ rest, cs = name.toList ++ rest ∧ (rest = [] ∨ ∃ tail, rest = '/' :: tail) := by
  constructor
  · rintro ⟨rest, rfl, hrest⟩
    refine ⟨_, toList_pointer name rest, rest.toList, rfl, ?_⟩
    rcases hrest with rfl | ⟨tail, rfl⟩
    · exact .inl String.toList_empty
    · exact .inr ⟨tail.toList, toList_slash tail⟩
  · rintro ⟨cs, hp, rest, rfl, hrest⟩
    refine ⟨.ofList rest, ?_, ?_⟩
    · rw [← String.toList_inj, hp, toList_pointer, String.toList_ofList]
    · rcases hrest with rfl | ⟨tail, rfl⟩
      · exact .inl String.ofList_nil
      · refine .inr ⟨.ofList tail, ?_⟩
        rw [← String.toList_inj, toList_slash, String.toList_ofList, String.toList_ofList]

/-- The name that a pointer to a definition has. -/
theorem target_eq_ok_iff {p name : String} :
    target p.toList = .ok name ↔
      '/' ∉ name.toList ∧ ∃ rest, p = "#/definitions/" ++ name ++ rest ∧
        (rest = "" ∨ ∃ tail, rest = "/" ++ tail) := by
  rw [exists_rest_iff]
  unfold target
  split
  · rename_i hprefix
    obtain ⟨cs, hcs⟩ := List.isPrefixOf_iff_prefix.mp hprefix
    rw [← hcs, List.drop_left, Except.ok.injEq, ← String.toList_inj, String.toList_ofList,
      takeWhile_eq_iff]
    simp
  · rename_i hprefix
    simp only [reduceCtorEq, false_iff, not_and]
    rintro - ⟨cs, hcs, -⟩
    exact hprefix (List.isPrefixOf_iff_prefix.mpr ⟨cs, hcs.symm⟩)

/-- A pointer to a definition with a property, in terms of the name that the pointer has. -/
theorem exists_target_iff {p : String} {P : String → Prop} :
    (∃ name rest, p = "#/definitions/" ++ name ++ rest ∧ '/' ∉ name.toList ∧
      (rest = "" ∨ ∃ tail, rest = "/" ++ tail) ∧ P name) ↔
      ∃ name, target p.toList = .ok name ∧ P name := by
  simp only [target_eq_ok_iff]
  constructor
  · rintro ⟨name, rest, hp, hname, hrest, h⟩
    exact ⟨name, ⟨hname, rest, hp, hrest⟩, h⟩
  · rintro ⟨name, ⟨hname, rest, hp, hrest⟩, h⟩
    exact ⟨name, rest, hp, hname, hrest, h⟩

/-- What a pointer is reported to name: the definition, or what follows the first two characters. -/
def named (p : String) : String :=
  match target p.toList with
  | .ok name => name
  | .error rest => rest

/-- The check of one pointer: one that does not lead to a definition is reported with what it
names. -/
theorem checkPointer_of_hasMember {definitions : Value} {p : String} {P : String → Prop}
    [DecidablePred P] {Leads : Prop} [Decidable Leads]
    (hmember : ∀ name, hasMember definitions name = .ok (decide (P name)))
    (hleads : Leads ↔ ∃ name, target p.toList = .ok name ∧ P name) (hp : IsLocal p) :
    checkPointer definitions p = if Leads then .ok () else .error (.dangling (named p) p) := by
  have hhead : ¬ p.toList.head? ≠ some '#' := not_not_intro hp
  unfold checkPointer named
  rw [if_neg hhead]
  by_cases h : Leads
  · obtain ⟨name, htarget, hname⟩ := hleads.mp h
    simp only [htarget, hmember, hname, decide_true, if_pos h]
  · rw [if_neg h]
    cases htarget : target p.toList with
    | error rest => rfl
    | ok name =>
      have hname : ¬ P name := fun hname => h (hleads.mpr ⟨name, htarget, hname⟩)
      simp only [hmember, hname, decide_false]

/-- A loop of checks stops at the first item that fails. -/
theorem forM_eq_find? {α ε : Type} {P : α → Prop} [DecidablePred P] {check : α → Except ε Unit}
    {error : α → ε} {xs : List α}
    (hcheck : ∀ x ∈ xs, check x = if P x then .ok () else .error (error x)) :
    xs.forM check = (xs.find? (¬ P ·)).elim (.ok ()) fun x => .error (error x) := by
  induction xs with
  | nil => rfl
  | cons x xs ih =>
    obtain ⟨hx, hxs⟩ := List.forall_mem_cons.mp hcheck
    have hstep : (x :: xs).forM check = check x >>= fun _ => xs.forM check := rfl
    rw [hstep, hx, List.find?_cons]
    by_cases hP : P x
    · rw [if_pos hP, decide_eq_false (not_not_intro hP)]
      exact ih hxs
    · rw [if_neg hP, decide_eq_true hP]
      rfl

end References

/-! ## Resolved pointers -/

namespace Document

variable {d : Document} {p : String}

/-- A pointer is `#/definitions/N`, or that and a further path, for the name `N` of a definition. -/
def Resolves (d : Document) (p : String) : Prop :=
  ∃ name rest, p = "#/definitions/" ++ name ++ rest ∧ '/' ∉ name.toList ∧
    (rest = "" ∨ ∃ tail, rest = "/" ++ tail) ∧ name ∈ d.definitions.map (·.1)

theorem resolves_iff :
    d.Resolves p ↔
      ∃ name, References.target p.toList = .ok name ∧ name ∈ d.definitions.map (·.1) :=
  References.exists_target_iff

instance (d : Document) (p : String) : Decidable (d.Resolves p) :=
  match htarget : References.target p.toList with
  | .ok name =>
    decidable_of_iff (name ∈ d.definitions.map (·.1)) (by
      rw [resolves_iff, htarget]
      exact ⟨fun h => ⟨name, rfl, h⟩, fun ⟨_, heq, h⟩ => Except.ok.inj heq ▸ h⟩)
  | .error _ => .isFalse (by rw [resolves_iff, htarget]; simp)

theorem hasMember_definitionsValue (d : Document) (name : String) :
    References.hasMember d.definitionsValue name =
      .ok (decide (name ∈ d.definitions.map (·.1))) := by
  unfold definitionsValue Value.object References.hasMember Entries.has
  dsimp only
  rw [get?_map_str, Except.ok.injEq, Bool.eq_iff_iff, isSome_getNamed?_iff, List.map_map,
    decide_eq_true_iff]
  rfl

/-- The check of one pointer: a pointer that is not resolved is reported with what it names. -/
theorem checkPointer_eq (hp : IsLocal p) :
    References.checkPointer d.definitionsValue p =
      if d.Resolves p then .ok () else .error (.dangling (References.named p) p) :=
  References.checkPointer_of_hasMember (hasMember_definitionsValue d) resolves_iff hp

/-- **The check of a draft** stops at the first pointer that is not resolved. -/
theorem check_eq {ps : List String} (hfound : ∀ p ∈ References.inDocument d.entries, IsLocal p)
    (hps : ∀ p ∈ ps, IsLocal p) :
    References.check d.toValue ps =
      match (References.inDocument d.entries ++ ps).find? (¬ d.Resolves ·) with
      | none => .ok ()
      | some p => .error (.dangling (References.named p) p) := by
  rw [toValue_eq, References.check, sectionOf_definitions]
  have hlocal := List.forall_mem_append.mpr ⟨hfound, hps⟩
  rw [References.forM_eq_find? fun p hp => checkPointer_eq (hlocal p hp)]
  cases (References.inDocument d.entries ++ ps).find? (¬ d.Resolves ·) <;> rfl

end Document

/-! ## Finished documents -/

namespace Work

variable {config : DocumentConfig} {options : Options} {routes : List Route} {d : Document}
  {t : Session}

/-- **The search finds recorded pointers**, and nothing but references at schema positions. -/
theorem recorded_of_search (h : Run (draft config options routes) {} d t) {p : String}
    (hp : p ∈ References.inDocument d.entries) :
    p ∈ t.registry.pointers ∧ ∃ w, d.toValue.DocumentSchema w ∧ w.Has "$ref" (.str p) := by
  have hrefers := references_of_draft h
  obtain ⟨w, hw, href⟩ := Document.documentSchema_of_search hrefers hp
  obtain ⟨s, hwritten, hs⟩ := Document.writes_of_documentSchema hrefers hw
  obtain ⟨q, hq, heq⟩ := hwritten.ref hs href
  exact ⟨Value.str.inj heq ▸ hq, w, hw, href⟩

theorem check_of_draft (h : Run (draft config options routes) {} d t) :
    References.check d.toValue t.registry.pointers =
      match (References.inDocument d.entries ++ t.registry.pointers).find? (¬ d.Resolves ·) with
      | none => .ok ()
      | some p => .error (.dangling (References.named p) p) := by
  have hlocal : t.Local := local_of_draft h (by simp [Session.Local])
  exact Document.check_eq (fun p hp => hlocal p (recorded_of_search h hp).1) hlocal

end Work

/-! A response whose schema refers to a definition in its second branch only. The search does not
look there. -/

namespace Api.Sample

def config : DocumentConfig :=
  { info := [], basePath := "/", definitions := [("A", { kind := "string" })] }

/-- A value of two kinds, one of which is defined. -/
def node : Node :=
  { kind := "alternatives"
    alternatives := some [{ kind := "integer" }, { kind := "any", ref := some "A" }] }

def route : Route := { method := .get, path := "/a", outputs := [("200", { body := some node })] }

def schema : Schema := [.type .integer, .branches [[.type .integer], [.ref "#/definitions/A"]]]

def operation : Operation where
  info := {}
  consumes := none
  parameters := []
  responses := [("200", { description := "OK", schema := some schema })]

def document : Document where
  swagger := "2.0"
  info := []
  basePath := "/"
  paths := [("/a", [("get", operation)])]
  definitions := [("A", [.type .string])]
  tags := []
  extra := []

theorem documentSchema :
    ∃ w, document.toValue.DocumentSchema w ∧ w.Has "$ref" (.str "#/definitions/A") := by
  have hresponse (at_ : Place) : (operation.toValueAt at_).OperationSchema
      (schema.toValueAt ("schema" :: "200" :: "responses" :: at_)) :=
    .response (Value.has_object.mpr (.tail _ (.head _))) (Value.has_object.mpr (.head _))
      (Value.has_object.mpr (.tail _ (.head _)))
  have hbranch (at_ : Place) :
      ∃ w, (schema.toValueAt at_).SchemaIn w ∧ w.Has "$ref" (.str "#/definitions/A") :=
    ⟨_, .alternative ⟨_, _, rfl, .tail _ (.head _)⟩ ⟨_, _, rfl, .tail _ (.head _)⟩ (.self _),
      ⟨_, _, rfl, .head _⟩⟩
  obtain ⟨w, hw, href⟩ := hbranch _
  exact ⟨w, .operation (Document.has_paths.mpr rfl) (Value.has_object.mpr (.head _))
    (Value.has_object.mpr (.head _)) (hresponse _) hw, href⟩

end Api.Sample

namespace Api

variable {config : DocumentConfig} {options : Options} {routes : List Route} {d : Document}

/-- **Errors about references.** A draft is finished unless one of its references is not resolved,
and then the first one of those that are found or recorded is reported. All that the search finds
are recorded references at schema positions. -/
theorem generate_of_draft {t : Session} (h : Work.Run (Work.draft config options routes) {} d t) :
    (∀ p ∈ References.inDocument d.entries,
      p ∈ t.registry.pointers ∧ ∃ w, d.toValue.DocumentSchema w ∧ w.Has "$ref" (.str p)) ∧
    ((∃ name p, ((Api.mk routes).generate config options).1 = .error (.dangling name p)) ↔
      ∃ p ∈ t.registry.pointers, ¬ d.Resolves p) ∧
    ((Api.mk routes).generate config options).1 =
      match (References.inDocument d.entries ++ t.registry.pointers).find? (¬ d.Resolves ·) with
      | none => .ok d
      | some p => .error (.dangling (References.named p) p) := by
  have hfound := fun p hp => Work.recorded_of_search h (p := p) hp
  have hresult : ((Api.mk routes).generate config options).1 =
      match (References.inDocument d.entries ++ t.registry.pointers).find? (¬ d.Resolves ·) with
      | none => .ok d
      | some p => .error (.dangling (References.named p) p) := by
    rw [generate_eq, Work.exec_document, h]
    dsimp only
    rw [Work.check_of_draft h]
    cases (References.inDocument d.entries ++ t.registry.pointers).find? (¬ d.Resolves ·) <;> rfl
  refine ⟨hfound, ?_, hresult⟩
  rw [hresult]
  constructor
  · rintro ⟨name, p, herror⟩
    split at herror
    · cases herror
    · -- What the search finds is recorded too.
      rename_i q hq
      have hmem := List.mem_of_find?_eq_some hq
      have hnot := List.find?_some hq
      rcases List.mem_append.mp hmem with hmem | hmem
      · exact ⟨q, (hfound q hmem).1, by simpa using hnot⟩
      · exact ⟨q, hmem, by simpa using hnot⟩
  · rintro ⟨p, hp, hnot⟩
    split
    · rename_i hnone
      have hall := List.find?_eq_none.mp hnone p (List.mem_append_right _ hp)
      exact absurd hnot (by simpa using hall)
    · exact ⟨_, _, rfl⟩

theorem generate_of_draft_sample :
    ∃ d t, Work.Run (Work.draft { Sample.config with definitions := [] } {} [Sample.route]) {} d t ∧
      References.inDocument d.entries = [] ∧
      ((Api.mk [Sample.route]).generate { Sample.config with definitions := [] } {}).1 =
        .error (.dangling "A" "#/definitions/A") := by
  have h : Work.Run (Work.draft { Sample.config with definitions := [] } {} [Sample.route]) {}
      { Sample.document with definitions := [] } _ := rfl
  refine ⟨_, _, h, rfl, ?_⟩
  exact (generate_of_draft h).2.2.trans rfl

/-- **References of a finished document.** Under `$ref` at a schema position there is a pointer that
the document resolves. -/
theorem resolves_of_generate {notices : List Notice} {w r : Value}
    (h : (Api.mk routes).generate config options = (.ok d, notices))
    (hw : d.toValue.DocumentSchema w) (hr : w.Has "$ref" r) : ∃ p, r = .str p ∧ d.Resolves p := by
  obtain ⟨t, hdraft, hcheck, -⟩ := draft_of_generate h
  obtain ⟨s, hwritten, hs⟩ := Document.writes_of_documentSchema (Work.references_of_draft hdraft) hw
  obtain ⟨p, hp, rfl⟩ := hwritten.ref hs hr
  refine ⟨p, rfl, ?_⟩
  rw [Work.check_of_draft hdraft] at hcheck
  split at hcheck
  · rename_i hnone
    simpa using List.find?_eq_none.mp hnone p (List.mem_append_right _ hp)
  · cases hcheck

theorem resolves_of_generate_sample :
    ∃ notices w,
      (Api.mk [Sample.route]).generate Sample.config {} = (.ok Sample.document, notices) ∧
      Sample.document.toValue.DocumentSchema w ∧ w.Has "$ref" (.str "#/definitions/A") ∧
      ∃ p, Value.str "#/definitions/A" = .str p ∧ Sample.document.Resolves p := by
  obtain ⟨w, hw, href⟩ := Sample.documentSchema
  have h : (Api.mk [Sample.route]).generate Sample.config {} = (.ok Sample.document, _) := rfl
  exact ⟨_, w, h, hw, href, resolves_of_generate h hw href⟩

end Api

end ApiDoc
