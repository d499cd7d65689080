import ApiDoc.Proofs.Operation.Recorded
import ApiDoc.Proofs.Schema.Referenced
import ApiDoc.Proofs.Schema.Visits

/-!
# Registries in use

A registry is used again and again, for the schema of a node or of a given reference
(`Registry.Use`). What one use meets is known from its way: the references up to the first fault, in
depth-first order. After any uses, also such that fail midway, the registry holds the pointers of
everything that was met, each at its first occurrence (`Registry.registry_run`, from the lemma for
one use `registry_exec`). So it holds no pointer twice and only grows at its end.

Main statement: `Registry.pointers_run`. It says too that the references of the schema that a use
gives are exactly those that the use has met.
-/

namespace ApiDoc

/-- A pointer leads into the document. -/
theorem prefix_pointerTo (ref : String) : ['#', '/'] <+: (pointerTo ref).toList := by
  unfold pointerTo
  split
  · rename_i h
    exact List.isPrefixOf_iff_prefix.mp h
  · have hname : "#/definitions/".toList = ['#', '/'] ++ "definitions/".toList := by decide
    rw [String.toList_append, hname, List.append_assoc]
    exact List.prefix_append _ _

/-! ## Recording -/

theorem prefix_eraseDups_append (xs ys : List String) :
    xs.eraseDups <+: (xs ++ ys).eraseDups := by
  rw [List.eraseDups_append]
  exact List.prefix_append _ _

namespace Registry

theorem recordAll_append (r : Registry) (refs more : List String) :
    r.recordAll (refs ++ more) = (r.recordAll refs).recordAll more := List.foldl_append

/-- **Recording** keeps the first occurrences of pointers. -/
theorem pointers_recordAll (refs : List String) :
    (recordAll {} refs).pointers = (refs.map pointerTo).eraseDups := by
  induction refs using List.reverseRecOn with
  | nil => rfl
  | append_singleton refs r ih =>
    rw [recordAll_append, List.map_append, List.map_singleton, eraseDups_concat, ← ih]
    show (record _ r).pointers = _
    unfold record
    have hmem : pointerTo r ∈ (recordAll {} refs).pointers ↔ pointerTo r ∈ refs.map pointerTo := by
      rw [ih, List.mem_eraseDups]
    by_cases h : pointerTo r ∈ refs.map pointerTo
    · simp [hmem, h]
    · simp [hmem, h]

end Registry

namespace Session

theorem registry_after_record (s : Session) (refs : List String) :
    (s.after (refs.map .record)).registry = s.registry.recordAll refs := by
  induction refs generalizing s with
  | nil => rfl
  | cons r refs ih => exact ih (s.apply (.record r))

end Session

namespace Work

theorem exec_recordAll (refs : List String) (s : Session) :
    exec (refs.forM record) s = (.ok (), s.after (refs.map .record)) := by
  induction refs generalizing s with
  | nil => rfl
  | cons r refs ih =>
    have hstep : exec ((r :: refs).forM record) s = exec (refs.forM record) (s.apply (.record r)) :=
      exec_bind (record r) (fun _ => refs.forM record) s
    rw [hstep, ih]
    rfl

/-- A translation records what it has met, whether it fails or not. -/
theorem registry_ofTranslation {α : Type} (t : Translation α) (s : Session) :
    (exec (ofTranslation t) s).2.registry = s.registry.recordAll t.refs := by
  rw [← s.registry_after_record, ofTranslation, exec_bind, exec_recordAll]
  cases t.result <;> rfl

end Work

namespace Registry

open Node (visits)

/-! ## Uses -/

/-- One use of a registry: for a node with a reference that can be given in its place, or for a node
itself. A node that is not there makes the use fail. -/
inductive Use where
  | resolve (node : Option Node) (ref : Option String)
  | inline (node : Option Node)

namespace Use

def work : Use → Work Schema
  | resolve node ref => Work.resolve node ref
  | inline node => Work.inline node

/-- The way of a use: a reference that is given and not empty stands for the node. -/
def way : Use → List Visit
  | resolve node ref =>
    match ref.filter fun r => !r.isEmpty with
    | some r => [.tag r]
    | none => (node.map (visits true)).getD []
  | inline node => (node.map (visits false)).getD []

/-- The references that a use meets, up to its failure if it fails. -/
def met (u : Use) : List String := Visit.met u.way

/-- A use goes its way: it is the translation of a node, or it has no node to translate. -/
theorem work_cases (u : Use) :
    (∃ n tagged, u.work = Work.ofTranslation (Node.translateTagged referenceTo tagged n) ∧
        u.way = n.visits tagged) ∨
      (∃ e, u.work = throw e) ∧ u.way = [] := by
  have htranslated (node : Option Node) :
      (∃ n tagged, Work.resolve node none =
          Work.ofTranslation (Node.translateTagged referenceTo tagged n) ∧
        (node.map (visits true)).getD [] = n.visits tagged) ∨
      (∃ e, Work.resolve node none = throw e) ∧ (node.map (visits true)).getD [] = [] := by
    cases node with
    | some n => exact .inl ⟨n, true, rfl, rfl⟩
    | none => exact .inr ⟨⟨_, rfl⟩, rfl⟩
  cases u with
  | inline node =>
    cases node with
    | some n => exact .inl ⟨n, false, rfl, rfl⟩
    | none => exact .inr ⟨⟨_, rfl⟩, rfl⟩
  | resolve node ref =>
    cases ref with
    | none => exact htranslated node
    | some r =>
      by_cases hr : r.isEmpty
      · have hway : (resolve node (some r)).way = (node.map (visits true)).getD [] := by
          simp [way, Option.filter, hr]
        have hwork : (resolve node (some r)).work = Work.resolve node none := by
          simp [work, Work.resolve, hr]
        rw [hway, hwork]
        exact htranslated node
      · -- A given reference is met like the tag of a node.
        refine .inl ⟨{ kind := Kind.any.name, ref := some r }, true, ?_, ?_⟩
        · have hwork :
              (resolve node (some r)).work = Work.ofTranslation (.met r (referenceTo r)) := by
            simp only [work, Work.resolve, hr]
            rfl
          rw [hwork, Node.translateTagged_eq]
          simp [Node.tag?, hr]
        · simp [way, Option.filter, hr, Node.visits_eq, Node.tag?]

/-- What the written schema of a use has under `$ref` at its schema positions are the pointers of
what the use has met. -/
theorem ref_iff {u : Use} {s s' : Session} {schema : Schema} (h : Work.Run u.work s schema s')
    {v w : Value} (hv : v.Writes schema) :
    (∃ x, v.SchemaIn x ∧ x.Has "$ref" w) ↔ ∃ r ∈ u.met, w = .str (pointerTo r) := by
  obtain ⟨n, tagged, hwork, hway⟩ | ⟨⟨e, hwork⟩, -⟩ := u.work_cases
  · rw [hwork] at h
    have hmet : (Node.translateTagged referenceTo tagged n).refs = u.met := by
      rw [met, hway]
      exact (Node.follows_translateTagged referenceTo tagged n).refs
    rw [Node.ref_iff (Work.run_ofTranslation h).1 hv, hmet]
  · rw [hwork] at h
    exact absurd h Work.not_run_throw

end Use

/-- One use records what it meets, whether it fails or not. -/
theorem registry_exec (u : Use) (s : Session) :
    (Work.exec u.work s).2.registry = s.registry.recordAll u.met := by
  obtain ⟨n, tagged, hwork, hway⟩ | ⟨⟨e, hwork⟩, hway⟩ := u.work_cases
  · rw [hwork, Work.registry_ofTranslation,
      (Node.follows_translateTagged referenceTo tagged n).refs, Use.met, hway]
  · rw [hwork, Work.exec_throw, Use.met, hway]
    rfl

/-! ## Sequences of uses -/

/-- The session after uses one after the other. A use that fails does not stop those after it. -/
def run (us : List Use) (s : Session) : Session :=
  us.foldl (fun t u => (Work.exec u.work t).2) s

theorem registry_run (us : List Use) (s : Session) :
    (run us s).registry = s.registry.recordAll (us.flatMap Use.met) := by
  induction us generalizing s with
  | nil => rfl
  | cons u us ih =>
    have hrun : run (u :: us) s = run us (Work.exec u.work s).2 := rfl
    rw [hrun, ih, registry_exec, List.flatMap_cons, recordAll_append]

theorem pointers_after_run (us : List Use) :
    (run us {}).registry.pointers = ((us.flatMap Use.met).map pointerTo).eraseDups := by
  rw [registry_run]
  exact pointers_recordAll _

/-- **A registry in use.** After any uses it holds the pointers of all that was met, each at its
first occurrence. No pointer is there twice, each leads into the document, and further uses only add
to the end. The schema that one more use gives refers exactly to what this use has met. -/
theorem pointers_run (us : List Use) :
    (run us {}).registry.pointers = ((us.flatMap Use.met).map pointerTo).eraseDups ∧
      (run us {}).registry.pointers.Nodup ∧
      (∀ p ∈ (run us {}).registry.pointers, ['#', '/'] <+: p.toList) ∧
      (∀ vs, (run us {}).registry.pointers <+: (run (us ++ vs) {}).registry.pointers) ∧
      ∀ u schema s', Work.Run u.work (run us {}) schema s' → ∀ w,
        (∃ x, schema.toValue.SchemaIn x ∧ x.Has "$ref" w) ↔
          ∃ r ∈ Use.met u, w = .str (pointerTo r) := by
  have hpointers := pointers_after_run us
  refine ⟨hpointers, ?_, fun p hp => ?_, fun vs => ?_, fun u schema s' h w => ?_⟩
  · rw [hpointers]
    exact nodup_eraseDups _
  · rw [hpointers, List.mem_eraseDups] at hp
    obtain ⟨r, -, rfl⟩ := List.mem_map.mp hp
    exact prefix_pointerTo r
  · rw [hpointers, pointers_after_run, List.flatMap_append, List.map_append]
    exact prefix_eraseDups_append _ _
  · exact Use.ref_iff h (Schema.writes_toValueAt [] schema)

namespace Sample

/-- An object whose second part is of no known kind. -/
def broken : Node :=
  { kind := "object"
    properties := some [("a", { kind := "any", ref := some "A" }), ("b", { kind := "file" })] }

/-- Alternatives of a definition and a list of another one. -/
def choice : Node :=
  { kind := "alternatives"
    alternatives := some [{ kind := "any", ref := some "#/definitions/A" },
      { kind := "array", items := some { kind := "any", ref := some "B" } }] }

end Sample

theorem pointers_run_sample :
    (run [.inline (some Sample.broken)] {}).registry.pointers = ["#/definitions/A"] ∧
      ∃ schema s', Work.Run (Use.resolve (some Sample.choice) none).work
          (run [.inline (some Sample.broken)] {}) schema s' ∧
        ∃ x, schema.toValue.SchemaIn x ∧ x.Has "$ref" (.str "#/definitions/B") := by
  obtain ⟨-, -, -, -, hrefs⟩ := pointers_run [.inline (some Sample.broken)]
  have h : Work.Run (Use.resolve (some Sample.choice) none).work
      (run [.inline (some Sample.broken)] {}) _ _ := rfl
  refine ⟨rfl, _, _, h, (hrefs _ _ _ h _).mpr ⟨"B", ?_, rfl⟩⟩
  simp [Use.met, Use.way, Node.visits_eq, Node.tag?, Sample.choice, Node.usedParts, Kind.ofName?,
    Kind.all, Kind.name, Visit.met, Node.fault?, Node.boundsFault?, Node.kindFault?]

end Registry

end ApiDoc
