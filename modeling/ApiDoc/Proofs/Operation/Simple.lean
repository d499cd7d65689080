import ApiDoc.Proofs.Document.Positions
import ApiDoc.Proofs.Operation.Parameters

/-!
# Simple schemas of an operation

Parameters outside of the body and headers are written as simple mappings (`Value.IsSimple`). A
parameter has its name, its location and whether it is required under keys that no simple schema
has, so these entries are what the route says (`Value.IsParameter`).

Main statement: `Work.simple_of_operation`.
-/

namespace ApiDoc

open Parameter (Head)

/-! ## Written parameters -/

/-- A mapping says what a parameter says, and is simple beside that unless it is the body. -/
structure Value.IsParameter (v : Value) (h : Head) : Prop where
  name : ∀ w, v.Has "name" w ↔ w = .str h.name
  location : ∀ w, v.Has "in" w ↔ w = .str h.location
  required : ∀ w, v.Has "required" w ↔ w = .bool h.required
  simple : h.location ≠ "body" → v.IsSimple ["name", "in", "required"]

namespace Parameter

theorem isParameter_toValueAt {p : Parameter}
    (h : p.head.location ≠ "body" → p.schema.IsFlat) (place : Place) :
    (p.toValueAt place).IsParameter p.head := by
  cases p with
  | simple name location required s =>
    obtain ⟨u, known, hshape, rfl⟩ : s.IsFlat := h (location.name_ne_body)
    have hsimple : ((simple name location required u.simple).toValueAt place).IsSimple
        ["name", "in", "required"] :=
      hshape.isSimple rfl (by decide) (by decide) _ _ _ _ _
    have hiff {key : String} {v : Value}
        (hv : ((simple name location required u.simple).toValueAt place).Has key v) (w : Value) :
        ((simple name location required u.simple).toValueAt place).Has key w ↔ w = v :=
      ⟨fun hw => hsimple.has_unique hw hv, fun heq => heq ▸ hv⟩
    refine ⟨hiff ?_, hiff ?_, hiff ?_, fun _ => hsimple⟩ <;>
      exact Value.has_map.mpr (List.mem_append_left _ (by simp [head]))
  | body s =>
    refine ⟨fun w => ?_, fun w => ?_, fun w => ?_, fun hbody => absurd rfl hbody⟩ <;>
      simp [toValueAt, Value.has_object, head]

theorem forall₂_parameterValues {ps : List Parameter}
    (h : ∀ p ∈ ps, p.head.location ≠ "body" → p.schema.IsFlat) (place : Place) (n : Nat) :
    List.Forall₂ Value.IsParameter (Operation.parameterValues place n ps) (ps.map (·.head)) := by
  induction ps generalizing n with
  | nil => exact .nil
  | cons p ps ih =>
    refine .cons (isParameter_toValueAt (h p List.mem_cons_self) _) ?_
    exact ih (fun q hq => h q (List.mem_cons_of_mem p hq)) (n + 1)

end Parameter

namespace Work

variable {s s' : Session}

/-! ## Written headers -/

theorem flat_of_response {status : String} {o : Output} {response : Response}
    (h : Run (Work.response status o) s response s') :
    ∀ e ∈ response.headers.getD [], e.2.IsFlat := by
  obtain ⟨schema, t, -, hrest⟩ := run_bind.mp h
  obtain ⟨headers, t', hheaders, hend⟩ := run_bind.mp hrest
  obtain ⟨rfl, -⟩ := run_pure.mp hend
  unfold responseHeaders at hheaders
  split at hheaders
  · obtain ⟨rfl, -⟩ := run_pure.mp hheaders
    simp
  · obtain ⟨es, hes, rfl⟩ := run_map.mp hheaders
    intro e he
    obtain ⟨part, -, t₁, t₂, hpart, -⟩ :=
      run_of_mem_mapM hes (fun _ => (steady_inline _).bind fun _ => .pure _) he
    obtain ⟨u, t₃, hu, hend⟩ := run_bind.mp hpart
    obtain ⟨rfl, -⟩ := run_pure.mp hend
    obtain ⟨known, hshape⟩ := shape_of_inline hu
    exact ⟨u, known, hshape, rfl⟩

theorem isSimple_flatValueAt {u : Schema} (h : u.IsFlat) (place : Place) :
    (u.flatValueAt place).IsSimple [] := by
  obtain ⟨v, known, hshape, rfl⟩ := h
  have hnone : ([] : Entries).map (·.1) = ([] : List String).map .str := rfl
  exact hshape.isSimple hnone .nil (by simp) _ _ _ _ _

/-! ## Operations -/

/-- **Simple schemas.** The parameters of an operation say what its route declares, and those
outside of the body and all headers are simple mappings. So they have nothing that only other
schemas have. A schema that has been made simple does not change by being made simple again. -/
theorem simple_of_operation {defaults : List (String × Output)} {r : Route} {o : Operation}
    (h : Run (operation defaults r) s o s') (place : Place) :
    (∃ vs, (∀ v, (o.toValueAt place).Has "parameters" v ↔ v = .listOf vs) ∧
        List.Forall₂ Value.IsParameter vs r.heads) ∧
      (∀ rs status response headers name v, (o.toValueAt place).Has "responses" rs →
        rs.Has status response → response.Has "headers" headers → headers.Has name v →
        v.IsSimple []) ∧
      (∀ (v : Value) own, v.IsSimple own → ∀ key ∉ own,
        key ∈ ["$ref", "properties", "allOf", "additionalProperties", "example"] →
        ∀ w, ¬ v.Has key w) ∧
      ∀ u : Schema, u.simple.simple = u.simple := by
  obtain ⟨ps, t, rs, t', hps, hrs, -, rfl⟩ := run_operation h
  obtain ⟨hheads, hflat⟩ := heads_of_parameters hps
  refine ⟨⟨_, fun v => Operation.has_parameters_iff, ?_⟩, ?_, ?_, Schema.simple_simple⟩
  · rw [← hheads]
    exact Parameter.forall₂_parameterValues hflat _ _
  · intro rs status response headers name v hresponses hresponse hheaders hname
    obtain ⟨e, he, place, rfl⟩ := Operation.exists_of_has_responses hresponses hresponse
    obtain ⟨header, hheader, at_, rfl⟩ := Response.exists_of_has_headers hheaders hname
    obtain ⟨output, t₁, t₂, hmade, -⟩ := made_responses hrs e he
    exact isSimple_flatValueAt (flat_of_response hmade header hheader) at_
  · exact fun v own h key hown hkey => h.not_has hown hkey

namespace Sample

/-- A list of objects, which are not simple. -/
def list : Node :=
  { kind := "array"
    items := some { kind := "object", description := some "an item", properties := some [] } }

/-- A route with a declared list and a name in its path that is not declared. -/
def route : Route where
  method := .get
  path := "/a/:id"
  request := some { query := some { kind := "object", properties := some [("q", list)] } }
  outputs := [("200",
    { headers := some { kind := "object", properties := some [("X-List", list)] } })]

end Sample

theorem simple_of_operation_sample :
    Sample.route.heads = [⟨"q", "query", false⟩, ⟨"id", "path", true⟩] ∧
      ∃ o s', Run (operation [] Sample.route) {} o s' ∧
        ∃ vs, (o.toValueAt []).Has "parameters" (.listOf vs) ∧
          List.Forall₂ Value.IsParameter vs Sample.route.heads := by
  have h : Run (operation [] Sample.route) {} _ _ := rfl
  obtain ⟨⟨vs, hvs, hparameters⟩, -⟩ := simple_of_operation h []
  exact ⟨by decide +kernel, _, _, h, vs, (hvs _).mpr rfl, hparameters⟩

end Work

end ApiDoc
