import ApiDoc.Proofs.Operation.Simple
import ApiDoc.Proofs.Router.Templates

/-!
# Parameters of the path

The path of an operation is the one that its route is below, a slash, and the path of the route. The
operation has a required parameter for every name in it (`Path.NamesParameter`), and beside these
only the parameters of the path that the route declares.

The names are those that the two paths are written with. That the names in the joined path are no
others is `Path.mem_templateNames_join`, so what remains is which of them are declared.

Main statement: `Work.pathParameters_of_operation`.
-/

namespace ApiDoc

open Parameter (Head)

namespace Route

variable {r : Route} {name : String}

/-- A name is one of a parameter in the path of a route, as the route is given. -/
def NamesInPath (r : Route) (name : String) : Prop :=
  Path.NamesParameter (r.mount.toList ++ '/' :: r.path.toList) name.toList

theorem mem_templateNames_iff : name ∈ Path.templateNames r.fullPath ↔ r.NamesInPath name :=
  Path.mem_templateNames_join

/-- A name in the path is declared, or it is one of those that are not. -/
theorem head_mem_heads (h : r.NamesInPath name) : ⟨name, "path", true⟩ ∈ r.heads := by
  unfold heads
  rw [List.mem_append, List.mem_append]
  refine .inl ?_
  by_cases hdeclared : name ∈ (r.declared .path).map (·.1)
  · obtain ⟨part, hpart, rfl⟩ := List.mem_map.mp hdeclared
    have hhead : headOf .path part = ⟨part.1, "path", true⟩ := by
      simp [headOf, Location.name]
    exact .inl (List.mem_flatMap.mpr ⟨.path, by simp, List.mem_map.mpr ⟨part, hpart, hhead⟩⟩)
  · refine .inr (List.mem_map.mpr
      ⟨name, List.mem_filter.mpr ⟨mem_templateNames_iff.mpr h, ?_⟩, rfl⟩)
    simpa using hdeclared

/-- A parameter of the path is required, and is declared or has a name that is in the path. -/
theorem of_head_mem_heads {h : Head} (hmem : h ∈ r.heads) (hlocation : h.location = "path") :
    h.required = true ∧ (h.name ∈ (r.declared .path).map (·.1) ∨ r.NamesInPath h.name) := by
  unfold heads at hmem
  rw [List.mem_append, List.mem_append] at hmem
  obtain (hdeclared | hundeclared) | hbody := hmem
  · obtain ⟨l, -, hl⟩ := List.mem_flatMap.mp hdeclared
    obtain ⟨part, hpart, rfl⟩ := List.mem_map.mp hl
    obtain rfl : l = .path := Location.name_injective hlocation
    exact ⟨by simp [headOf], .inl (List.mem_map_of_mem hpart)⟩
  · obtain ⟨name, hname, rfl⟩ := List.mem_map.mp hundeclared
    unfold undeclared at hname
    exact ⟨rfl, .inr (mem_templateNames_iff.mp (List.mem_of_mem_filter hname))⟩
  · obtain ⟨body, -, rfl⟩ := List.mem_map.mp hbody
    exact absurd hlocation (by decide)

end Route

namespace Work

variable {s s' : Session}

/-- **Parameters of the path.** For every name in the path that a route is given with, behind a
colon or in braces, the operation of the route has a required parameter of the path. Each parameter
of the path is required, and it is declared by the route or has a name that is in the path. -/
theorem pathParameters_of_operation {defaults : List (String × Output)} {r : Route} {o : Operation}
    (h : Run (operation defaults r) s o s') (place : Place) :
    ∃ vs, (∀ v, (o.toValueAt place).Has "parameters" v ↔ v = .listOf vs) ∧
      (∀ name, r.NamesInPath name → ∃ v ∈ vs, v.IsParameter ⟨name, "path", true⟩) ∧
      ∀ v ∈ vs, v.Has "in" (.str "path") →
        ∃ name, v.IsParameter ⟨name, "path", true⟩ ∧
          (name ∈ (r.declared .path).map (·.1) ∨ r.NamesInPath name) := by
  obtain ⟨ps, t, rs, t', hps, -, -, rfl⟩ := run_operation h
  obtain ⟨hheads, hflat⟩ := heads_of_parameters hps
  have hwritten :
      List.Forall₂ Value.IsParameter (Operation.parameterValues ("parameters" :: place) 0 ps)
      r.heads := by
    rw [← hheads]
    exact Parameter.forall₂_parameterValues hflat _ _
  refine ⟨_, fun v => Operation.has_parameters_iff, fun name hname => ?_, fun v hv hin => ?_⟩
  · exact exists_of_forall₂ hwritten (Route.head_mem_heads hname)
  · obtain ⟨head, hhead, hparameter⟩ := exists_of_forall₂ hwritten.flip hv
    have hlocation : head.location = "path" := (Value.str.inj ((hparameter.location _).mp hin)).symm
    obtain ⟨hrequired, hname⟩ := Route.of_head_mem_heads hhead hlocation
    refine ⟨head.name, ?_, hname⟩
    rw [← hlocation, ← hrequired]
    exact hparameter

namespace Sample

/-- A route below a path, with names behind colons and in braces, one with a colon inside of braces,
which is declared. -/
def templated : Route where
  method := .get
  mount := ":a:b"
  path := "\x7b:c\x7d\x7bd\x7d"
  request := some {
    params := some { kind := "object", properties := some [("c", { kind := "integer" })] } }

end Sample

theorem pathParameters_of_operation_sample :
    ∃ o s', Run (operation [] Sample.templated) {} o s' ∧
      ∃ vs, (o.toValueAt []).Has "parameters" (.listOf vs) ∧
        ∀ name ∈ ["a", "b", "c", "d"], ∃ v ∈ vs, v.IsParameter ⟨name, "path", true⟩ := by
  have h : Run (operation [] Sample.templated) {} _ _ := rfl
  obtain ⟨vs, hvs, hnames, -⟩ := pathParameters_of_operation h []
  have hfound : ∀ name ∈ ["a", "b", "c", "d"],
      name ∈ Path.templateNames Sample.templated.fullPath := by decide +kernel
  refine ⟨_, _, h, vs, (hvs _).mpr rfl, fun name hname => ?_⟩
  have hpath := Route.mem_templateNames_iff.mp (hfound name hname)
  exact hnames name hpath

end Work

end ApiDoc
