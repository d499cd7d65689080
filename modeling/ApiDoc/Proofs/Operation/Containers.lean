import ApiDoc.Proofs.Operation.StatusKeys

/-!
# Schemas around parameters and headers

The parameters of a location, and the headers of a response, are given as one schema: they are the
properties of the node that the route carries for them (`Route.Carries`). Only these parts are
translated. The node around them is never translated itself, so nothing that a translation of it
would find is found: an unknown kind, bounds in the wrong order, a bad pattern, no values, no items
and no branches all pass, together with whatever is below them outside of the properties.

**When an operation fails** (`Work.fails_operation_iff`). The stops on the way of the operation are
sorted by where they come from: parts of nodes that the route carries, bodies, and keys. The work
fails exactly when one of the parts is rejected, or a body, or a key does not pass. The default
responses that count are those with a status that no key before them lists (`Route.Makes`), which is
read off the way by induction on the defaults.

**Which nodes are safe.** A node makes every operation that carries it fail exactly when one of its
parts is rejected. That is so for a rejected object whose bounds are in order, since an object has
nothing else to check.

Main statement: `Work.fails_of_carries_iff`. What it leaves out happens at all four places
(`Work.not_fails_of_carries`).
-/

namespace ApiDoc

open Registry (Use)

/-! ## Failures -/

theorem Traced.Follows.failed_iff {α : Type} {x : Translation α} {way : List Visit}
    (h : x.Follows way) :
    (∃ e, x.result = .error e) ↔ ∃ v ∈ way, v.fault? ≠ none := by
  have hnone : Visit.firstFault? way = none ↔ ∀ v ∈ way, v.fault? = none :=
    List.findSome?_eq_none_iff
  cases hfirst : Visit.firstFault? way with
  | none =>
    obtain ⟨a, ha⟩ := h.succeeds hfirst
    refine iff_of_false (by simp [ha]) ?_
    rintro ⟨v, hv, hfault⟩
    exact hfault (hnone.mp hfirst v hv)
  | some e =>
    refine iff_of_true ⟨e, h.fails e hfirst⟩ ?_
    obtain ⟨v, hv, hfault⟩ := List.exists_of_findSome?_eq_some hfirst
    exact ⟨v, hv, by simp [hfault]⟩

namespace Node

variable {n : Node}

/-- The translation of a node itself ends with an error. -/
def IsRejected (n : Node) : Prop := ∃ e, (n.inline referenceTo).result = .error e

theorem isRejected_iff : n.IsRejected ↔ ∃ v ∈ n.visits false, v.fault? ≠ none :=
  (follows_translateTagged referenceTo false n).failed_iff

/-- A tag hides what is wrong. -/
theorem isRejected_of_visits_true {v : Visit} (hv : v ∈ n.visits true) (hfault : v.fault? ≠ none) :
    n.IsRejected := by
  refine isRejected_iff.mpr ⟨v, ?_, hfault⟩
  rw [visits_eq] at hv ⊢
  cases htag : n.tag? with
  | none => simpa [htag] using hv
  | some r =>
    obtain rfl : v = .tag r := by simpa [htag] using hv
    exact absurd rfl hfault

/-- An object whose bounds are in order is rejected for one of its parts. -/
theorem isRejected_part_of_object (hkind : n.kind = Kind.object.name)
    (hbounds : n.boundsFault? = none) (h : n.IsRejected) :
    ∃ part ∈ Work.parts n, part.2.IsRejected := by
  obtain ⟨v, hv, hfault⟩ := isRejected_iff.mp h
  rw [visits_eq, usedParts_of_kind hkind] at hv
  obtain rfl | hv := List.mem_cons.mp hv
  · -- The object itself is well formed.
    have hnone : n.fault? = none := by
      rw [fault?, Kind.ofName?_eq_some_iff.mpr hkind]
      simp [hbounds, kindFault?]
    exact absurd hnone hfault
  · obtain ⟨m, hm, hv⟩ := List.mem_flatMap.mp hv
    obtain ⟨part, hpart, rfl⟩ := List.mem_map.mp hm
    exact ⟨part, hpart, isRejected_of_visits_true hv hfault⟩

end Node

/-- Work ends with an error. -/
def Work.Fails {α : Type} (x : Work α) (s : Session) : Prop := ∃ e, (exec x s).1 = .error e

theorem Work.Follows.fails_iff {α : Type} {x : Work α} {way : List Stop} (h : x.Follows way)
    (s : Session) :
    x.Fails s ↔ ∃ stop ∈ way, stop.error? ≠ none := by
  unfold Fails
  cases hfirst : Stop.firstError? way with
  | none =>
    obtain ⟨a, t, hrun, -⟩ := h.succeeds hfirst s
    refine iff_of_false (by simp [show exec x s = (.ok a, t) from hrun]) ?_
    rintro ⟨stop, hstop, herror⟩
    exact herror (Stop.firstError?_eq_none_iff.mp hfirst stop hstop)
  | some e =>
    obtain ⟨t, ht⟩ := h.fails e hfirst s
    refine iff_of_true ⟨e, by rw [ht]⟩ ?_
    obtain ⟨stop, hstop, herror⟩ := List.exists_of_findSome?_eq_some hfirst
    exact ⟨stop, hstop, by simp [herror]⟩

theorem Stop.error?_visit_ne_none {v : Visit} : (Stop.visit v).error? ≠ none ↔ v.fault? ≠ none := by
  rw [error?, ne_eq, Option.map_eq_none_iff]

/-! ## What a route is made of -/

namespace Route

variable {defaults : List (String × Output)} {r : Route} {o : Output} {m n : Node}
    {ref : Option String}
  {v : Visit}

/-- The response of an output is made: a declared key lists a status, or a default key lists one
that no key before it lists. -/
inductive Makes (defaults : List (String × Output)) (r : Route) (o : Output) : Prop
  | declared {key status : String} :
      (key, o) ∈ r.outputs → status ∈ Status.listed key → Makes defaults r o
  | default {before after : List (String × Output)} {key status : String} :
      defaults = before ++ (key, o) :: after → status ∈ Status.listed key →
      status ∉ (r.outputs ++ before).flatMap (Status.listed ·.1) → Makes defaults r o

/-- A route carries a node for the parameters of a location, or for the headers of a response that
is made. -/
inductive Carries (defaults : List (String × Output)) (r : Route) : Node → Prop
  | parameters {n : Node} (l : Location) :
      r.request.bind (·.node? l) = some n → Carries defaults r n
  | headers {o : Output} {n : Node} : Makes defaults r o → o.headers = some n → Carries defaults r n

/-- A route has a node for its body, or for that of a response that is made, and possibly a
definition that stands for it. -/
inductive HasBody (defaults : List (String × Output)) (r : Route) : Node → Option String → Prop
  | request {request : RequestSpec} {n : Node} :
      r.request = some request → request.body = some n → HasBody defaults r n request.ref
  | response {o : Output} {n : Node} : Makes defaults r o → o.body = some n →
    HasBody defaults r n o.ref

/-! ## Where the stops come from -/

theorem visit_mem_parameterWay : .visit v ∈ r.parameterWay ↔
    (∃ l n, r.request.bind (·.node? l) = some n ∧ ∃ part ∈ Work.parts n, v ∈ part.2.visits false) ∨
      ∃ request n, r.request = some request ∧ request.body = some n ∧
        v ∈ (Use.resolve (some n) request.ref).way := by
  have hdeclared (l : Location) : .visit v ∈ r.declaredWay l ↔
      ∃ n, r.request.bind (·.node? l) = some n ∧ ∃ part ∈ Work.parts n,
      v ∈ part.2.visits false := by
    unfold declaredWay declared
    cases r.request.bind (·.node? l) <;> simp
  have hlocation (p : Location → Prop) : (∃ l, p l) ↔ p .path ∨ p .query ∨ p .header := by
    refine ⟨fun ⟨l, hl⟩ => ?_, ?_⟩
    · cases l <;> simp [hl]
    · rintro (h | h | h) <;> exact ⟨_, h⟩
  have hbody : .visit v ∈ r.bodyWay ↔
      ∃ request n, r.request = some request ∧ request.body = some n ∧
      v ∈ (Use.resolve (some n) request.ref).way := by
    unfold bodyWay
    cases r.request with
    | none => simp
    | some request => cases hbody : request.body <;> simp [hbody]
  simp only [parameterWay, List.mem_append, hdeclared, hbody, hlocation, or_assoc]

theorem visit_mem_outputWay : .visit v ∈ o.way ↔
    v ∈ (Use.resolve o.body o.ref).way ∨
      ∃ n, o.headers = some n ∧ ∃ part ∈ Work.parts n, v ∈ part.2.visits false := by
  unfold Output.way
  cases o.headers <;> simp

/-- The stops at defaults are those of the ones with a status that is new when they are reached. -/
theorem visit_mem_defaultWay {seen : List String} : .visit v ∈ Output.defaultWay seen defaults ↔
    ∃ before key o after, defaults = before ++ (key, o) :: after ∧
      (∃ status ∈ Status.listed key, status ∉ seen ++ before.flatMap (Status.listed ·.1)) ∧
      .visit v ∈ o.way := by
  induction defaults generalizing seen with
  | nil => simp [Output.defaultWay]
  | cons e defaults ih =>
    obtain ⟨k, u⟩ := e
    -- A default is gone through once for each status that is still missing, or not at all.
    have hhead : .visit v ∈ (Status.fresh seen (Status.listed k)).flatMap (fun _ => u.way) ↔
        (∃ status ∈ Status.listed k, status ∉ seen) ∧ .visit v ∈ u.way := by
      simp [Status.fresh, List.mem_flatMap, List.mem_eraseDups]
    rw [Output.defaultWay, List.cons_append, List.mem_cons, List.mem_append, hhead, ih]
    constructor
    · rintro (h | ⟨hnew, hv⟩ | ⟨before, key, o, after, rfl, hnew, hv⟩)
      · cases h
      · exact ⟨[], k, u, defaults, rfl, by simpa using hnew, hv⟩
      · exact ⟨(k, u) :: before, key, o, after, rfl, by simpa using hnew, hv⟩
    · rintro ⟨before, key, o, after, heq, hnew, hv⟩
      cases before with
      | nil =>
        obtain ⟨hentry, rfl⟩ := List.cons.inj heq
        obtain ⟨rfl, rfl⟩ := Prod.mk.inj hentry
        exact .inr (.inl ⟨by simpa using hnew, hv⟩)
      | cons e before =>
        obtain ⟨rfl, rfl⟩ := List.cons.inj heq
        exact .inr (.inr ⟨before, key, o, after, rfl, by simpa using hnew, hv⟩)

theorem visit_mem_responseWay :
    .visit v ∈ r.responseWay defaults ↔ ∃ o, r.Makes defaults o ∧ .visit v ∈ o.way := by
  rw [responseWay, List.mem_append, visit_mem_defaultWay]
  constructor
  · rintro (h | ⟨before, key, o, after, heq, ⟨status, hlisted, hnew⟩, hv⟩)
    · obtain ⟨⟨key, o⟩, he, hv⟩ := List.mem_flatMap.mp h
      obtain hv | hv := List.mem_cons.mp hv
      · cases hv
      · obtain ⟨status, hlisted, hv⟩ := List.mem_flatMap.mp hv
        exact ⟨o, .declared he hlisted, hv⟩
    · exact ⟨o, .default heq hlisted (by rwa [List.flatMap_append]), hv⟩
  · rintro ⟨o, hmakes, hv⟩
    cases hmakes with
    | declared he hlisted =>
      refine .inl (List.mem_flatMap.mpr ⟨_, he, List.mem_cons_of_mem _ ?_⟩)
      exact List.mem_flatMap.mpr ⟨_, hlisted, hv⟩
    | default heq hlisted hnew =>
      rw [List.flatMap_append] at hnew
      exact .inr ⟨_, _, _, _, heq, ⟨_, hlisted, hnew⟩, hv⟩

/-- A stop that is not passed stands in a part of a node that the route carries, or in a body. -/
theorem fault_on_way_iff : (∃ v, .visit v ∈ r.way defaults ∧ v.fault? ≠ none) ↔
    (∃ n, r.Carries defaults n ∧ ∃ part ∈ Work.parts n, part.2.IsRejected) ∨
      ∃ n ref, r.HasBody defaults n ref ∧ ∃ v ∈ (Use.resolve (some n) ref).way,
        v.fault? ≠ none := by
  simp only [way, List.mem_append, visit_mem_parameterWay, visit_mem_responseWay,
    visit_mem_outputWay, Node.isRejected_iff]
  -- A node on the way is part of a container, the body of the request, or the body or the headers
  -- of an output that makes a response.
  constructor
  · rintro ⟨v, (⟨l, n, hn, part, hpart, hv⟩ | ⟨request, n, hr, hn, hv⟩) | ⟨o, ho,
      hv | ⟨n, hn, part, hpart, hv⟩⟩, hfault⟩
    · exact .inl ⟨n, .parameters l hn, part, hpart, v, hv, hfault⟩
    · exact .inr ⟨n, request.ref, .request hr hn, v, hv, hfault⟩
    · cases hbody : o.body with
      | some n =>
        rw [hbody] at hv
        exact .inr ⟨n, o.ref, .response ho hbody, v, hv, hfault⟩
      | none =>
        -- Without a body there is only the definition that is referred to.
        rw [hbody, Use.way] at hv
        split at hv
        · obtain rfl := List.mem_singleton.mp hv
          exact absurd rfl hfault
        · cases hv
    · exact .inl ⟨n, .headers ho hn, part, hpart, v, hv, hfault⟩
  · rintro (⟨n, hcarries, part, hpart, v, hv, hfault⟩ | ⟨n, ref, hbody, v, hv, hfault⟩)
    · refine ⟨v, ?_, hfault⟩
      cases hcarries with
      | parameters l hn => exact .inl (.inl ⟨l, n, hn, part, hpart, hv⟩)
      | headers ho hn => exact .inr ⟨_, ho, .inr ⟨n, hn, part, hpart, hv⟩⟩
    · refine ⟨v, ?_, hfault⟩
      cases hbody with
      | request hr hn => exact .inl (.inr ⟨_, n, hr, hn, hv⟩)
      | response ho hn => exact .inr ⟨_, ho, .inl (hn ▸ hv)⟩

/-- A route with a node for its path parameters and nothing else. -/
def around (n : Node) : Route :=
  { method := .get, path := "/", request := some { params := some n } }

theorem not_makes_around : ¬ (around n).Makes [] o := by
  intro h
  cases h with
  | declared he => cases he
  | default heq => simp at heq

theorem eq_of_carries_around (h : (around n).Carries [] m) : m = n := by
  cases h with
  | parameters l hm =>
    cases l with
    | path => exact (Option.some.inj hm).symm
    | query | header => cases hm
  | headers ho => exact absurd ho not_makes_around

theorem not_hasBody_around : ¬ (around n).HasBody [] m ref := by
  intro h
  cases h with
  | request hr hm =>
    obtain rfl := (Option.some.inj hr).symm
    cases hm
  | response ho => exact absurd ho not_makes_around

end Route

/-! ## Operations that fail -/

namespace Work

/-- **When an operation fails:** a part of a node that the route carries is rejected, or a body
cannot be translated, or a key does not pass. -/
theorem fails_operation_iff (defaults : List (String × Output)) (r : Route) (s : Session) :
    (operation defaults r).Fails s ↔
      (∃ n, r.Carries defaults n ∧ ∃ part ∈ parts n, part.2.IsRejected) ∨
        (∃ n ref, r.HasBody defaults n ref ∧ (resolve (some n) ref).Fails s) ∨
        ∃ e ∈ r.outputs ++ defaults, ¬ Status.Passes e.1 := by
  have hbody (n : Node) (ref : Option String) :
      (resolve (some n) ref).Fails s ↔ ∃ v ∈ (Use.resolve (some n) ref).way, v.fault? ≠ none := by
    refine ((follows_use (way_resolve_ne_nil n ref)).fails_iff s).trans ?_
    simp [Stop.error?_visit_ne_none]
  simp only [hbody]
  -- The work fails where a stop on its way does: at a node, or at a key.
  rw [(follows_operation defaults r).fails_iff s, ← or_assoc, ← Route.fault_on_way_iff]
  constructor
  · rintro ⟨stop, hstop, herror⟩
    obtain ⟨v, rfl⟩ | ⟨e, he, rfl⟩ := Route.mem_way hstop
    · exact .inl ⟨v, hstop, Stop.error?_visit_ne_none.mp herror⟩
    · obtain ⟨-, hnone⟩ | ⟨hnot, -⟩ := Stop.error?_key e.1
      · exact absurd hnone herror
      · exact .inr ⟨e, he, hnot⟩
  · rintro (⟨v, hv, hfault⟩ | ⟨e, he, hnot⟩)
    · exact ⟨_, hv, Stop.error?_visit_ne_none.mpr hfault⟩
    · refine ⟨_, Route.key_mem_way he, ?_⟩
      obtain ⟨hpass, -⟩ | ⟨-, piece, hpiece⟩ := Stop.error?_key e.1
      · exact absurd hpass hnot
      · rw [hpiece]
        exact Option.some_ne_none _

/-- **Nodes around parameters and headers.** Every operation that carries a node fails exactly when
a part of the node is rejected, so in particular when the node is a rejected object whose bounds are
in order. For one operation, the parts of the nodes that it carries count, its bodies and its keys,
and nothing else. -/
theorem fails_of_carries_iff (n : Node) :
    ((∀ defaults r s, r.Carries defaults n → (operation defaults r).Fails s) ↔
      ∃ part ∈ parts n, part.2.IsRejected) ∧
    (n.kind = Kind.object.name → n.boundsFault? = none → n.IsRejected →
      ∃ part ∈ parts n, part.2.IsRejected) ∧
    ∀ defaults r s, (operation defaults r).Fails s ↔
      (∃ m, r.Carries defaults m ∧ ∃ part ∈ parts m, part.2.IsRejected) ∨
        (∃ m ref, r.HasBody defaults m ref ∧ (resolve (some m) ref).Fails s) ∨
        ∃ e ∈ r.outputs ++ defaults, ¬ Status.Passes e.1 := by
  refine ⟨⟨fun h => ?_, fun hpart defaults r s hcarries => ?_⟩, Node.isRejected_part_of_object,
    fails_operation_iff⟩
  · -- In a route that has nothing but the node, only its parts can be the reason.
    have hfails := h [] (.around n) {} (.parameters .path rfl)
    obtain ⟨m, hcarries, hpart⟩ | ⟨m, ref, hbody, -⟩ | ⟨e, he, -⟩ :=
      (fails_operation_iff _ _ _).mp hfails
    · rwa [Route.eq_of_carries_around hcarries] at hpart
    · exact absurd hbody Route.not_hasBody_around
    · cases he
  · exact (fails_operation_iff _ _ _).mpr (.inl ⟨n, hcarries, hpart⟩)

namespace Sample

/-- An object with a part of no known kind. -/
def form : Node := { kind := "object", properties := some [("a", { kind := "file" })] }

/-- A route whose query has the part. -/
def search : Route := { method := .get, path := "/", request := some { query := some form } }

/-- A route whose parameters and response headers are a kind that is not known, an array without
items, an object with bounds in the wrong order and alternatives without branches. -/
def lenient : Route :=
  { method := .get, path := "/"
    request := some {
      params := some { kind := "text" }
      query := some { kind := "array" }
      headers := some { kind := "object", min := some (.int 2), max := some (.int 1) } }
    outputs := [("200", { headers := some { kind := "alternatives" } })] }

end Sample

theorem fails_of_carries_iff_sample :
    Sample.form.IsRejected ∧ (operation [] Sample.search).Fails {} := by
  have hrejected : Sample.form.IsRejected := ⟨_, rfl⟩
  obtain ⟨hall, hobject, -⟩ := fails_of_carries_iff Sample.form
  exact ⟨hrejected, hall.mpr (hobject rfl rfl hrejected) [] _ {} (.parameters .query rfl)⟩

/-- Nodes without a tag that are rejected pass at all four places. -/
theorem not_fails_of_carries :
    (∀ l, ∃ n, Sample.lenient.request.bind (·.node? l) = some n ∧ n.tag? = none ∧ n.IsRejected) ∧
      (∃ o n, Sample.lenient.Makes [] o ∧ o.headers = some n ∧ n.tag? = none ∧ n.IsRejected) ∧
      ¬ (operation [] Sample.lenient).Fails {} := by
  refine ⟨fun l => ?_, ?_, ?_⟩
  · cases l with
    | path | query | header => exact ⟨_, rfl, rfl, _, rfl⟩
  · exact ⟨_, _, .declared List.mem_cons_self (show "200" ∈ _ by decide +kernel), rfl, rfl, _, rfl⟩
  · rintro ⟨e, he⟩
    cases he

end Work

end ApiDoc
