import ApiDoc.Proofs.Operation.Outputs
import ApiDoc.Proofs.Operation.Way

/-!
# Responses of an operation

The responses of an operation come in two parts. The first part stands under the statuses that the
declared keys list, and the second one under those that only default keys list. Both parts are in
the order in which their statuses occur first. Where several declarations list a status the last one
gives the response, while of several defaults it is the first one.

A declared response is the same whatever the defaults are: the work on the declarations never looks
at them (`Work.declared_eq`), and a default only puts responses behind those that are there
(`Work.filled_addDefault`).

What a response says is decided by the declaration that it is made from (`Work.describes_response`).

Main statement: `Work.responses_of_operation`.
-/

namespace ApiDoc

/-! ## Texts and statuses -/

theorem statusPhrase?_ne_empty {n : Nat} {phrase : String} (h : statusPhrase? n = some phrase) :
    phrase ≠ "" := by
  have hall : ∀ e ∈ statusPhrases, e.2 ≠ "" := by decide +kernel
  obtain ⟨before, after, hentries, -⟩ := List.lookup_eq_some_iff.mp h
  exact hall (n, phrase) (by simp [hentries])

namespace Status

theorem phrase_ne_empty (status : String) : phrase status ≠ "" := by
  unfold phrase
  cases hphrase : (number? status.toList).bind statusPhrase? with
  | none => decide
  | some phrase =>
    obtain ⟨n, -, hn⟩ := Option.bind_eq_some_iff.mp hphrase
    exact statusPhrase?_ne_empty hn

theorem mem_fresh {seen ss : List String} {status : String} :
    status ∈ fresh seen ss ↔ status ∈ ss ∧ status ∉ seen := by
  rw [fresh, List.mem_eraseDups, List.mem_filter, decide_eq_true_eq]

theorem fresh_append (seen ss ts : List String) :
    fresh seen (ss ++ ts) = fresh seen ss ++ fresh (seen ++ ss) ts := by
  have hlater : (ts.filter (· ∉ seen)).removeAll (ss.filter (· ∉ seen)) =
      ts.filter (· ∉ seen ++ ss) := by
    rw [List.removeAll, List.filter_filter]
    refine List.filter_congr fun status _ => ?_
    by_cases hseen : status ∈ seen <;> simp [hseen]
  rw [fresh, List.filter_append, List.eraseDups_append, hlater, fresh, fresh]

end Status

/-! ## What a response says -/

/-- What a declaration says about the response for a status. -/
structure Output.Describes (status : String) (o : Output) (response : Response) : Prop where
  /-- The response is made from the declaration and the status alone. -/
  made : ∀ s, (Work.exec (Work.response status o) s).1 = .ok response
  /-- The description is the declared one, unless that is missing or empty. -/
  text : response.description = (o.description.filter (· ≠ "")).getD (Status.phrase status)
  described : response.description ≠ ""
  /-- There is a schema for a body or a definition. -/
  schema : response.schema.isSome ↔ o.body.isSome ∨ ∃ ref ∈ o.ref, ref ≠ ""
  /-- A definition stands for the body. -/
  reference : ∀ ref ∈ o.ref, ref ≠ "" → response.schema = some (Schema.reference (pointerTo ref))
  /-- Without a definition, the schema is what the body translates to. -/
  translated : (∀ ref ∈ o.ref, ref = "") → ∀ body ∈ o.body, ∃ refs schema,
    body.translate referenceTo = ⟨refs, .ok schema⟩ ∧ response.schema = some schema

namespace Work

variable {s s' : Session} {rs rs' : List (String × Response)} {e : String × Output}
  {status : String} {o : Output} {seen : List String} {defaults : List (String × Output)}

theorem responseText_eq (status : String) (o : Output) :
    responseText status o = (o.description.filter (· ≠ "")).getD (Status.phrase status) := by
  unfold responseText
  cases o.description with
  | none => rfl
  | some text => by_cases h : text = "" <;> simp [h, Option.filter]

theorem responseText_ne_empty (status : String) (o : Output) : responseText status o ≠ "" := by
  rw [responseText_eq]
  cases htext : o.description.filter (· ≠ "") with
  | none => exact Status.phrase_ne_empty status
  | some text => simpa using (Option.filter_eq_some_iff.mp htext).2

/-- A node is resolved to a reference when a definition is given. -/
theorem run_resolve_ref {node : Option Node} {ref : String} {schema : Schema} (href : ref ≠ "")
    (h : Run (resolve node (some ref)) s schema s') :
    schema = Schema.reference (pointerTo ref) := by
  simp only [resolve, String.isEmpty_iff, href, if_false] at h
  obtain ⟨_, _, -, hend⟩ := run_bind.mp h
  exact (run_pure.mp hend).1

/-- A node is resolved to its translation when no definition is given. -/
theorem run_resolve_node {node : Node} {ref : Option String} {schema : Schema}
    (href : ∀ r ∈ ref, r = "") (h : Run (resolve (some node) ref) s schema s') :
    ∃ refs, node.translate referenceTo = ⟨refs, .ok schema⟩ := by
  have htranslated : Run (ofTranslation (node.translate referenceTo)) s schema s' := by
    cases ref with
    | none => exact h
    | some r =>
      obtain rfl : r = "" := href r rfl
      exact h
  exact ⟨_, (run_ofTranslation htranslated).1⟩

/-- The schema of a response: there is one for a body or a definition, and it is resolved from
these. -/
theorem run_responseSchema {schema : Option Schema} (h : Run (responseSchema o) s schema s') :
    (schema.isSome ↔ o.body.isSome ∨ ∃ ref ∈ o.ref, ref ≠ "") ∧
      ∀ u ∈ schema, Run (resolve o.body o.ref) s u s' := by
  obtain ⟨body, ref, description, headers⟩ := o
  unfold responseSchema at h
  cases body with
  | some body =>
    obtain ⟨u, hu, rfl⟩ := run_map.mp h
    exact ⟨by simp, fun v hv => Option.some.inj hv ▸ hu⟩
  | none =>
    cases ref with
    | none =>
      obtain ⟨rfl, -⟩ := run_pure.mp h
      exact ⟨by simp, nofun⟩
    | some ref =>
      by_cases hempty : ref = ""
      · subst hempty
        obtain ⟨rfl, -⟩ := run_pure.mp h
        exact ⟨by simp, nofun⟩
      · simp only [String.isEmpty_iff, hempty, if_false] at h
        obtain ⟨u, hu, rfl⟩ := run_map.mp h
        exact ⟨by simp [hempty], fun v hv => Option.some.inj hv ▸ hu⟩

theorem describes_response {response : Response} (h : Run (Work.response status o) s response s') :
    Output.Describes status o response := by
  have hmade := h.result_eq (steady_response status o)
  obtain ⟨schema, t, hschema, hrest⟩ := run_bind.mp h
  obtain ⟨headers, t', -, hend⟩ := run_bind.mp hrest
  obtain ⟨rfl, -⟩ := run_pure.mp hend
  obtain ⟨hsome, hresolved⟩ := run_responseSchema hschema
  refine ⟨hmade, responseText_eq status o, responseText_ne_empty status o, hsome, ?_, ?_⟩
  · intro ref href hne
    obtain ⟨u, rfl⟩ := Option.isSome_iff_exists.mp (hsome.mpr (.inr ⟨ref, href, hne⟩))
    have hrun := hresolved u rfl
    rw [Option.mem_def.mp href] at hrun
    exact congrArg some (run_resolve_ref hne hrun)
  · intro href body hbody
    obtain ⟨u, rfl⟩ := Option.isSome_iff_exists.mp
      (hsome.mpr (.inl (Option.isSome_iff_exists.mpr ⟨body, hbody⟩)))
    have hrun := hresolved u rfl
    rw [Option.mem_def.mp hbody] at hrun
    obtain ⟨refs, htranslated⟩ := run_resolve_node href hrun
    exact ⟨refs, u, htranslated, rfl⟩

end Work

/-! ## Declared and default responses -/

namespace Output

/-- Responses are those that declarations ask for: in the order of the statuses that their keys
list, each made from the last declaration for its status. -/
structure DeclaredBy (outputs : List (String × Output)) (rs : List (String × Response)) : Prop where
  statuses : rs.map (·.1) = (outputs.flatMap (Status.listed ·.1)).eraseDups
  entries : ∀ entry ∈ rs, ∃ e, IsLast (IsFor entry.1) outputs e ∧ e.2.Describes entry.1 entry.2

/-- Responses are those that defaults ask for where some statuses are taken: in the order of the
other statuses that their keys list, each made from the first default for its status. -/
structure FilledBy (taken : List String) (defaults : List (String × Output))
    (rs : List (String × Response)) : Prop where
  statuses : rs.map (·.1) = Status.fresh taken (defaults.flatMap (Status.listed ·.1))
  entries : ∀ entry ∈ rs, ∃ e, IsFirst (IsFor entry.1) defaults e ∧ e.2.Describes entry.1 entry.2

end Output

namespace Work

variable {s s' : Session} {rs rs' : List (String × Response)} {e : String × Output}
  {status : String} {seen : List String} {outputs defaults : List (String × Output)}

theorem expand_of_run {ss : List String} (h : Run (statuses e.1) s ss s') :
    Status.expand e.1 = .ok (Status.listed e.1) := by
  obtain ⟨hexpand, -⟩ := statuses_eq h
  obtain ⟨rfl, -⟩ := eq_listed_of_run h
  exact hexpand

/-- A loop over declarations that takes their keys apart ends well only if they list statuses. -/
theorem expand_of_run_foldlM
    {step : List (String × Response) → String × Output → Work (List (String × Response))}
    (hstep : ∀ rs e, ∃ rest, step rs e = statuses e.1 >>= rest)
    (h : Run (outputs.foldlM step rs) s rs' s') :
    ∀ e ∈ outputs, Status.expand e.1 = .ok (Status.listed e.1) := by
  refine run_foldlM
    (fun (done : List (String × Output)) _ _ => ∀ e ∈ done,
      Status.expand e.1 = .ok (Status.listed e.1))
    (fun done e c t c' t' hdone hround => ?_) nofun h
  obtain ⟨rest, heq⟩ := hstep c e
  rw [heq] at hround
  obtain ⟨ss, t'', hss, -⟩ := run_bind.mp hround
  exact List.forall_mem_append.mpr ⟨hdone, List.forall_mem_singleton.mpr (expand_of_run hss)⟩

theorem expand_of_declared (h : Run (outputs.foldlM addDeclared rs) s rs' s') :
    ∀ e ∈ outputs, Status.expand e.1 = .ok (Status.listed e.1) := by
  refine expand_of_run_foldlM (fun rs e => ?_) h
  unfold addDeclared
  exact ⟨_, rfl⟩

theorem expand_of_defaults (h : Run (defaults.foldlM addDefault rs) s rs' s') :
    ∀ e ∈ defaults, Status.expand e.1 = .ok (Status.listed e.1) := by
  refine expand_of_run_foldlM (fun rs e => ?_) h
  unfold addDefault
  exact ⟨_, rfl⟩

theorem isFor_iff (h : Status.expand e.1 = .ok (Status.listed e.1)) (status : String) :
    Output.IsFor status e ↔ status ∈ Status.listed e.1 := by
  simp only [Output.IsFor, Status.Lists, h, Except.ok.injEq, exists_eq_left']

theorem declaredBy_of_run (h : Run (outputs.foldlM addDeclared []) s rs s') :
    Output.DeclaredBy outputs rs := by
  have hstatuses := names_declared h
  refine ⟨hstatuses, fun ⟨status, response⟩ hentry => ?_⟩
  have hlisted : status ∈ outputs.flatMap (Status.listed ·.1) := by
    rw [← List.mem_eraseDups, ← hstatuses]
    exact List.mem_map_of_mem hentry
  obtain ⟨e, he, hstatus⟩ := List.mem_flatMap.mp hlisted
  have hfor := (isFor_iff (expand_of_declared h e he) status).mpr hstatus
  obtain ⟨e, hlast⟩ := exists_isLast ⟨e, he, hfor⟩
  obtain ⟨response', hget, hmade⟩ := answers_declared h hlast
  have hnodup : (rs.map (·.1)).Nodup := hstatuses ▸ nodup_eraseDups _
  rw [getNamed?_of_mem hnodup hentry] at hget
  obtain rfl := Option.some.inj hget
  exact ⟨e, hlast, describes_response (Prod.ext (hmade s) rfl)⟩

/-- The declared responses of an operation do not depend on the session. -/
theorem declared_eq {rs' : List (String × Response)} {t t' : Session}
    (h : Run (outputs.foldlM addDeclared []) s rs s')
    (h' : Run (outputs.foldlM addDeclared []) t rs' t') :
    rs' = rs := by
  have hresult := h'.result_eq (.foldlM steady_addDeclared outputs []) s
  rw [h] at hresult
  exact (Except.ok.inj hresult).symm

/-- A default fills in the responses for the statuses of its key that are not taken. -/
theorem filled_addDefault (h : Run (addDefault rs e) s rs' s')
    (hrs : rs.map (·.1) = seen.eraseDups) :
    ∃ filled, rs' = rs ++ filled ∧ filled.map (·.1) = Status.fresh seen (Status.listed e.1) ∧
      ∀ entry ∈ filled, e.2.Describes entry.1 entry.2 := by
  obtain ⟨ss, t, hss, hfold⟩ := run_bind.mp h
  obtain ⟨rfl, rfl⟩ := eq_listed_of_run hss
  clear hss h
  -- The induction is over the statuses of one key; `seen` grows by each, as the responses do.
  generalize Status.listed e.1 = ss at hfold
  induction ss generalizing rs seen t with
  | nil =>
    obtain ⟨rfl, -⟩ := run_pure.mp hfold
    exact ⟨[], by simp, rfl, nofun⟩
  | cons status ss ih =>
    rw [List.foldlM_cons] at hfold
    obtain ⟨c, t', hround, hrest⟩ := run_bind.mp hfold
    have hthere : (getNamed? status rs).isSome ↔ status ∈ seen := by
      rw [isSome_getNamed?_iff, hrs, List.mem_eraseDups]
    by_cases hseen : status ∈ seen
    · rw [if_pos (hthere.mpr hseen)] at hround
      obtain ⟨rfl, rfl⟩ := run_pure.mp hround
      rw [Status.fresh_cons_of_mem hseen]
      exact ih hrs _ hrest
    · rw [if_neg (mt hthere.mp hseen)] at hround
      have hnames := names_putResponse hround hrs
      obtain ⟨response, t'', hresponse, hend⟩ := run_bind.mp hround
      obtain ⟨rfl, -⟩ := run_pure.mp hend
      obtain ⟨filled, rfl, hfilled, hmade⟩ := ih hnames _ hrest
      have hnew : status ∉ rs.map (·.1) := by rwa [hrs, List.mem_eraseDups]
      refine ⟨(status, response) :: filled, ?_, ?_, ?_⟩
      · rw [putNamed_of_notMem hnew, List.append_assoc, List.singleton_append]
      · rw [Status.fresh_cons_of_notMem hseen, List.map_cons, hfilled]
      · exact List.forall_mem_cons.mpr ⟨describes_response hresponse, hmade⟩

/-- **Default responses** stand behind the responses that are there. -/
theorem filledBy_of_run (h : Run (defaults.foldlM addDefault rs) s rs' s')
    (hrs : rs.map (·.1) = seen.eraseDups) :
    ∃ filled, rs' = rs ++ filled ∧ Output.FilledBy seen defaults filled := by
  have hexpand := expand_of_defaults h
  induction defaults generalizing rs seen s with
  | nil =>
    obtain ⟨rfl, -⟩ := run_pure.mp h
    exact ⟨[], by simp, rfl, nofun⟩
  | cons e defaults ih =>
    rw [List.foldlM_cons] at h
    obtain ⟨c, t, hround, hrest⟩ := run_bind.mp h
    obtain ⟨hkey, hkeys⟩ := List.forall_mem_cons.mp hexpand
    have hnames := names_addDefault hround hrs
    obtain ⟨first, rfl, hfirst, hmade⟩ := filled_addDefault hround hrs
    obtain ⟨later, rfl, hlater⟩ := ih hrest hnames hkeys
    refine ⟨first ++ later, List.append_assoc .., ?_, ?_⟩
    · rw [List.map_append, hfirst, hlater.statuses, List.flatMap_cons, Status.fresh_append]
    · rintro entry hentry
      obtain hentry | hentry := List.mem_append.mp hentry
      · -- Filled in by the first default, which is then the first one for its status.
        have hname := List.mem_map_of_mem (f := (·.1)) hentry
        rw [hfirst, Status.mem_fresh] at hname
        exact ⟨e, .cons_self _ ((isFor_iff hkey _).mpr hname.1), hmade entry hentry⟩
      · have hname := List.mem_map_of_mem (f := (·.1)) hentry
        rw [hlater.statuses, Status.mem_fresh, List.mem_append, not_or] at hname
        obtain ⟨d, hd, hdescribes⟩ := hlater.entries entry hentry
        exact ⟨d, hd.cons (mt (isFor_iff hkey _).mp hname.2.2), hdescribes⟩

/-- **Responses of an operation.** A route has declared responses that are the same for all
defaults, and default responses follow them. The keys list statuses. Each declared response is made
from the last declaration for its status, and each other one from the first default for its
status. -/
theorem responses_of_operation (r : Route) :
    ∃ declared, ∀ defaults s o s', Run (operation defaults r) s o s' →
      (∀ e ∈ r.outputs ++ defaults, Status.expand e.1 = .ok (Status.listed e.1)) ∧
        Output.DeclaredBy r.outputs declared ∧
        ∃ filled, o.responses = declared ++ filled ∧
          Output.FilledBy (r.outputs.flatMap (Status.listed ·.1)) defaults filled := by
  obtain ⟨declared, hdeclared⟩ : ∃ declared, ∀ s rs s',
      Run (r.outputs.foldlM addDeclared []) s rs s' → rs = declared := by
    by_cases hrun : ∃ s rs s', Run (r.outputs.foldlM addDeclared []) s rs s'
    · obtain ⟨s, rs, s', h⟩ := hrun
      exact ⟨rs, fun t rs' t' h' => declared_eq h h'⟩
    · exact ⟨[], fun s rs s' h => absurd ⟨s, rs, s', h⟩ hrun⟩
  refine ⟨declared, fun defaults s o s' h => ?_⟩
  obtain ⟨ps, t, rs, t', -, hresponses, -, rfl⟩ := run_operation h
  obtain ⟨rs, t'', hmade, hdefaults⟩ := run_responses hresponses
  obtain rfl := hdeclared _ _ _ hmade
  obtain ⟨filled, rfl, hfilled⟩ := filledBy_of_run hdefaults (names_declared hmade)
  refine ⟨?_, declaredBy_of_run hmade, filled, rfl, hfilled⟩
  exact List.forall_mem_append.mpr ⟨expand_of_declared hmade, expand_of_defaults hdefaults⟩

/-! A route with overlapping keys, and defaults for one of its statuses and for others. -/

namespace Sample

def described (text : String) : Output := { description := some text }

/-- The route: its last declaration for a status is not the first one. -/
def overlapping : Route where
  method := .get
  path := "/a"
  outputs := [("200, 404", described "first"),
    ("404", { described "last" with ref := some "Problem" })]

def overlappingDefaults : List (String × Output) :=
  [("404,default", described "other"), ("default, 500", {})]

end Sample

theorem responses_of_operation_sample :
    ∃ o s' declared filled,
      Run (operation Sample.overlappingDefaults Sample.overlapping) {} o s' ∧
        o.responses = declared ++ filled ∧ Output.DeclaredBy Sample.overlapping.outputs declared ∧
        declared.map (·.1) = ["200", "404"] ∧ filled.map (·.1) = ["default", "500"] := by
  have hrun : ∃ o s', Run (operation Sample.overlappingDefaults Sample.overlapping) {} o s' :=
    ⟨_, _, rfl⟩
  obtain ⟨o, s', hrun⟩ := hrun
  obtain ⟨declared, hall⟩ := responses_of_operation Sample.overlapping
  obtain ⟨-, hdeclared, filled, heq, hfilled⟩ := hall Sample.overlappingDefaults {} o s' hrun
  refine ⟨o, s', declared, filled, hrun, heq, hdeclared, ?_, ?_⟩
  · rw [hdeclared.statuses]
    decide +kernel
  · rw [hfilled.statuses]
    decide +kernel

end Work

end ApiDoc
