import ApiDoc.Proofs.Operation.Recorded
import ApiDoc.Proofs.Validation.Checked
import ApiDoc.Router.Reader

/-!
# Responses and their declarations

The response of an operation for a status is that of the last declaration whose key lists the status
(`Work.answers_operation`). The declarations of a route are those of its record, with those of the
request put over them key by key, and a key that both have stays where the record has it. So of two
different keys that list one status the later one counts, which can be one of the record.

Main statement: `RouteRecord.answers_mergedOutputs`, with the condition under which the request's
last declaration for a status is the one that counts.
-/

namespace ApiDoc

def Status.Lists (key status : String) : Prop := ∃ ss, expand key = .ok ss ∧ status ∈ ss

/-- A declared response is for a status. -/
def Output.IsFor (status : String) (e : String × Output) : Prop := Status.Lists e.1 status

namespace Work

variable {s s' : Session} {rs rs' : List (String × Response)} {status : String}
  {e : String × Output}

/-! ## Declared and default responses -/

/-- The response for a status is what a declaration gives on its own, from any session. -/
def Answers (rs : List (String × Response)) (status : String) (o : Output) : Prop :=
  ∃ response, getNamed? status rs = some response ∧
    ∀ s, (exec (Work.response status o) s).1 = .ok response

/-- What answers for a status is known up to the response that it gives. -/
theorem Answers.iff {o o' : Output} (h : Answers rs status o) :
    Answers rs status o' ↔
      (exec (Work.response status o') {}).1 = (exec (Work.response status o) {}).1 := by
  obtain ⟨response, hget, hresponse⟩ := h
  constructor
  · rintro ⟨response', hget', hresponse'⟩
    obtain rfl := Option.some.inj (hget.symm.trans hget')
    exact (hresponse' {}).trans (hresponse {}).symm
  · intro hsame
    refine ⟨response, hget, fun s => ?_⟩
    rw [(steady_response status o').result_eq s {}, hsame, hresponse]

/-- A declaration sets the responses for the statuses of its key and no others. -/
theorem answers_addDeclared (h : Run (addDeclared rs e) s rs' s') (status : String) :
    (Output.IsFor status e → Answers rs' status e.2) ∧
      (¬ Output.IsFor status e → getNamed? status rs' = getNamed? status rs) := by
  obtain ⟨ss, t, hss, hfold⟩ := run_bind.mp h
  obtain ⟨hexpand, rfl⟩ := statuses_eq hss
  have hloop := run_foldlM (fun done c _ => (status ∈ done → Answers c status e.2) ∧
    (status ∉ done → getNamed? status c = getNamed? status rs)) (fun done x c t c' t' hc hx => ?_)
    ⟨by simp, fun _ => rfl⟩ hfold
  · have hlists : Output.IsFor status e ↔ status ∈ ss := by
      unfold Output.IsFor Status.Lists
      simp only [hexpand, Except.ok.injEq, exists_eq_left']
    rwa [hlists]
  · obtain ⟨response, t'', hresponse, hend⟩ := run_bind.mp hx
    obtain ⟨rfl, rfl⟩ := run_pure.mp hend
    -- A round writes one status and leaves the others as they are.
    by_cases heq : status = x
    · subst heq
      refine ⟨fun _ => ⟨response, ?_, hresponse.result_eq (steady_response status e.2)⟩, ?_⟩
      · rw [getNamed?_putNamed, if_pos rfl]
      · intro hnot
        exact absurd (List.mem_append_right done (List.mem_singleton_self status)) hnot
    · unfold Answers at hc ⊢
      rw [getNamed?_putNamed, if_neg heq]
      simpa [heq] using hc

/-- **Declared responses.** The last declaration for a status counts. -/
theorem answers_declared {outputs : List (String × Output)}
    (h : Run (outputs.foldlM addDeclared []) s rs s')
    (he : IsLast (Output.IsFor status) outputs e) : Answers rs status e.2 := by
  refine run_foldlM
    (fun done rs _ => ∀ e, IsLast (Output.IsFor status) done e → Answers rs status e.2)
    (fun done f rs _ rs' _ hdone hround e he => ?_) (fun e he => absurd he.mem (by simp)) h e he
  obtain ⟨hset, hkeep⟩ := answers_addDeclared hround status
  rcases he.of_concat with ⟨rfl, hfor⟩ | ⟨hnot, hlast⟩
  · exact hset hfor
  · unfold Answers
    rw [hkeep hnot]
    exact hdone e hlast

/-- A default does not replace a response. -/
theorem getNamed?_addDefault {response : Response} (h : Run (addDefault rs e) s rs' s')
    (hresponse : getNamed? status rs = some response) : getNamed? status rs' = some response := by
  obtain ⟨ss, t, hss, hfold⟩ := run_bind.mp h
  refine run_foldlM (fun _ c _ => getNamed? status c = some response)
    (fun _ x c _ c' _ hc hx => ?_) hresponse hfold
  split at hx
  · obtain ⟨rfl, rfl⟩ := run_pure.mp hx
    exact hc
  · rename_i hmissing
    obtain ⟨_, _, -, hend⟩ := run_bind.mp hx
    obtain ⟨rfl, rfl⟩ := run_pure.mp hend
    have hne : status ≠ x := by
      rintro rfl
      exact hmissing (by rw [hc]; rfl)
    rwa [getNamed?_putNamed, if_neg hne]

/-- **Responses of an operation.** For a status that is declared the last declaration counts. -/
theorem answers_operation {defaults : List (String × Output)} {r : Route} {o : Operation}
    (h : Run (operation defaults r) s o s') (he : IsLast (Output.IsFor status) r.outputs e) :
    Answers o.responses status e.2 := by
  obtain ⟨ps, t, rs, t', -, hrs, -, rfl⟩ := run_operation h
  obtain ⟨declared, _, hdeclared, hdefaults⟩ := run_responses hrs
  obtain ⟨response, hget, hresponse⟩ := answers_declared hdeclared he
  refine ⟨response, ?_, hresponse⟩
  exact run_foldlM (fun _ rs _ => getNamed? status rs = some response)
    (fun _ _ _ _ _ _ hc hround => getNamed?_addDefault hround hc) hget hdefaults

end Work

/-! ## Merged declarations -/

namespace RouteRecord

/-- No two declarations of a record have the same key, and no two of its request. -/
structure Proper (r : RouteRecord) : Prop where
  output : (r.output.map (·.1)).Nodup
  request : ∀ request, r.request = some request → (request.output.map (·.1)).Nodup

/-- The declaration that a request has under a key counts for a status: the record does not have the
key, or it is the record's last key for the status and the record has all keys of the request for
it. -/
def RequestCounts (r : RouteRecord) (request : RequestSpec) (status key : String) : Prop :=
  key ∉ r.output.map (·.1) ∨
    (∃ o, IsLast (Output.IsFor status) r.output (key, o)) ∧
      ∀ f ∈ request.output, Output.IsFor status f → f.1 ∈ r.output.map (·.1)

/-! A record that lists a status in two keys, of which its request has the first one. -/

namespace Sample

def request : RequestSpec := { output := [("200", { description := some "of the request" })] }

def record : RouteRecord where
  methods := [.get]
  path := "/a"
  request := some request
  output := [("200", { description := some "one" }), ("200,201", { description := some "both" })]

def route : Route :=
  { method := .get, path := "/a", request := some request, outputs := record.mergedOutputs }

theorem proper : record.Proper where
  output := by decide
  request := by
    intro spec h
    obtain rfl : request = spec := Option.some.inj h
    decide

theorem isLast : IsLast (Output.IsFor "200") request.output
    ("200", { description := some "of the request" }) :=
  ⟨[], [], rfl, ⟨["200"], rfl, List.mem_singleton_self _⟩, by simp⟩

end Sample

variable {record : RouteRecord} {request : RequestSpec} {status : String} {e : String × Output}

/-- The keys of the record come first, with the declarations of the request where it has them, and
the other keys of the request follow. -/
theorem mergedOutputs_eq (hp : record.Proper) (hrequest : record.request = some request) :
    record.mergedOutputs =
      record.output.map (fun e => (e.1, (getNamed? e.1 request.output).getD e.2)) ++
        request.output.filter (·.1 ∉ record.output.map (·.1)) := by
  unfold mergedOutputs
  rw [hrequest]
  exact foldl_putNamed hp.output (hp.request request hrequest)

/-- The last key of the record for a status stays its last one under the declarations of the
request. -/
theorem isLast_overlaid (request : RequestSpec) {f : String × Output}
    (hf : IsLast (Output.IsFor status) record.output f) :
    IsLast (Output.IsFor status)
      (record.output.map fun e => (e.1, (getNamed? e.1 request.output).getD e.2))
      (f.1, (getNamed? f.1 request.output).getD f.2) :=
  hf.map fun _ => Iff.rfl

theorem requestCounts_of_isLast (hp : record.Proper) (hrequest : record.request = some request)
    (he : IsLast (Output.IsFor status) request.output e)
    (hlast : IsLast (Output.IsFor status) record.mergedOutputs e) :
    record.RequestCounts request status e.1 := by
  rw [mergedOutputs_eq hp hrequest] at hlast
  by_cases hkey : e.1 ∈ record.output.map (·.1)
  · -- Nothing that only the request has can follow, so the last key of the record counts.
    have hnone : ∀ f ∈ request.output.filter (·.1 ∉ record.output.map (·.1)),
        ¬ Output.IsFor status f := by
      intro f hf hfor
      obtain ⟨g, hg⟩ := exists_isLast ⟨f, hf, hfor⟩
      obtain rfl := (hg.append_left _).unique hlast
      have hmem := List.mem_filter.mp hg.mem
      exact absurd hkey (by simpa using hmem.2)
    obtain ⟨⟨key, o⟩, ho, hname⟩ := List.mem_map.mp hkey
    have hfor : Output.IsFor status (key, o) := by
      have := he.prop
      unfold Output.IsFor at this ⊢
      rwa [hname]
    obtain ⟨f, hf⟩ := exists_isLast ⟨_, ho, hfor⟩
    have heq := ((isLast_overlaid request hf).append hnone).unique hlast
    refine .inr ⟨⟨f.2, ?_⟩, fun g hg hgfor => ?_⟩
    · rwa [← heq]
    · by_contra hgkey
      exact hnone g (List.mem_filter.mpr ⟨hg, by simpa using hgkey⟩) hgfor
  · exact .inl hkey

theorem isLast_of_requestCounts (hp : record.Proper) (hrequest : record.request = some request)
    (he : IsLast (Output.IsFor status) request.output e)
    (hcounts : record.RequestCounts request status e.1) :
    IsLast (Output.IsFor status) record.mergedOutputs e := by
  rw [mergedOutputs_eq hp hrequest]
  rcases hcounts with hkey | ⟨⟨o, ho⟩, hall⟩
  · -- A key that only the request has stands behind all keys of the record.
    have hnew : IsLast (Output.IsFor status)
        (request.output.filter (·.1 ∉ record.output.map (·.1))) e :=
      he.filter (by simpa using hkey)
    exact hnew.append_left _
  · -- The request's declaration has the place of the record's last one, and no other follows.
    have hget : getNamed? e.1 request.output = some e.2 :=
      getNamed?_of_mem (hp.request request hrequest) he.mem
    have hlast := isLast_overlaid request ho
    rw [hget, Option.getD_some] at hlast
    refine hlast.append fun f hf hfor => ?_
    obtain ⟨hmem, hkey⟩ := List.mem_filter.mp hf
    exact absurd (hall f hmem hfor) (by simpa using hkey)

theorem isLast_mergedOutputs (hp : record.Proper) (hrequest : record.request = some request)
    (he : IsLast (Output.IsFor status) request.output e) :
    IsLast (Output.IsFor status) record.mergedOutputs e ↔
      record.RequestCounts request status e.1 :=
  ⟨requestCounts_of_isLast hp hrequest he, isLast_of_requestCounts hp hrequest he⟩

/-- A status that the request declares is one of a merged declaration. -/
theorem exists_isFor_mergedOutputs (hp : record.Proper) (hrequest : record.request = some request)
    (he : e ∈ request.output) (hfor : Output.IsFor status e) :
    ∃ f ∈ record.mergedOutputs, Output.IsFor status f := by
  rw [mergedOutputs_eq hp hrequest]
  by_cases hkey : e.1 ∈ record.output.map (·.1)
  · obtain ⟨f, hf, hname⟩ := List.mem_map.mp hkey
    refine ⟨_, List.mem_append_left _ (List.mem_map.mpr ⟨f, hf, rfl⟩), ?_⟩
    unfold Output.IsFor at hfor ⊢
    rwa [hname]
  · refine ⟨e, List.mem_append_right _ ?_, hfor⟩
    exact List.mem_filter.mpr ⟨he, by simpa using hkey⟩

/-- **Responses that the request declares.** Of the merged declarations for a status the last one
counts. It is the last one of the request exactly under `RequestCounts`. -/
theorem answers_mergedOutputs (hp : record.Proper) (hrequest : record.request = some request)
    {defaults : List (String × Output)} {mount : String} {r : Route} {o : Operation}
    {s s' : Session} (hr : r ∈ record.routes mount)
    (h : Work.Run (Work.operation defaults r) s o s')
    (he : IsLast (Output.IsFor status) request.output e) :
    ∃ w, IsLast (Output.IsFor status) record.mergedOutputs w ∧
      Work.Answers o.responses status w.2 ∧
      (w = e ↔ record.RequestCounts request status e.1) ∧
      (Work.Answers o.responses status e.2 ↔ record.RequestCounts request status e.1 ∨
        (Work.exec (Work.response status e.2) {}).1 =
          (Work.exec (Work.response status w.2) {}).1) := by
  obtain ⟨w, hw⟩ := exists_isLast (exists_isFor_mergedOutputs hp hrequest he.mem he.prop)
  have houtputs : r.outputs = record.mergedOutputs := by
    obtain ⟨method, -, rfl⟩ := List.mem_map.mp hr
    rfl
  have hcounts : w = e ↔ record.RequestCounts request status e.1 := by
    rw [← isLast_mergedOutputs hp hrequest he]
    exact ⟨fun heq => heq ▸ hw, fun hlast => hw.unique hlast⟩
  have hanswers : Work.Answers o.responses status w.2 :=
    Work.answers_operation h (houtputs.symm ▸ hw)
  refine ⟨w, hw, hanswers, hcounts, ?_⟩
  -- What answers is the work on `w` alone, so `e` answers as well when the two give the same.
  rw [hanswers.iff]
  constructor
  · exact .inr
  · rintro (hcond | hsame)
    · rw [hcounts.mpr hcond]
    · exact hsame

theorem answers_mergedOutputs_sample :
    ∃ o s' e, Sample.record.Proper ∧ Sample.record.request = some Sample.request ∧
      Sample.route ∈ Sample.record.routes "" ∧
      Work.Run (Work.operation [] Sample.route) {} o s' ∧
      IsLast (Output.IsFor "200") Sample.request.output e ∧
      ∃ w, IsLast (Output.IsFor "200") Sample.record.mergedOutputs w ∧
        Work.Answers o.responses "200" w.2 ∧
        (w = e ↔ Sample.record.RequestCounts Sample.request "200" e.1) := by
  have h : ∃ o s', Work.Run (Work.operation [] Sample.route) {} o s' := ⟨_, _, rfl⟩
  obtain ⟨o, s', h⟩ := h
  have hr : Sample.route ∈ Sample.record.routes "" := List.mem_singleton_self _
  obtain ⟨w, hw, hanswers, hcounts, -⟩ :=
    answers_mergedOutputs Sample.proper rfl hr h Sample.isLast
  exact ⟨o, s', _, Sample.proper, rfl, hr, h, Sample.isLast, w, hw, hanswers, hcounts⟩

/-- A declaration of the request does not count for a status that a later key of the record has. -/
theorem not_answers_request :
    ∃ o s' e, Sample.record.Proper ∧ Sample.record.request = some Sample.request ∧
      Sample.route ∈ Sample.record.routes "" ∧
      Work.Run (Work.operation [] Sample.route) {} o s' ∧
      IsLast (Output.IsFor "200") Sample.request.output e ∧
      ¬ Work.Answers o.responses "200" e.2 := by
  refine ⟨_, _, _, Sample.proper, rfl, List.mem_singleton_self _, rfl, Sample.isLast, ?_⟩
  rintro ⟨response, hget, hresponse⟩
  -- The key `200,201` of the record is expanded behind `200`, and sets the response again.
  have hboth : response.description = "both" := by
    rw [← Option.some.inj hget]
    rfl
  have hrequest : response.description = "of the request" := by
    rw [← Except.ok.inj (hresponse {})]
    rfl
  exact absurd (hboth.symm.trans hrequest) (by decide)

end RouteRecord

/-! ## Records that are read -/

theorem Output.gives_readNamed : Checked.Gives readNamed fun m => (m.map (·.1)).Nodup :=
  fun v => Checked.gives_mappingOf Output.read v.withTextKeys

theorem RequestSpec.gives_read : Checked.Gives read fun r => (r.output.map (·.1)).Nodup := by
  intro v
  unfold read
  cases v.entries? with
  | none => exact Checked.ensures_issue _ v
  | some es =>
    change Checked.Ensures _ _
    refine .seq (Output.gives_readNamed.fieldOr (by simp)) ?_
    refine .skip (.skip (.skip (.skip (.skip (.map ?_)))))
    exact fun _ _ _ _ _ _ _ _ houtput => houtput

theorem RouteRecord.gives_read : Checked.Gives read Proper := by
  intro v
  unfold read
  cases v.entries? with
  | none => exact Checked.ensures_issue _ v
  | some es =>
    change Checked.Ensures _ _
    refine .seq (Output.gives_readNamed.fieldOr (by simp)) ?_
    refine .seq (RequestSpec.gives_read.optional.fieldOr (by simp)) (.skip (.skip (.map ?_)))
    exact fun _ _ _ _ _ hrequest _ houtput => ⟨houtput, hrequest⟩

/-- Every record that is read is proper. -/
theorem Router.gives_read : Checked.Gives read fun router => ∀ r ∈ router.records, r.Proper := by
  intro v
  unfold read
  cases v.entries? with
  | none => exact Checked.ensures_issue _ v
  | some es =>
    change Checked.Ensures _ _
    refine .seq (RouteRecord.gives_read.listOf.fieldOr (by simp)) (.map ?_)
    exact fun _ _ _ hrecords => hrecords

end ApiDoc
