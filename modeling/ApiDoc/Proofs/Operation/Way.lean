import ApiDoc.Proofs.Operation.Parameters
import ApiDoc.Proofs.Registry

/-!
# The way of an operation

The work on an operation makes stops in a fixed order: at the nodes and references of the schemas
that it translates, and at the keys of its responses. `Route.way` is this order, said without doing
the work. A stop may have an error, and the first error on the way is how the work ends. Work
without an error on its way ends well and has recorded the references on it (`Work.Follows`).

**Default responses.** A default is translated only for those statuses that have no response yet, so
its stops depend on the statuses before it. These are known from the keys alone
(`Work.names_addDefault`).

Main statements: `Work.follows_operation`, and `Work.names_responses` for the statuses of an
operation.
-/

namespace ApiDoc

open Registry (Use)

/-! ## Stops -/

def Status.listed (key : String) : List String := (list key.toList).map .ofList

/-- One stop on the way of work on a document: a stop of a translation, the key of a response, or a
tag that is configured. -/
inductive Stop where
  | visit (v : Visit)
  | key (key : String)
  | configured (tag : List (String × Value))

namespace Stop

/-- The error at a stop: the fault of a node, a piece of a key that is no status, or the name of a
tag that cannot be compared. -/
def error? : Stop → Option Error
  | visit v => v.fault?.map .translation
  | key k =>
    match Status.expand k with
    | .ok _ => none
    | .error piece => some (.badStatus piece)
  | configured tag =>
    match Work.tagName tag with
    | .ok _ => none
    | .error f => some (.fault f)

def firstError? (way : List Stop) : Option Error := way.findSome? error?

/-- The reference at a stop. -/
def ref? : Stop → Option String
  | visit (.tag r) => some r
  | _ => none

/-- The references on a way, in order. -/
def refs (way : List Stop) : List String := way.filterMap ref?

theorem firstError?_eq_none_iff {way : List Stop} :
    firstError? way = none ↔ ∀ stop ∈ way, stop.error? = none := List.findSome?_eq_none_iff

theorem firstError?_append (v w : List Stop) :
    firstError? (v ++ w) = (firstError? v).or (firstError? w) := List.findSome?_append

theorem refs_append (v w : List Stop) : refs (v ++ w) = refs v ++ refs w := List.filterMap_append

theorem firstError?_visits (way : List Visit) :
    firstError? (way.map visit) = (Visit.firstFault? way).map .translation := by
  induction way with
  | nil => rfl
  | cons v way ih =>
    unfold firstError? Visit.firstFault? at ih ⊢
    rw [List.map_cons, List.findSome?_cons, List.findSome?_cons, ih, error?]
    cases v.fault? <;> rfl

theorem refs_visits {way : List Visit} (h : Visit.firstFault? way = none) :
    refs (way.map visit) = Visit.met way := by
  induction way with
  | nil => rfl
  | cons v way ih =>
    cases v with
    | tag r => exact congrArg (r :: ·) (ih h)
    | node n =>
      rw [Visit.firstFault?_node, Option.or_eq_none_iff] at h
      rw [Visit.met, h.1]
      exact ih h.2

end Stop

namespace Work

variable {α β : Type} {s s' : Session}

/-- Work goes a way: it fails with the first error on it, and if there is none, it ends well and has
recorded the references on the way. -/
structure Follows (x : Work α) (way : List Stop) : Prop where
  fails : ∀ e, Stop.firstError? way = some e → ∀ s, ∃ t, exec x s = (.error e, t)
  succeeds : Stop.firstError? way = none → ∀ s, ∃ a t, Run x s a t ∧
    t.registry = s.registry.recordAll (Stop.refs way)

namespace Follows

theorem pure (a : α) : Follows (pure a) [] :=
  ⟨nofun, fun _ s => ⟨a, s, rfl, rfl⟩⟩

/-- A stop without an error and without a reference is passed. -/
theorem pass {stop : Stop} (herror : stop.error? = none) (href : stop.ref? = none) (a : α) :
    Follows (Pure.pure a) [stop] := by
  constructor
  · intro e he
    rw [Stop.firstError?, List.findSome?_singleton, herror] at he
    cases he
  · refine fun _ s => ⟨a, s, rfl, ?_⟩
    rw [Stop.refs, List.filterMap_cons_none href]
    rfl

theorem throw {stop : Stop} {e : Error} (h : stop.error? = some e) (way : List Stop) :
    Follows (throw e : Work α) (stop :: way) := by
  have hfirst : Stop.firstError? (stop :: way) = some e := by
    rw [Stop.firstError?, List.findSome?_cons, h]
  constructor
  · intro d hd s
    obtain rfl := Option.some.inj (hfirst.symm.trans hd)
    exact ⟨s, rfl⟩
  · intro hnone
    rw [hfirst] at hnone
    cases hnone

theorem notify (n : Notice) : Follows (notify n) [] :=
  ⟨nofun, fun _ s => ⟨(), s.apply (.notify n), rfl, rfl⟩⟩

/-- What comes next follows the rest of the way. -/
theorem bind {x : Work α} {f : α → Work β} {v w : List Stop} (hx : x.Follows v)
    (hf : ∀ s a t, Run x s a t → (f a).Follows w) : (x >>= f).Follows (v ++ w) := by
  constructor
  · intro e he s
    rw [Stop.firstError?_append, Option.or_eq_some_iff] at he
    rcases he with he | ⟨hnone, he⟩
    · obtain ⟨t, ht⟩ := hx.fails e he s
      exact ⟨t, by rw [exec_bind, ht]⟩
    · obtain ⟨a, t, hrun, -⟩ := hx.succeeds hnone s
      obtain ⟨t', ht'⟩ := (hf s a t hrun).fails e he t
      exact ⟨t', by rw [exec_bind, hrun, ← ht']⟩
  · intro hnone s
    rw [Stop.firstError?_append, Option.or_eq_none_iff] at hnone
    obtain ⟨a, t, hrun, ht⟩ := hx.succeeds hnone.1 s
    obtain ⟨b, t', hrun', ht'⟩ := (hf s a t hrun).succeeds hnone.2 t
    refine ⟨b, t', run_bind.mpr ⟨a, t, hrun, hrun'⟩, ?_⟩
    rw [ht', ht, Stop.refs_append, Registry.recordAll_append]

/-- Work that makes one stop first. -/
theorem bind_cons {x : Work α} {f : α → Work β} {stop : Stop} {way : List Stop}
    (hx : x.Follows [stop]) (hf : ∀ s a t, Run x s a t → (f a).Follows way) :
    (x >>= f).Follows (stop :: way) := hx.bind hf

/-- What comes next makes no stops. -/
theorem bind_nil {x : Work α} {f : α → Work β} {way : List Stop} (hx : x.Follows way)
    (hf : ∀ s a t, Run x s a t → (f a).Follows []) : (x >>= f).Follows way := by
  have h := hx.bind hf
  rwa [List.append_nil] at h

theorem map {x : Work α} {way : List Stop} (hx : x.Follows way) (f : α → β) :
    (f <$> x).Follows way := hx.bind_nil fun _ a _ _ => pure (f a)

theorem mapM {f : α → Work β} {way : α → List Stop} {xs : List α}
    (hf : ∀ x ∈ xs, (f x).Follows (way x)) : (xs.mapM f).Follows (xs.flatMap way) := by
  induction xs with
  | nil => exact pure []
  | cons x xs ih =>
    rw [List.mapM_cons, List.flatMap_cons]
    refine (hf x List.mem_cons_self).bind fun _ y _ _ => ?_
    exact (ih fun x hx => hf x (List.mem_cons_of_mem _ hx)).bind_nil fun _ ys _ _ => pure (y :: ys)

theorem foldlM {step : β → α → Work β} {way : α → List Stop} {xs : List α} (b : β)
    (hstep : ∀ b, ∀ x ∈ xs, (step b x).Follows (way x)) :
    (xs.foldlM step b).Follows (xs.flatMap way) := by
  induction xs generalizing b with
  | nil => exact pure b
  | cons x xs ih =>
    rw [List.foldlM_cons, List.flatMap_cons]
    refine (hstep b x List.mem_cons_self).bind fun _ c _ _ => ?_
    exact ih c fun b x hx => hstep b x (List.mem_cons_of_mem _ hx)

end Follows

/-! ## Schemas -/

theorem follows_ofTranslation {t : Translation α} {way : List Visit} (h : t.Follows way) :
    (ofTranslation t).Follows (way.map .visit) := by
  constructor
  · intro e he s
    rw [Stop.firstError?_visits] at he
    obtain ⟨fault, hfault, rfl⟩ := Option.map_eq_some_iff.mp he
    exact ⟨_, by rw [ofTranslation, exec_bind, exec_recordAll, h.fails fault hfault]; rfl⟩
  · intro hnone s
    rw [Stop.firstError?_visits, Option.map_eq_none_iff] at hnone
    obtain ⟨a, ha⟩ := h.succeeds hnone
    have hexec : exec (ofTranslation t) s = (.ok a, s.after (t.refs.map .record)) := by
      rw [ofTranslation, exec_bind, exec_recordAll, ha]
      rfl
    refine ⟨a, _, hexec, ?_⟩
    rw [Session.registry_after_record, h.refs, Stop.refs_visits hnone]

theorem follows_inline (n : Node) :
    (inline (some n)).Follows ((n.visits false).map .visit) :=
  follows_ofTranslation (Node.follows_translateTagged referenceTo false n)

/-- A use of the registry goes its way, unless there is nothing to translate. -/
theorem follows_use {u : Use} (h : u.way ≠ []) : u.work.Follows (u.way.map .visit) := by
  obtain ⟨n, tagged, hwork, hway⟩ | ⟨-, hway⟩ := u.work_cases
  · rw [hwork, hway]
    exact follows_ofTranslation (Node.follows_translateTagged referenceTo tagged n)
  · exact absurd hway h

theorem way_resolve_ne_nil (n : Node) (ref : Option String) :
    (Use.resolve (some n) ref).way ≠ [] := by
  unfold Use.way
  dsimp only
  split
  · simp
  · rw [Option.map_some, Option.getD_some, Node.visits_eq]
    split <;> simp

end Work

/-! ## Parameters -/

namespace Route

/-- The way of the parts that a route declares for a location. -/
def declaredWay (r : Route) (l : Location) : List Stop :=
  (r.declared l).flatMap fun part => (part.2.visits false).map .visit

/-- The way of the body of a route, if there is one. -/
def bodyWay (r : Route) : List Stop :=
  ((r.request.bind fun request => request.body.map fun body =>
    (Use.resolve (some body) request.ref).way).getD []).map .visit

def parameterWay (r : Route) : List Stop :=
  r.declaredWay .path ++ (r.declaredWay .query ++ (r.declaredWay .header ++ r.bodyWay))

end Route

namespace Work

theorem follows_declaredParameters (r : Route) (l : Location) :
    (declaredParameters l (r.request.bind (·.node? l))).Follows (r.declaredWay l) := by
  unfold Route.declaredWay Route.declared declaredParameters
  cases r.request.bind (·.node? l) with
  | none => exact .pure []
  | some n =>
    exact .mapM fun part _ => (follows_inline part.2).bind_nil fun _ _ _ _ => .pure _

theorem follows_parameters (r : Route) (path : String) :
    (parameters r path).Follows r.parameterWay := by
  refine (follows_declaredParameters r .path).bind fun _ inPath _ _ => ?_
  refine (follows_declaredParameters r .query).bind fun _ inQuery _ _ => ?_
  refine (follows_declaredParameters r .header).bind fun _ inHeader _ _ => ?_
  unfold Route.bodyWay
  dsimp only
  split
  · rename_i hrequest
    rw [hrequest]
    exact (follows_use (way_resolve_ne_nil _ _)).bind_nil fun _ _ _ _ => .pure _
  · rename_i hnone
    have hway : (r.request.bind fun request => request.body.map fun body =>
        (Use.resolve (some body) request.ref).way) = none := by
      simpa [Option.bind_eq_none_iff] using r.body_eq_none hnone
    rw [hway]
    exact .pure _

end Work

/-! ## Responses -/

/-- The way of the response of a declaration. -/
def Output.way (o : Output) : List Stop :=
  (Use.resolve o.body o.ref).way.map .visit ++
    ((o.headers.map Work.parts).getD []).flatMap fun part => (part.2.visits false).map .visit

namespace Status

/-- The statuses that are not among those seen before, each once. -/
def fresh (seen statuses : List String) : List String := (statuses.filter (· ∉ seen)).eraseDups

theorem fresh_cons_of_mem {seen ss : List String} {status : String} (h : status ∈ seen) :
    fresh seen (status :: ss) = fresh seen ss := by
  rw [fresh, List.filter_cons_of_neg (by simpa using h), fresh]

theorem fresh_cons_of_notMem {seen ss : List String} {status : String} (h : status ∉ seen) :
    fresh seen (status :: ss) = status :: fresh (seen ++ [status]) ss := by
  rw [fresh, List.filter_cons_of_pos (by simpa using h), List.eraseDups_cons, List.filter_filter,
    fresh]
  congr 2
  refine List.filter_congr fun other _ => ?_
  by_cases heq : other = status <;> simp [heq]

end Status

/-- The way of a declared response: its key, and the declaration once for each status. -/
def Output.declaredWay (e : String × Output) : List Stop :=
  .key e.1 :: (Status.listed e.1).flatMap fun _ => e.2.way

/-- The way of default responses, after the responses for the statuses seen before. -/
def Output.defaultWay (seen : List String) : List (String × Output) → List Stop
  | [] => []
  | e :: es =>
    .key e.1 :: (Status.fresh seen (Status.listed e.1)).flatMap (fun _ => e.2.way) ++
      defaultWay (seen ++ Status.listed e.1) es

def Route.responseWay (defaults : List (String × Output)) (r : Route) : List Stop :=
  r.outputs.flatMap Output.declaredWay ++
    Output.defaultWay (r.outputs.flatMap (Status.listed ·.1)) defaults

/-- The way of the operation of a route. -/
def Route.way (defaults : List (String × Output)) (r : Route) : List Stop :=
  r.parameterWay ++ r.responseWay defaults

namespace Work

variable {s s' : Session} {rs rs' : List (String × Response)} {e : String × Output}
  {status : String} {o : Output} {seen ss : List String}

/-! ### Statuses of responses -/

theorem eq_listed_of_run (h : Run (statuses e.1) s ss s') : ss = Status.listed e.1 ∧ s' = s := by
  obtain ⟨hss, rfl⟩ := statuses_eq h
  refine ⟨?_, rfl⟩
  unfold Status.expand at hss
  dsimp only at hss
  split at hss
  · cases hss
  · exact (Except.ok.inj hss).symm

theorem names_putResponse (h : Run (do return putNamed status (← response status o) rs) s rs' s')
    (hrs : rs.map (·.1) = seen.eraseDups) : rs'.map (·.1) = (seen ++ [status]).eraseDups := by
  obtain ⟨response, t, -, hend⟩ := run_bind.mp h
  obtain ⟨rfl, -⟩ := run_pure.mp hend
  rw [names_putNamed, hrs, eraseDups_concat]
  simp only [List.mem_eraseDups]

/-- The statuses of a key are seen one after the other. -/
theorem names_statuses {put : List (String × Response) → String → Work (List (String × Response))}
    (hput : ∀ seen status c c' t t', Run (put c status) t c' t' → c.map (·.1) = seen.eraseDups →
      c'.map (·.1) = (seen ++ [status]).eraseDups)
    (h : Run (do (← statuses e.1).foldlM put rs) s rs' s') (hrs : rs.map (·.1) = seen.eraseDups) :
    rs'.map (·.1) = (seen ++ Status.listed e.1).eraseDups := by
  obtain ⟨ss, t, hss, hfold⟩ := run_bind.mp h
  obtain ⟨rfl, -⟩ := eq_listed_of_run hss
  refine run_foldlM (fun done c _ => c.map (·.1) = (seen ++ done).eraseDups)
    (fun done status c t c' t' hc hx => ?_) (by rwa [List.append_nil]) hfold
  rw [← List.append_assoc]
  exact hput _ _ _ _ _ _ hx hc

theorem names_addDeclared (h : Run (addDeclared rs e) s rs' s')
    (hrs : rs.map (·.1) = seen.eraseDups) :
    rs'.map (·.1) = (seen ++ Status.listed e.1).eraseDups :=
  names_statuses (fun _ _ _ _ _ _ hx hc => names_putResponse hx hc) h hrs

/-- Default responses stand behind those that are there, in the order of their statuses. -/
theorem names_addDefault (h : Run (addDefault rs e) s rs' s')
    (hrs : rs.map (·.1) = seen.eraseDups) :
    rs'.map (·.1) = (seen ++ Status.listed e.1).eraseDups := by
  refine names_statuses (fun before status c c' t t' hx hc => ?_) h hrs
  split at hx
  · rename_i hthere
    obtain ⟨rfl, -⟩ := run_pure.mp hx
    rw [isSome_getNamed?_iff, hc, List.mem_eraseDups] at hthere
    rw [hc, eraseDups_concat, if_pos hthere]
  · exact names_putResponse hx hc

theorem names_declared {outputs : List (String × Output)}
    (h : Run (outputs.foldlM addDeclared []) s rs s') :
    rs.map (·.1) = (outputs.flatMap (Status.listed ·.1)).eraseDups := by
  refine run_foldlM (fun done c _ => c.map (·.1) = (done.flatMap (Status.listed ·.1)).eraseDups)
    (fun done e c t c' t' hc hx => ?_) rfl h
  rw [List.flatMap_append, List.flatMap_singleton]
  exact names_addDeclared hx hc

/-- **Statuses of an operation.** They are those that the declared and the default keys list, each
at its first occurrence. -/
theorem names_responses {defaults : List (String × Output)} {r : Route}
    (h : Run (responses defaults r) s rs s') :
    rs.map (·.1) = ((r.outputs ++ defaults).flatMap (Status.listed ·.1)).eraseDups := by
  obtain ⟨declared, t, hdeclared, hdefaults⟩ := run_responses h
  refine run_foldlM
    (fun done c _ => c.map (·.1) = ((r.outputs ++ done).flatMap (Status.listed ·.1)).eraseDups)
    (fun done e c t c' t' hc hx => ?_) (by rw [names_declared hdeclared, List.append_nil]) hdefaults
  rw [← List.append_assoc, List.flatMap_append, List.flatMap_singleton]
  exact names_addDefault hx hc

/-! ### Going the way -/

theorem follows_statuses (key : String) : (statuses key).Follows [.key key] := by
  unfold statuses
  cases hexpand : Status.expand key with
  | ok ss => exact .pass (by simp [Stop.error?, hexpand]) rfl ss
  | error piece => exact .throw (by simp [Stop.error?, hexpand]) []

theorem follows_responseSchema (o : Output) :
    (responseSchema o).Follows ((Use.resolve o.body o.ref).way.map .visit) := by
  obtain ⟨body, ref, description, headers⟩ := o
  unfold responseSchema
  cases body with
  | some body => exact (follows_use (way_resolve_ne_nil body ref)).map _
  | none =>
    cases ref with
    | none => exact .pure none
    | some r =>
      dsimp only
      by_cases hempty : r.isEmpty
      · rw [if_pos hempty]
        simpa [Use.way, Option.filter, hempty] using Follows.pure none
      · rw [if_neg hempty]
        have hway : (Use.resolve none (some r)).way = [.tag r] := by
          simp [Use.way, Option.filter, hempty]
        exact (follows_use (hway ▸ List.cons_ne_nil _ _)).map _

theorem follows_response (status : String) (o : Output) : (response status o).Follows o.way := by
  refine (follows_responseSchema o).bind fun _ schema _ _ => ?_
  refine Follows.bind_nil ?_ fun _ _ _ _ => .pure _
  unfold responseHeaders
  cases o.headers with
  | none => exact .pure none
  | some n =>
    exact .map (.mapM fun part _ => (follows_inline part.2).bind_nil fun _ _ _ _ => .pure _) _

theorem follows_putResponse (status : String) (o : Output) (rs : List (String × Response)) :
    (do return putNamed status (← response status o) rs : Work _).Follows o.way :=
  (follows_response status o).bind_nil fun _ _ _ _ => .pure _

theorem follows_addDeclared (rs : List (String × Response)) (e : String × Output) :
    (addDeclared rs e).Follows (Output.declaredWay e) := by
  refine (follows_statuses e.1).bind_cons fun _ ss _ hss => ?_
  obtain ⟨rfl, -⟩ := eq_listed_of_run hss
  exact .foldlM rs fun rs status _ => follows_putResponse status e.2 rs

theorem follows_addDefault (hrs : rs.map (·.1) = seen.eraseDups) :
    (addDefault rs e).Follows
      (.key e.1 :: (Status.fresh seen (Status.listed e.1)).flatMap fun _ => e.2.way) := by
  refine (follows_statuses e.1).bind_cons fun _ ss _ hss => ?_
  obtain ⟨rfl, -⟩ := eq_listed_of_run hss
  generalize Status.listed e.1 = ss
  induction ss generalizing rs seen with
  | nil => exact .pure rs
  | cons status ss ih =>
    rw [List.foldlM_cons]
    have hthere : (getNamed? status rs).isSome ↔ status ∈ seen := by
      rw [isSome_getNamed?_iff, hrs, List.mem_eraseDups]
    by_cases hseen : status ∈ seen
    · rw [if_pos (hthere.mpr hseen), Status.fresh_cons_of_mem hseen]
      refine Follows.bind (v := []) (.pure rs) fun _ c _ hc => ?_
      obtain ⟨rfl, -⟩ := run_pure.mp hc
      exact ih hrs
    · rw [if_neg (mt hthere.mp hseen), Status.fresh_cons_of_notMem hseen, List.flatMap_cons]
      refine (follows_putResponse status e.2 rs).bind fun _ c _ hc => ?_
      exact ih (names_putResponse hc hrs)

theorem follows_defaults {defaults : List (String × Output)} (hrs : rs.map (·.1) = seen.eraseDups) :
    (defaults.foldlM addDefault rs).Follows (Output.defaultWay seen defaults) := by
  induction defaults generalizing rs seen with
  | nil => exact .pure rs
  | cons e defaults ih =>
    rw [List.foldlM_cons]
    exact (follows_addDefault hrs).bind fun _ c _ hc => ih (names_addDefault hc hrs)

theorem follows_responses (defaults : List (String × Output)) (r : Route) :
    (responses defaults r).Follows (r.responseWay defaults) := by
  refine (Follows.foldlM [] fun rs e _ => follows_addDeclared rs e).bind fun _ declared _ h => ?_
  exact follows_defaults (names_declared h)

/-- **The work on an operation** goes the way of its route. -/
theorem follows_operation (defaults : List (String × Output)) (r : Route) :
    (operation defaults r).Follows (r.way defaults) := by
  refine (follows_parameters r r.fullPath).bind fun _ ps _ _ => ?_
  refine (follows_responses defaults r).bind_nil fun _ rs _ _ => ?_
  exact (Follows.notify _).bind_nil fun _ _ _ _ => .pure _

end Work

end ApiDoc
