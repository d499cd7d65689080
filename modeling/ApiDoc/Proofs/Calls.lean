import ApiDoc.Api
import ApiDoc.Proofs.Router.Ignored

/-!
# Runs of an api

An api is used by one call after the other: routers are added, and documents are generated. A call
can fail, for the router cannot be read, or the filter of the caller fails, or the document cannot
be generated. What a call adds to the api is decided by the call alone (`Call.collected?`), so the
routes of an api after any calls are those that its successful additions have collected, in order
(`Api.routes_after`). All other calls could as well have been left out (`Api.after_filter`).

Collecting the records of one router is collecting the first of them and then the others
(`Router.collectFrom_append`). So a router can be added in pieces.

Main statement: `Api.answer_after`.
-/

namespace ApiDoc

/-! ## Calls -/

/-- An argument of a call: it is there already, or it is a value that the call has to read. -/
inductive Argument (α : Type) where
  | given (a : α)
  | raw (v : Value)

def Argument.get {α : Type} (ofValue : Value → Except Error α) : Argument α → Except Error α
  | given a => .ok a
  | raw v => ofValue v

/-- A call on an api. A filter may fail; its errors are of the type `ε`. -/
inductive Call (ε : Type) where
  | add (router : Argument Router) (mount : Option String) (keep : RouteRecord → Except ε Bool)
  | generate (document : Argument DocumentConfig) (options : Argument Options)

/-- What a caller gets to see of a call. -/
inductive Answer (ε : Type) where
  | added
  /-- A router could not be added, because of the library or because of its filter. -/
  | refused (e : Error ⊕ ε)
  | generated (result : Except Error Document) (notices : List Notice)

variable {ε : Type}

/-- The routes of a router, or why they cannot be collected. -/
def Argument.collect (router : Argument Router) (mount : Option String)
    (keep : RouteRecord → Except ε Bool) : Except (Error ⊕ ε) (List Route) :=
  match router.get Router.ofValue with
  | .error e => .error (.inl e)
  | .ok r => (r.collectM mount keep).mapError .inr

/-- The routes that a call adds to an api: those of a router, if they can be collected. -/
def Call.collected? : Call ε → Option (List Route)
  | add router mount keep => (router.collect mount keep).toOption
  | generate .. => none

namespace Api

def generateWith (api : Api) (document : Argument DocumentConfig) (options : Argument Options) :
    Except Error Document × List Notice :=
  match document.get DocumentConfig.ofValue, options.get Options.ofValue with
  | .error e, _ => (.error e, [])
  | _, .error e => (.error e, [])
  | .ok config, .ok options => api.generate config options

/-- What an api answers to a call, and the api after it. -/
def answer (api : Api) : Call ε → Answer ε × Api
  | .add router mount keep =>
    match router.collect mount keep with
    | .ok routes => (.added, { routes := api.routes ++ routes })
    | .error e => (.refused e, api)
  | .generate document options =>
    let (result, notices) := api.generateWith document options
    (.generated result notices, api)

def after (api : Api) (calls : List (Call ε)) : Api :=
  calls.foldl (fun api call => (api.answer call).2) api

end Api

/-! ## Collecting in pieces -/

namespace Router

variable {m : Type → Type} [Monad m] [LawfulMonad m]

theorem collectFrom_append (keep : RouteRecord → m Bool) (mount : String)
    (rs qs : List RouteRecord) :
    collectFrom keep mount (rs ++ qs) = do
      let first ← collectFrom keep mount rs
      let rest ← collectFrom keep mount qs
      return first ++ rest := by
  induction rs with
  | nil => simp [collectFrom]
  | cons r rs ih =>
    rw [List.cons_append, collectFrom, collectFrom, ih]
    -- An ignored record is passed over before the filter is asked.
    split
    · rfl
    · simp only [bind_assoc]
      refine bind_congr fun kept => ?_
      split
      · simp only [bind_assoc, pure_bind, List.append_assoc]
      · rfl

/-- With a filter that has no effects, what is collected is decided record by record. -/
theorem collectFrom_pure (keep : RouteRecord → Bool) (mount : String) (rs : List RouteRecord) :
    collectFrom (fun r => (pure (keep r) : m Bool)) mount rs =
      pure ((rs.filter fun r => !r.info.ignore && keep r).flatMap (·.routes mount)) := by
  induction rs with
  | nil => rfl
  | cons r rs ih =>
    rw [collectFrom, ih, List.filter_cons]
    cases r.info.ignore with
    | true => simp
    | false => cases keep r <;> simp

end Router

namespace Argument

/-- A filter that never fails lets every router be collected. -/
theorem collect_given (router : Router) (mount : Option String) (keep : RouteRecord → Bool) :
    (given router).collect (ε := ε) mount (fun r => .ok (keep r)) =
      .ok (router.collect mount keep) := by
  have hpure : router.collectM mount (fun r => Except.ok (ε := ε) (keep r)) =
      .ok (router.collect mount keep) := by
    rw [Router.collect_eq]
    exact Router.collectFrom_pure keep (router.mountWith mount) router.records
  unfold collect get
  dsimp only
  rw [hpure]
  rfl

theorem collect_append (own mount : Option String) (keep : RouteRecord → Except ε Bool)
    (rs qs : List RouteRecord) :
    (given ⟨own, rs ++ qs⟩).collect mount keep = do
      let first ← (given ⟨own, rs⟩).collect mount keep
      let rest ← (given ⟨own, qs⟩).collect mount keep
      return first ++ rest := by
  have hmount (records : List RouteRecord) :
      (Router.mk own records).mountWith mount = (Router.mk own []).mountWith mount := rfl
  simp only [collect, get, Router.collectM]
  rw [hmount (rs ++ qs), hmount rs, hmount qs, Router.collectFrom_append]
  cases Router.collectFrom keep ((Router.mk own []).mountWith mount) rs with
  | error e => rfl
  | ok first => cases Router.collectFrom keep ((Router.mk own []).mountWith mount) qs <;> rfl

end Argument

/-- A router is collected exactly when its first records are, and the others. -/
theorem Call.collected?_append {own mount : Option String} {keep : RouteRecord → Except ε Bool}
    {rs qs : List RouteRecord} {routes : List Route} :
    (add (.given ⟨own, rs ++ qs⟩) mount keep).collected? = some routes ↔
      ∃ first rest, (add (.given ⟨own, rs⟩) mount keep).collected? = some first ∧
        (add (.given ⟨own, qs⟩) mount keep).collected? = some rest ∧ first ++ rest = routes := by
  unfold collected?
  dsimp only
  rw [Argument.collect_append]
  cases (Argument.given ⟨own, rs⟩).collect mount keep with
  -- A failure in the first part ends the round; the second part is not asked.
  | error e =>
    refine iff_of_false nofun ?_
    rintro ⟨first, rest, hfirst, -⟩
    cases hfirst
  | ok first =>
    cases (Argument.given ⟨own, qs⟩).collect mount keep with
    | error e =>
      refine iff_of_false nofun ?_
      rintro ⟨first, rest, -, hrest, -⟩
      cases hrest
    | ok rest =>
      constructor
      · exact fun h => ⟨first, rest, rfl, rfl, Option.some.inj h⟩
      · rintro ⟨_, _, hfirst, hrest, rfl⟩
        cases hfirst
        cases hrest
        rfl

theorem Call.isSome_collected?_append {own mount : Option String}
    {keep : RouteRecord → Except ε Bool} {rs qs : List RouteRecord} :
    (add (.given ⟨own, rs ++ qs⟩) mount keep).collected?.isSome ↔
      (add (.given ⟨own, rs⟩) mount keep).collected?.isSome ∧
        (add (.given ⟨own, qs⟩) mount keep).collected?.isSome := by
  simp only [Option.isSome_iff_exists, collected?_append]
  constructor
  · rintro ⟨_, first, rest, hfirst, hrest, -⟩
    exact ⟨⟨first, hfirst⟩, rest, hrest⟩
  · rintro ⟨⟨first, hfirst⟩, rest, hrest⟩
    exact ⟨_, first, rest, hfirst, hrest, rfl⟩

/-! ## Runs -/

namespace Api

theorem after_append (api : Api) (before calls : List (Call ε)) :
    api.after (before ++ calls) = (api.after before).after calls := List.foldl_append

/-- **A call** adds what it collects, and otherwise leaves the api as it is. -/
theorem answer_cases (api : Api) (call : Call ε) :
    (∃ routes, call.collected? = some routes ∧
        api.answer call = (.added, { routes := api.routes ++ routes })) ∨
      call.collected? = none ∧ (api.answer call).1 ≠ .added ∧ (api.answer call).2 = api := by
  cases call with
  | add router mount keep =>
    simp only [answer, Call.collected?]
    cases router.collect mount keep with
    | ok routes => exact .inl ⟨routes, rfl, rfl⟩
    | error e => exact .inr ⟨rfl, by simp, rfl⟩
  | generate document options => exact .inr ⟨rfl, nofun, rfl⟩

/-- The routes of an api after calls are those before them and those that the calls collected. -/
theorem routes_after (api : Api) (calls : List (Call ε)) :
    (api.after calls).routes = api.routes ++ (calls.filterMap Call.collected?).flatten := by
  induction calls generalizing api with
  | nil => simp [after]
  | cons call calls ih =>
    have hstep : api.after (call :: calls) = (api.answer call).2.after calls := rfl
    rw [hstep, ih]
    obtain ⟨routes, hsome, hanswer⟩ | ⟨hnone, -, hsame⟩ := api.answer_cases call
    · rw [hanswer, List.filterMap_cons_some hsome, List.flatten_cons, List.append_assoc]
    · rw [hsame, List.filterMap_cons_none hnone]

/-- Calls that add nothing can be left out. -/
theorem after_filter (api : Api) (calls : List (Call ε)) :
    api.after (calls.filter (·.collected?.isSome)) = api.after calls := by
  have hroutes :
      (api.after (calls.filter (·.collected?.isSome))).routes = (api.after calls).routes := by
    rw [routes_after, routes_after, List.filterMap_filter]
    congr 2
    refine List.filterMap_congr fun call _ => ?_
    cases call.collected? <;> rfl
  exact congrArg Api.mk hroutes

/-- A router can be added in pieces. -/
theorem after_append_records (api : Api) {own mount : Option String}
    {keep : RouteRecord → Except ε Bool} {rs qs : List RouteRecord}
    (h : (Call.add (.given ⟨own, rs ++ qs⟩) mount keep).collected?.isSome) :
    api.after [.add (.given ⟨own, rs ++ qs⟩) mount keep] =
      api.after [.add (.given ⟨own, rs⟩) mount keep, .add (.given ⟨own, qs⟩) mount keep] := by
  obtain ⟨routes, hroutes⟩ := Option.isSome_iff_exists.mp h
  obtain ⟨first, rest, hfirst, hrest, rfl⟩ := Call.collected?_append.mp hroutes
  suffices h : (api.after [.add (.given ⟨own, rs ++ qs⟩) mount keep]).routes =
      (api.after [.add (.given ⟨own, rs⟩) mount keep,
        .add (.given ⟨own, qs⟩) mount keep]).routes from
    congrArg Api.mk h
  rw [routes_after, routes_after, List.filterMap_cons_some hroutes, List.filterMap_cons_some hfirst,
    List.filterMap_cons_some hrest]
  simp

/-- **Runs.** After any calls the routes of an api are those that the successful additions
collected, in order. A call that does not add leaves the api as it is, and a generation gives what
it would give if there had been the successful additions only. A router can be collected when its
pieces can, and then it can be added in pieces. With a filter that never fails every router can be
collected. -/
theorem answer_after (calls : List (Call ε)) :
    (after {} calls).routes = (calls.filterMap Call.collected?).flatten ∧
      (∀ call : Call ε, ((after {} calls).answer call).1 = .added ↔ call.collected?.isSome) ∧
      (∀ call : Call ε, ((after {} calls).answer call).1 ≠ .added →
        ((after {} calls).answer call).2 = after {} calls) ∧
      (∀ document options, ((after {} calls).answer (.generate document options : Call ε)).1 =
        ((after {} (calls.filter (·.collected?.isSome))).answer (.generate document options)).1) ∧
      (∀ own mount (keep : RouteRecord → Except ε Bool) rs qs,
        ((Call.add (.given ⟨own, rs ++ qs⟩) mount keep).collected?.isSome ↔
          (Call.add (.given ⟨own, rs⟩) mount keep).collected?.isSome ∧
            (Call.add (.given ⟨own, qs⟩) mount keep).collected?.isSome) ∧
        ((Call.add (.given ⟨own, rs ++ qs⟩) mount keep).collected?.isSome →
          after {} (calls ++ [.add (.given ⟨own, rs ++ qs⟩) mount keep]) =
            after {} (calls ++
              [.add (.given ⟨own, rs⟩) mount keep, .add (.given ⟨own, qs⟩) mount keep]))) ∧
      ∀ router mount (keep : RouteRecord → Bool),
        (Call.add (ε := ε) (.given router) mount fun r => .ok (keep r)).collected? =
          some (router.collect mount keep) := by
  refine ⟨routes_after {} calls, fun call => ?_, fun call hnot => ?_, fun document options => ?_,
    ?_, ?_⟩
  · obtain ⟨routes, hsome, hanswer⟩ | ⟨hnone, hnot, -⟩ := (after {} calls).answer_cases call
    · rw [hanswer, hsome]
      exact iff_of_true rfl rfl
    · rw [hnone]
      exact iff_of_false hnot nofun
  · obtain ⟨routes, -, hanswer⟩ | ⟨-, -, hsame⟩ := (after {} calls).answer_cases call
    · exact absurd (congrArg Prod.fst hanswer) hnot
    · exact hsame
  · -- A call that fails leaves no trace, so the document is that of the calls that did not.
    rw [after_filter]
  · refine fun own mount keep rs qs => ⟨Call.isSome_collected?_append, fun h => ?_⟩
    rw [after_append, after_append, after_append_records _ h]
  · intro router mount keep
    unfold Call.collected?
    dsimp only
    rw [Argument.collect_given]
    rfl

namespace Sample

/-- A record that serves two methods. -/
def shared : RouteRecord := { methods := [.get, .post], path := "/a" }

def ignored : RouteRecord := { methods := [.get], path := "/b", info := { ignore := true } }

/-- An addition of something that is no router. -/
def refused : Call Empty := .add (.raw .null) none fun _ => .ok true

/-- An addition, one that is refused, and a generation without a configuration. -/
def calls : List (Call Empty) :=
  [.add (.given ⟨none, [shared]⟩) (some "/v") fun _ => .ok true, refused,
    .generate (.raw .null) (.raw .null)]

end Sample

theorem answer_after_sample :
    ((after {} Sample.calls).answer Sample.refused).1 ≠ .added ∧
      ((after {} Sample.calls).answer Sample.refused).2 = after {} Sample.calls ∧
      (Call.add (ε := Empty) (.given ⟨none, [Sample.shared] ++ [Sample.ignored]⟩) none
        fun _ => .ok true).collected?.isSome ∧
      after {} (Sample.calls ++ [.add (.given ⟨none, [Sample.shared] ++ [Sample.ignored]⟩) none
          fun _ => .ok true]) =
        after {} (Sample.calls ++ [.add (.given ⟨none, [Sample.shared]⟩) none fun _ => .ok true,
          .add (.given ⟨none, [Sample.ignored]⟩) none fun _ => .ok true]) := by
  obtain ⟨-, -, hsame, -, hpieces, hcollected⟩ := answer_after Sample.calls
  have hnot : ((after {} Sample.calls).answer Sample.refused).1 ≠ .added := nofun
  have hsome := Option.isSome_iff_exists.mpr
    ⟨_, hcollected ⟨none, [Sample.shared] ++ [Sample.ignored]⟩ none fun _ => true⟩
  exact ⟨hnot, hsame _ hnot, hsome, (hpieces _ _ _ _ _).2 hsome⟩

end Api

end ApiDoc
