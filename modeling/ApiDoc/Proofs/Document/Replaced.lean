import ApiDoc.Proofs.Document.Comparison

/-!
# Routes that are replaced

Of several routes with one path and method the last one is documented; the others are replaced
(`Route.replaced`). A replaced route has no operation in the document, and without it the document
has the same paths, methods, operations and definitions. But the route is worked on all the same: a
generation fails when a replaced route cannot be assembled, and the tags of a replaced route stay in
the document.

The stops on the way of a draft are those for the routes that are kept and those for the others
(`Route.mem_kept_or_replaced`). So without the replaced routes a generation succeeds all the more,
and when their stops pass it succeeds only then.

Main statements: `Api.generate_kept`, and `Api.not_sameUpToOrder_kept` for what replaced routes
leave.
-/

namespace ApiDoc

namespace Route

/-- The routes that no later route replaces. -/
def kept : List Route → List Route
  | [] => []
  | r :: rs => if ∃ q ∈ rs, q.place = r.place then kept rs else r :: kept rs

/-- The routes that a later route of the same path and method replaces. -/
def replaced : List Route → List Route
  | [] => []
  | r :: rs => if ∃ q ∈ rs, q.place = r.place then r :: replaced rs else replaced rs

theorem mem_kept_or_replaced {routes : List Route} {r : Route} :
    r ∈ routes ↔ r ∈ kept routes ∨ r ∈ replaced routes := by
  induction routes with
  | nil => simp [kept, replaced]
  | cons q routes ih =>
    unfold kept replaced
    split
    · rw [List.mem_cons, List.mem_cons, ih, or_left_comm]
    · rw [List.mem_cons, List.mem_cons, ih, or_assoc]

theorem mem_of_mem_kept {routes : List Route} {r : Route} (h : r ∈ kept routes) : r ∈ routes :=
  mem_kept_or_replaced.mpr (.inl h)

/-- The routes that are kept are the last ones at their places. -/
theorem sameLast_kept (routes : List Route) : SameLast routes (kept routes) := by
  intro path method r
  induction routes with
  | nil => rfl
  | cons q routes ih =>
    unfold kept
    rw [isLast_cons, ih]
    split
    · -- The route is replaced, so it is the last one nowhere.
      rename_i hlater
      obtain ⟨p, hp, hplace⟩ := hlater
      refine or_iff_left ?_
      rintro ⟨rfl, hat, hnot⟩
      exact hnot p hp (hat.of_place_eq hplace)
    · -- The route is kept, and no other route at its place comes after it on either side.
      rename_i hlast
      rw [isLast_cons]
      refine or_congr_right (and_congr_right fun _ => and_congr_right fun hat => ?_)
      have hfree (p : Route) (hp : p ∈ routes) : ¬ p.IsAt path method := fun hpat =>
        hlast ⟨p, hp, hpat.place_eq hat⟩
      exact iff_of_true hfree fun p hp => hfree p (mem_of_mem_kept hp)

end Route

namespace Work

variable {config : DocumentConfig} {options : Options} {routes : List Route}

theorem mem_draftWay_iff {stop : Stop} :
    stop ∈ draftWay config options routes ↔
      stop ∈ draftWay config options (Route.kept routes) ∨
        ∃ r ∈ Route.replaced routes, stop ∈ r.way options.effectiveResponses := by
  simp only [draftWay, List.mem_append, List.mem_flatMap, @Route.mem_kept_or_replaced routes,
    or_and_right, exists_or]
  rw [or_assoc, or_assoc, or_assoc, or_comm (a := ∃ r, r ∈ Route.replaced routes ∧ _)]

/-- The names of the tags that only replaced routes add. -/
def lostTags (config : DocumentConfig) (routes : List Route) : List String :=
  (newTags config routes).filter (· ∉ newTags config (Route.kept routes))

theorem mem_lostTags {name : String} :
    name ∈ lostTags config routes ↔ config.hasTag name = false ∧
      (∃ r ∈ Route.replaced routes, name ∈ r.info.tags) ∧
      ∀ r ∈ Route.kept routes, name ∉ r.info.tags := by
  rw [lostTags, List.mem_filter, decide_eq_true_iff, mem_newTags, mem_newTags]
  constructor
  · rintro ⟨⟨⟨r, hr, hname⟩, hnew⟩, hlost⟩
    have hkept : ∀ q ∈ Route.kept routes, name ∉ q.info.tags := fun q hq hq' =>
      hlost ⟨⟨q, hq, hq'⟩, hnew⟩
    have hreplaced : r ∈ Route.replaced routes :=
      (Route.mem_kept_or_replaced.mp hr).resolve_left fun h => hkept r h hname
    exact ⟨hnew, ⟨r, hreplaced, hname⟩, hkept⟩
  · rintro ⟨hnew, ⟨r, hr, hname⟩, hkept⟩
    exact ⟨⟨⟨r, Route.mem_kept_or_replaced.mpr (.inr hr), hname⟩, hnew⟩,
      fun ⟨⟨q, hq, hq'⟩, _⟩ => hkept q hq hq'⟩

theorem perm_newTags (config : DocumentConfig) (routes : List Route) :
    (newTags config routes).Perm
      (newTags config (Route.kept routes) ++ lostTags config routes) := by
  refine (List.perm_ext_iff_of_nodup (nodup_newTags _ _) ?_).mpr fun name => ?_
  · refine List.nodup_append.mpr ⟨nodup_newTags _ _, (nodup_newTags _ _).filter _, ?_⟩
    rintro name hkept _ hlost rfl
    exact of_decide_eq_true (List.mem_filter.mp hlost).2 hkept
  · have hsub (hkept : name ∈ newTags config (Route.kept routes)) :
        name ∈ newTags config routes := by
      obtain ⟨⟨r, hr, hname⟩, hnew⟩ := mem_newTags.mp hkept
      exact mem_newTags.mpr ⟨⟨r, Route.mem_of_mem_kept hr, hname⟩, hnew⟩
    rw [List.mem_append, lostTags, List.mem_filter, decide_eq_true_iff]
    constructor
    · exact fun h => (em _).imp id fun hnot => ⟨h, hnot⟩
    · exact fun h => h.elim hsub And.left

end Work

namespace Api

variable {config : DocumentConfig} {options : Options} {routes : List Route}

/-- A document made of all routes has the tags that only replaced routes add, and is otherwise the
document made of the routes that are kept. -/
theorem tags_kept {d d' : Document} (h : ((Api.mk routes).generate config options).1 = .ok d)
    (h' : ((Api.mk (Route.kept routes)).generate config options).1 = .ok d') :
    d.SameBesidesTags d' ∧ ∃ added, d.tags = config.tags ++ added ∧ ∃ added',
      d'.tags = config.tags ++ added' ∧
        added.Perm (added' ++ (Work.lostTags config routes).map Document.nameTag) := by
  obtain ⟨t, hdraft⟩ := draft_of_result h
  obtain ⟨t', hdraft'⟩ := draft_of_result h'
  refine ⟨Work.sameBesidesTags_of_draft hdraft hdraft' (Route.sameLast_kept routes), ?_⟩
  refine ⟨_, Work.tags_of_draft hdraft, _, Work.tags_of_draft hdraft', ?_⟩
  rw [← List.map_append]
  exact (Work.perm_newTags config routes).map _

/-- **Routes that are replaced.** A document made of all routes can also be made of those that are
kept, and differs from it at most in order and in the tags that only replaced routes add. There is
none when a replaced route cannot be assembled. When the replaced routes can be assembled, with
references that lead to definitions, the routes that are kept decide whether there is one. -/
theorem generate_kept (config : DocumentConfig) (options : Options) (routes : List Route) :
    (∀ d, ((Api.mk routes).generate config options).1 = .ok d →
      ∃ d', ((Api.mk (Route.kept routes)).generate config options).1 = .ok d' ∧
      d.SameBesidesTags d' ∧
        ∃ added added', ∃ lost : List String,
          d.tags = config.tags ++ added ∧ d'.tags = config.tags ++ added' ∧
          added.Perm (added' ++ lost.map Document.nameTag) ∧ lost.Nodup ∧
          ∀ name, name ∈ lost ↔ config.hasTag name = false ∧
            (∃ r ∈ Route.replaced routes, name ∈ r.info.tags) ∧
            ∀ r ∈ Route.kept routes, name ∉ r.info.tags) ∧
      ((∃ r ∈ Route.replaced routes, ∃ e,
          (Work.exec (Work.operation options.effectiveResponses r) {}).1 = .error e) →
        ∀ d, ((Api.mk routes).generate config options).1 ≠ .ok d) ∧
      ((∀ r ∈ Route.replaced routes, ∃ o t,
          Work.Run (Work.operation options.effectiveResponses r) {} o t ∧
          ∀ p ∈ t.registry.pointers, config.Resolves p) →
        ((∃ d, ((Api.mk routes).generate config options).1 = .ok d) ↔
          ∃ d, ((Api.mk (Route.kept routes)).generate config options).1 = .ok d)) := by
  -- A route can be assembled, with references that lead to definitions, when it passes all of its
  -- way.
  have hway (r : Route) : (∃ o t, Work.Run (Work.operation options.effectiveResponses r) {} o t ∧
      ∀ p ∈ t.registry.pointers, config.Resolves p) ↔
        ∀ stop ∈ r.way options.effectiveResponses, stop.Passes config :=
    (Work.follows_operation options.effectiveResponses r).passes_iff
  refine ⟨fun d hd => ?_, ?_, fun hreplaced => ?_⟩
  · have hpasses := generate_ok_iff.mp ⟨d, hd⟩
    obtain ⟨d', hd'⟩ := generate_ok_iff.mpr fun stop hstop =>
      hpasses stop (Work.mem_draftWay_iff.mpr (.inl hstop))
    obtain ⟨hsame, added, htags, added', htags', hperm⟩ := tags_kept hd hd'
    exact ⟨d', hd', hsame, added, added', Work.lostTags config routes, htags, htags', hperm,
      (Work.nodup_newTags config routes).filter _, fun name => Work.mem_lostTags⟩
  · rintro ⟨r, hr, e, he⟩ d hd
    have hpasses := generate_ok_iff.mp ⟨d, hd⟩
    obtain ⟨o, t, hrun, -⟩ := (hway r).mpr fun stop hstop =>
      hpasses stop (Work.mem_draftWay_iff.mpr (.inr ⟨r, hr, hstop⟩))
    rw [hrun] at he
    cases he
  · rw [generate_ok_iff, generate_ok_iff]
    refine ⟨fun h stop hstop => h stop (Work.mem_draftWay_iff.mpr (.inl hstop)),
      fun h stop hstop => ?_⟩
    rcases Work.mem_draftWay_iff.mp hstop with hkept | ⟨r, hr, hway'⟩
    · exact h stop hkept
    · exact (hway r).mp (hreplaced r hr) stop hway'

namespace Sample

/-- A configuration without definitions and tags. -/
def bare : DocumentConfig := { info := [], basePath := "/" }

/-- A route that says nothing but its place. -/
def terse : Route := { method := .get, path := "/a" }

/-- A route at the same place with a tag. -/
def outdated : Route := { terse with info := { tags := ["old"] } }

/-- A route at the same place with a response of no known kind. -/
def malformed : Route := { terse with outputs := [("200", { body := some { kind := "text" } })] }

theorem kept_terse (r : Route) (h : terse.place = r.place) :
    Route.kept [r, terse] = [terse] ∧ Route.replaced [r, terse] = [r] := by
  simp [Route.kept, Route.replaced, h]

theorem operation_malformed : ∃ e,
    (Work.exec (Work.operation ({} : Options).effectiveResponses malformed) {}).1 = .error e :=
  ⟨_, rfl⟩

theorem operation_outdated : ∃ o t,
    Work.Run (Work.operation ({} : Options).effectiveResponses outdated) {} o t ∧
      t.registry.pointers = [] := ⟨_, _, rfl, rfl⟩

end Sample

theorem generate_kept_sample :
    (∃ d d', ((Api.mk [Sample.outdated, Sample.terse]).generate Sample.bare {}).1 = .ok d ∧
      ((Api.mk (Route.kept [Sample.outdated, Sample.terse])).generate Sample.bare {}).1 = .ok d' ∧
      d.SameBesidesTags d') ∧
    ∀ d, ((Api.mk [Sample.malformed, Sample.terse]).generate Sample.bare {}).1 ≠ .ok d := by
  obtain ⟨hsame, -, hiff⟩ := generate_kept Sample.bare {} [Sample.outdated, Sample.terse]
  obtain ⟨-, hfails, -⟩ := generate_kept Sample.bare {} [Sample.malformed, Sample.terse]
  constructor
  · rw [(Sample.kept_terse Sample.outdated rfl).1] at hsame hiff ⊢
    rw [(Sample.kept_terse Sample.outdated rfl).2] at hiff
    have hreplaced := hiff fun r hr => by
      obtain rfl := List.mem_singleton.mp hr
      obtain ⟨o, t, hrun, hnone⟩ := Sample.operation_outdated
      exact ⟨o, t, hrun, by simp [hnone]⟩
    obtain ⟨d, hd⟩ := hreplaced.mpr ⟨_, rfl⟩
    obtain ⟨d', hd', hbesides, -⟩ := hsame d hd
    exact ⟨d, d', hd, hd', hbesides⟩
  · refine hfails ⟨Sample.malformed, ?_, Sample.operation_malformed⟩
    rw [(Sample.kept_terse Sample.malformed rfl).2]
    exact List.mem_singleton_self _

/-- A route that is replaced can leave a tag in the document, and can be the reason that there is
none. -/
theorem not_sameUpToOrder_kept :
    (∃ d d', ((Api.mk [Sample.outdated, Sample.terse]).generate Sample.bare {}).1 = .ok d ∧
      ((Api.mk (Route.kept [Sample.outdated, Sample.terse])).generate Sample.bare {}).1 = .ok d' ∧
      ¬ d.SameUpToOrder Sample.bare.tags d') ∧
    ∃ e d', ((Api.mk [Sample.malformed, Sample.terse]).generate Sample.bare {}).1 = .error e ∧
      ((Api.mk (Route.kept [Sample.malformed, Sample.terse])).generate Sample.bare {}).1 =
        .ok d' := by
  rw [(Sample.kept_terse Sample.outdated rfl).1, (Sample.kept_terse Sample.malformed rfl).1]
  refine ⟨?_, _, _, rfl, rfl⟩
  have h : ∃ d, ((Api.mk [Sample.outdated, Sample.terse]).generate Sample.bare {}).1 = .ok d ∧
      d.tags = [Document.nameTag "old"] := ⟨_, rfl, rfl⟩
  have h' : ∃ d, ((Api.mk [Sample.terse]).generate Sample.bare {}).1 = .ok d ∧ d.tags = [] :=
    ⟨_, rfl, rfl⟩
  obtain ⟨d, hd, htags⟩ := h
  obtain ⟨d', hd', htags'⟩ := h'
  refine ⟨d, d', hd, hd', ?_⟩
  rintro ⟨-, added, added', hadded, hadded', hperm⟩
  obtain rfl : added = [Document.nameTag "old"] := hadded.symm.trans htags
  obtain rfl : added' = [] := hadded'.symm.trans htags'
  exact absurd hperm.length_eq (by simp)

end Api

end ApiDoc
