import ApiDoc.Proofs.Schema.Translation
import ApiDoc.Proofs.Schema.WellFormed

/-!
# The way of a translation

A translation goes through a node and its parts in depth-first order, a node before its parts. At a
tag it meets a reference and goes no further, and of a node it enters only those parts that the kind
of the node uses. `Node.visits` is this way, said without translating anything; `Node.visible` are
the nodes on it.

**What comes of it** (`Node.follows_translateTagged`). The translation succeeds unless a node on the
way has a fault. Otherwise its error is the first fault on the way, and the references it has met
are those before that fault. The proof is by induction on the node: each loop over parts follows the
ways of the parts one after the other.

Main statement: `Node.decidedBy_visible`. The visible nodes alone decide how a translation ends.
-/

namespace ApiDoc

/-- One stop on the way of a translation: the tag of a node, or a node that is translated itself. -/
inductive Visit where
  | tag (ref : String)
  | node (n : Node)

namespace Visit

/-- The node that is translated at a stop. -/
def node? : Visit → Option Node
  | tag _ => none
  | node n => some n

/-- The fault of the node at a stop. -/
def fault? : Visit → Option TranslationError
  | tag _ => none
  | node n => n.fault?

def firstFault? (way : List Visit) : Option TranslationError := way.findSome? fault?

/-- The references met on a way, up to the first fault. -/
def met : List Visit → List String
  | [] => []
  | tag r :: way => r :: met way
  | node n :: way => if n.fault?.isSome then [] else met way

@[simp] theorem firstFault?_tag (r : String) (way : List Visit) :
    firstFault? (.tag r :: way) = firstFault? way := rfl

@[simp] theorem firstFault?_node (n : Node) (way : List Visit) :
    firstFault? (.node n :: way) = n.fault?.or (firstFault? way) := by
  simp only [firstFault?, List.findSome?_cons, fault?]
  cases n.fault? <;> rfl

theorem firstFault?_append (v w : List Visit) :
    firstFault? (v ++ w) = (firstFault? v).or (firstFault? w) := by
  induction v with
  | nil => rfl
  | cons x v ih => cases x <;> simp [ih, Option.or_assoc]

theorem met_append_of_none {v : List Visit} (h : firstFault? v = none) (w : List Visit) :
    met (v ++ w) = met v ++ met w := by
  induction v with
  | nil => rfl
  | cons x v ih =>
    cases x with
    | tag r => simp [met, ih h]
    | node n =>
      rw [firstFault?_node, Option.or_eq_none_iff] at h
      simp [met, h.1, ih h.2]

theorem met_append_of_some {v : List Visit} {e : TranslationError} (h : firstFault? v = some e)
    (w : List Visit) : met (v ++ w) = met v := by
  induction v with
  | nil => cases h
  | cons x v ih =>
    cases x with
    | tag r => simpa [met] using ih h
    | node n =>
      cases hn : n.fault? with
      | some e => simp [met, hn]
      | none =>
        rw [firstFault?_node, hn, Option.none_or] at h
        simpa [met, hn] using ih h

end Visit

open Visit (firstFault?)

/-! ## Following a way -/

namespace Traced

variable {α β : Type}

/-- A translation goes a way: it succeeds unless there is a fault on it, fails with the first fault
otherwise, and has met the references up to there. -/
structure Follows (x : Translation α) (way : List Visit) : Prop where
  refs : x.refs = Visit.met way
  succeeds : firstFault? way = none → ∃ a, x.result = .ok a
  fails : ∀ e, firstFault? way = some e → x.result = .error e

namespace Follows

theorem value (a : α) : Follows (pure a) [] := ⟨rfl, fun _ => ⟨a, rfl⟩, nofun⟩

theorem tag (r : String) (a : α) : Follows (.met r a) [.tag r] := ⟨rfl, fun _ => ⟨a, rfl⟩, nofun⟩

theorem fail {n : Node} {e : TranslationError} (h : n.fault? = some e) (way : List Visit) :
    (Traced.fail e : Translation α).Follows (.node n :: way) := by
  refine ⟨by simp [Traced.fail, Visit.met, h], fun hnone => ?_, fun d hd => ?_⟩
  · simp [h] at hnone
  · obtain rfl : e = d := by simpa [h] using hd
    rfl

/-- What comes next follows the rest of the way. -/
theorem bind {x : Translation α} {f : α → Translation β} {v w : List Visit} (hx : x.Follows v)
    (hf : ∀ a, (f a).Follows w) : (x >>= f).Follows (v ++ w) := by
  obtain ⟨refs, result⟩ := x
  obtain rfl : refs = Visit.met v := hx.refs
  cases hv : firstFault? v with
  | some e =>
    obtain rfl : result = .error e := hx.fails e hv
    refine ⟨(Visit.met_append_of_some hv w).symm, fun h => ?_, fun d hd => ?_⟩
    · simp [Visit.firstFault?_append, hv] at h
    · obtain rfl : e = d := by simpa [Visit.firstFault?_append, hv] using hd
      rfl
  | none =>
    obtain ⟨a, rfl⟩ : ∃ a, result = .ok a := hx.succeeds hv
    have hw := hf a
    have hfault : firstFault? (v ++ w) = firstFault? w := by
      simp [Visit.firstFault?_append, hv]
    refine ⟨?_, fun h => hw.succeeds (hfault ▸ h), fun e h => hw.fails e (hfault ▸ h)⟩
    simp [Visit.met_append_of_none hv, hw.refs]

theorem map {x : Translation α} {way : List Visit} (hx : x.Follows way) (f : α → β) :
    (f <$> x).Follows way := by
  have h : (x >>= fun a => pure (f a)).Follows (way ++ []) := hx.bind fun a => value (f a)
  rwa [List.append_nil] at h

/-- A node without a fault adds nothing but its parts to the way. -/
theorem node {x : Translation α} {n : Node} {way : List Visit} (h : n.fault? = none)
    (hx : x.Follows way) : x.Follows (.node n :: way) := by
  have hfault : firstFault? (.node n :: way) = firstFault? way := by
    simp [h]
  refine ⟨?_, fun hnone => hx.succeeds (hfault ▸ hnone), fun e he => hx.fails e (hfault ▸ he)⟩
  simp [Visit.met, h, hx.refs]

end Follows

end Traced

namespace Node

open Traced (Follows)

/-! ## The way -/

/-- The way through a node and its parts. The tag of the node itself counts only when `tagged`
holds. -/
def visits (tagged : Bool) (n : Node) : List Visit :=
  match if tagged then n.tag? else none with
  | some r => [.tag r]
  | none => .node n :: n.usedParts.attach.flatMap fun m => visits true m.1
termination_by sizeOf n
decreasing_by exact sizeOf_lt_of_mem_usedParts m.2

theorem visits_eq (tagged : Bool) (n : Node) :
    n.visits tagged = match if tagged then n.tag? else none with
      | some r => [.tag r]
      | none => .node n :: n.usedParts.flatMap (visits true) := by
  rw [visits]
  split
  · rfl
  · simp [List.flatMap_def]

/-- The nodes that are translated themselves when a node is translated, in order. -/
def visible (tagged : Bool) (n : Node) : List Node := (n.visits tagged).filterMap Visit.node?

theorem visible_eq (tagged : Bool) (n : Node) :
    n.visible tagged = match if tagged then n.tag? else none with
      | some _ => []
      | none => n :: n.usedParts.flatMap (visible true) := by
  unfold visible
  rw [visits_eq]
  split
  · rfl
  · simp [Visit.node?, List.filterMap_flatMap]

variable {resolve : String → Schema} {n : Node} {kind : Kind} {e : TranslationError}

theorem usedParts_of_kind (h : n.kind = kind.name) :
    n.usedParts = match kind with
      | .object => (n.properties.getD []).map (·.2)
      | .array => n.items.toList
      | .alternatives => n.alternatives.getD []
      | _ => [] := by
  rw [usedParts, Kind.ofName?_eq_some_iff.mpr h]
  cases kind <;> rfl

/-! ## Going the way -/

theorem translateKind_of_some (h : n.kindFault? kind = some e) :
    translateKind resolve n kind = .fail e := by
  cases kind with
  | string => exact congrArg Traced.lift (stringSchema_of_some h)
  | number | integer => exact congrArg Traced.lift (numberSchema_of_some _ h)
  | array =>
    unfold translateKind
    cases hitems : n.items with
    | none =>
      obtain rfl : .missingItems = e := by simpa [kindFault?, hitems] using h
      rfl
    | some m => simp [kindFault?, hitems] at h
  | alternatives =>
    unfold translateKind
    cases hms : n.alternatives with
    | none =>
      obtain rfl : .noBranches = e := by simpa [kindFault?, hms] using h
      rfl
    | some ms =>
      cases ms with
      | nil =>
        obtain rfl : .noBranches = e := by simpa [kindFault?, hms] using h
        rfl
      | cons b bs => simp [kindFault?, hms] at h
  | boolean | date | object | any => cases h

theorem follows_translateNamed {parts : List (String × Node)}
    (h : ∀ p ∈ parts, (translateTagged resolve true p.2).Follows (p.2.visits true)) :
    (translateNamed resolve parts).Follows ((parts.map (·.2)).flatMap (visits true)) := by
  induction parts with
  | nil =>
    rw [translateNamed]
    exact .value []
  | cons p parts ih =>
    obtain ⟨name, m⟩ := p
    rw [translateNamed, List.map_cons, List.flatMap_cons]
    refine (h (name, m) List.mem_cons_self).bind fun s => ?_
    exact (ih fun p hp => h p (List.mem_cons_of_mem _ hp)).map _

theorem follows_translateList {nodes : List Node}
    (h : ∀ m ∈ nodes, (translateTagged resolve true m).Follows (m.visits true)) :
    (translateList resolve nodes).Follows (nodes.flatMap (visits true)) := by
  induction nodes with
  | nil =>
    rw [translateList]
    exact .value []
  | cons m nodes ih =>
    rw [translateList, List.flatMap_cons]
    refine (h m List.mem_cons_self).bind fun s => ?_
    exact (ih fun m hm => h m (List.mem_cons_of_mem _ hm)).map _

theorem follows_translateKind (hkind : n.kind = kind.name) (hfault : n.kindFault? kind = none)
    (h : ∀ m ∈ n.usedParts, (translateTagged resolve true m).Follows (m.visits true)) :
    (translateKind resolve n kind).Follows (n.usedParts.flatMap (visits true)) := by
  -- A node without parts is translated without a visit further down.
  have hleaf {k : Kind} (hs : ∃ s, n.leafSchema k = .ok s) :
      Follows (.lift (n.leafSchema k)) [] := by
    obtain ⟨s, hs⟩ := hs
    rw [hs]
    exact .value s
  rw [usedParts_of_kind hkind] at h ⊢
  cases kind with
  | string => exact hleaf (stringSchema_of_none hfault)
  | number | integer => exact hleaf (numberSchema_of_none _ hfault)
  | boolean | date | any => exact hleaf ⟨_, rfl⟩
  | object =>
    refine Follows.map ?_ _
    cases hps : n.properties with
    | none =>
      rw [translateMembers]
      exact .value []
    | some ps =>
      rw [translateMembers]
      refine follows_translateNamed fun p hp => h p.2 ?_
      simpa [hps] using ⟨p.1, hp⟩
  | array =>
    refine Follows.map ?_ _
    cases hitems : n.items with
    | none => simp [kindFault?, hitems] at hfault
    | some m =>
      rw [translateItems]
      simpa using h m (by simp [hitems])
  | alternatives =>
    unfold translateKind
    cases hms : n.alternatives with
    | none => simp [kindFault?, hms] at hfault
    | some ms =>
      cases ms with
      | nil => simp [kindFault?, hms] at hfault
      | cons b bs =>
        rw [translateBranches]
        refine (h b (by simp [hms])).bind fun first => ?_
        exact (follows_translateList fun m hm => h m (by simp [hms, hm])).map _

/-- A node is translated itself as its kind says, unless its kind is unknown or its bounds are not
in order. -/
theorem inline_eq (resolve : String → Schema) (n : Node) :
    n.inline resolve = match Kind.ofName? n.kind with
      | none => .fail (.unknownKind n.kind)
      | some kind =>
        match n.boundsFault? with
        | some e => .fail e
        | none => n.annotate <$> translateKind resolve n kind := by
  rw [inline, translateTagged_eq, kind?, checkBounds_eq]
  cases Kind.ofName? n.kind with
  | none => rfl
  | some kind => cases n.boundsFault? <;> rfl

theorem follows_inline
    (h : ∀ m ∈ n.usedParts, (translateTagged resolve true m).Follows (m.visits true)) :
    (n.inline resolve).Follows (.node n :: n.usedParts.flatMap (visits true)) := by
  rw [inline_eq]
  cases hkind : Kind.ofName? n.kind with
  | none => exact .fail (by simp [fault?, hkind]) _
  | some kind =>
    dsimp only
    cases hbounds : n.boundsFault? with
    | some e => exact .fail (by simp [fault?, hkind, hbounds]) _
    | none =>
      cases hfault : n.kindFault? kind with
      | some e =>
        rw [translateKind_of_some hfault]
        exact .fail (by simp [fault?, hkind, hbounds, hfault]) _
      | none =>
        refine .node (by simp [fault?, hkind, hbounds, hfault]) ?_
        exact (follows_translateKind (Kind.ofName?_eq_some_iff.mp hkind) hfault h).map _

/-- **A translation goes its way**, whatever its tags are resolved to. -/
theorem follows_translateTagged (resolve : String → Schema) (tagged : Bool) (n : Node) :
    (translateTagged resolve tagged n).Follows (n.visits tagged) := by
  induction n using induction_usedParts generalizing tagged with
  | h n ih =>
    have hinline : (n.inline resolve).Follows (.node n :: n.usedParts.flatMap (visits true)) :=
      follows_inline fun m hm => ih m hm true
    rw [visits_eq]
    cases tagged with
    | false => exact hinline
    | true =>
      have htranslate := translate_eq resolve n
      rw [translate] at htranslate
      rw [htranslate, if_pos rfl]
      cases n.tag? with
      | some r => exact .tag r _
      | none => exact hinline

/-! ## Outcomes -/

end Node

/-- What a translation comes to is decided by nodes: it succeeds exactly when all of them are well
formed, and otherwise fails with the fault of the first one that is not. -/
structure Traced.DecidedBy {α : Type} (x : Translation α) (nodes : List Node) : Prop where
  succeeds_iff : (∃ a, x.result = .ok a) ↔ ∀ n ∈ nodes, n.WellFormed
  fails : ∀ before n after, nodes = before ++ n :: after → (∀ m ∈ before, m.WellFormed) →
    ¬ n.WellFormed → ∃ e, n.fault? = some e ∧ x.result = .error e

namespace Visit

theorem firstFault?_eq (way : List Visit) :
    firstFault? way = (way.filterMap node?).findSome? Node.fault? := by
  induction way with
  | nil => rfl
  | cons x way ih =>
    cases x with
    | tag r => exact ih
    | node n =>
      simp only [firstFault?_node, node?, List.filterMap_cons, List.findSome?_cons, ih]
      cases n.fault? <;> rfl

end Visit

theorem Traced.Follows.decidedBy {α : Type} {x : Translation α} {way : List Visit}
    (h : x.Follows way) : x.DecidedBy (way.filterMap Visit.node?) := by
  have hfault := Visit.firstFault?_eq way
  have hnone : firstFault? way = none ↔ ∀ n ∈ way.filterMap Visit.node?, n.WellFormed := by
    simp only [hfault, List.findSome?_eq_none_iff, Node.wellFormed_iff]
  constructor
  · rw [← hnone]
    refine ⟨fun ⟨a, ha⟩ => ?_, h.succeeds⟩
    by_contra hsome
    obtain ⟨e, he⟩ := Option.ne_none_iff_exists'.mp hsome
    rw [h.fails e he] at ha
    cases ha
  · intro before n after hway hbefore hn
    obtain ⟨e, he⟩ := Option.ne_none_iff_exists'.mp (mt Node.wellFormed_iff.mpr hn)
    refine ⟨e, he, h.fails e ?_⟩
    have hskip : before.findSome? Node.fault? = none :=
      List.findSome?_eq_none_iff.mpr fun m hm => Node.wellFormed_iff.mp (hbefore m hm)
    rw [hfault, hway, List.findSome?_append, hskip, Option.none_or, List.findSome?_cons, he]

namespace Node

/-- **The outcome of a translation** is decided by the visible nodes, in depth-first order. The tag
of the node itself hides it and its parts, unless the node is translated inline. -/
theorem decidedBy_visible (resolve : String → Schema) (n : Node) :
    (n.translate resolve).DecidedBy (n.visible true) ∧
      (n.inline resolve).DecidedBy (n.visible false) :=
  ⟨(follows_translateTagged resolve true n).decidedBy,
    (follows_translateTagged resolve false n).decidedBy⟩

namespace Sample

def list : Node := { kind := "array" }

def choice : Node :=
  { kind := "alternatives", alternatives := some [{ kind := "any", ref := some "A" }, list] }

/-- A part of no known kind. -/
def file : Node := { kind := "file" }

/-- An object of the alternatives and the part. -/
def tree : Node := { kind := "object", properties := some [("a", choice), ("b", file)] }

theorem visible_tree : tree.visible true = [tree, choice, list, file] := by
  simp [visible_eq, tag?, usedParts, Kind.ofName?, Kind.all, Kind.name, tree, choice, list, file]

end Sample

/-- Of two nodes that are not well formed, the first one on the way gives the error. -/
theorem decidedBy_visible_sample :
    Sample.tree.visible true = [Sample.tree, Sample.choice] ++ Sample.list :: [Sample.file] ∧
      ¬ Sample.list.WellFormed ∧ ¬ Sample.file.WellFormed ∧
      (Sample.tree.translate Schema.reference).result = .error .missingItems := by
  have hbefore : ∀ m ∈ [Sample.tree, Sample.choice], m.WellFormed := by
    intro m hm
    rcases List.mem_pair.mp hm with rfl | rfl <;> exact wellFormed_iff.mpr rfl
  have hlist : ¬ Sample.list.WellFormed := mt wellFormed_iff.mp nofun
  have hfile : ¬ Sample.file.WellFormed := mt wellFormed_iff.mp nofun
  have hdecided := (decidedBy_visible Schema.reference Sample.tree).1
  obtain ⟨e, he, hresult⟩ := hdecided.fails _ _ _ Sample.visible_tree hbefore hlist
  obtain rfl : TranslationError.missingItems = e := Option.some.inj he
  exact ⟨Sample.visible_tree, hlist, hfile, hresult⟩

end Node

end ApiDoc
