import ApiDoc.Proofs.Json.Tokens

/-!
# Graphs of JSON texts

The tokens of a JSON text become a graph that is a tree: its nodes are numbered in the order in
which they begin, a container before its parts.

Main statement: `Source.readGraph_written`.
-/

namespace ApiDoc.Json

open Yaml

/-! ## The nodes of a tree -/

def Key.vertex (k : Key) : Vertex := .scalar .str (stringValue k.letters)

mutual

/-- The number of nodes of a value. -/
def Tree.size : Tree → Nat
  | .scalar _ | .emptyArray _ | .emptyObject _ => 1
  | .array items => items.size + 1
  | .object members => members.size + 1

/-- The number of nodes of items. -/
def Items.size : Items → Nat
  | .last _ item _ => item.size
  | .more _ item _ rest => item.size + rest.size

def Members.size : Members → Nat
  | .last _ _ item _ => item.size + 1
  | .more _ _ item _ rest => item.size + 1 + rest.size

end

theorem Tree.size_pos (t : Tree) : 0 < t.size := by
  cases t <;> simp [Tree.size]

/-- The numbers of items, of which the first one is `n`. -/
def Items.ids (n : Nat) : Items → List Nat
  | .last .. => [n]
  | .more _ item _ rest => n :: rest.ids (n + item.size)

/-- The numbers of the keys and values of entries, of which the first one is `n`. -/
def Members.ids (n : Nat) : Members → List (Nat × Nat)
  | .last .. => [(n, n + 1)]
  | .more _ _ item _ rest => (n, n + 1) :: rest.ids (n + 1 + item.size)

mutual

/-- The nodes of a value from number `n` on. -/
def Tree.nodes (n : Nat) : Tree → List Vertex
  | .scalar s => [s.vertex]
  | .emptyArray _ => [.sequence .seq []]
  | .array items => .sequence .seq (items.ids (n + 1)) :: items.nodes (n + 1)
  | .emptyObject _ => [.mapping .map []]
  | .object members => .mapping .map (members.ids (n + 1)) :: members.nodes (n + 1)

/-- The nodes of items from number `n` on. -/
def Items.nodes (n : Nat) : Items → List Vertex
  | .last _ item _ => item.nodes n
  | .more _ item _ rest => item.nodes n ++ rest.nodes (n + item.size)

/-- The nodes of entries from number `n` on. -/
def Members.nodes (n : Nat) : Members → List Vertex
  | .last key _ item _ => key.vertex :: item.nodes (n + 1)
  | .more key _ item _ rest => key.vertex :: (item.nodes (n + 1) ++ rest.nodes (n + 1 + item.size))

end

mutual

theorem Tree.length_nodes (t : Tree) (n : Nat) : (t.nodes n).length = t.size := by
  cases t with
  | scalar | emptyArray | emptyObject => rfl
  | array items => exact congrArg (· + 1) (items.length_nodes (n + 1))
  | object members => exact congrArg (· + 1) (members.length_nodes (n + 1))

theorem Items.length_nodes (items : Items) (n : Nat) : (items.nodes n).length = items.size := by
  cases items with
  | last before item after => exact item.length_nodes n
  | more before item after rest =>
    rw [Items.nodes, List.length_append, item.length_nodes, rest.length_nodes, Items.size]

theorem Members.length_nodes (members : Members) (n : Nat) :
    (members.nodes n).length = members.size := by
  cases members with
  | last key before item after => exact congrArg (· + 1) (item.length_nodes (n + 1))
  | more key before item after rest =>
    rw [Members.nodes, List.length_cons, List.length_append, item.length_nodes, rest.length_nodes,
      Members.size]
    omega

end

end ApiDoc.Json

/-! ## Steps of reading a graph -/

namespace ApiDoc.Yaml

/-- The state after nodes, before the tokens that are left. -/
def Growing.grown (s : Growing) (vs : List Vertex) (more : List Token) : Growing :=
  { s with tokens := more, graph := s.graph ++ vs.toArray }

namespace Grow

variable {s : Growing} {t : Token} {ts : List Token}

/-- A token that begins a value: no sign of an anchor, a tag, a key or the end of something. -/
def BeginsValue (t : Token) : Prop :=
  (∃ plain text, t = .scalar plain text) ∨ t = .flowSequence ∨ t = .flowMapping

theorem run_peek (h : s.tokens = t :: ts) : peek.run s = .ok (t, s) := by
  simp [peek, h]
  rfl

theorem run_advance (h : s.tokens = t :: ts) :
    advance.run s = .ok ((), { s with tokens := ts }) := by
  simp [advance, h]
  rfl

theorem run_emptyScalar : emptyScalar.run s =
    .ok (s.graph.size, { s with graph := s.graph.push (.scalar .null "") }) := rfl

/-- Work that succeeds is followed by the rest. -/
theorem run_bind {α β : Type} {x : Grow α} {f : α → Grow β} {s s' : Growing} {a : α}
    (h : x.run s = .ok (a, s')) :
    (x >>= f).run s = (f a).run s' := by
  rw [StateT.run_bind, h]
  rfl

theorem run_map {α β : Type} {x : Grow α} {f : α → β} {s s' : Growing} {a : α}
    (h : x.run s = .ok (a, s')) :
    (f <$> x).run s = .ok (f a, s') := by
  rw [StateT.run_map, h]
  rfl

theorem run_readProperties (h : s.tokens = t :: ts) (ht : BeginsValue t) :
    readProperties.run s = .ok ((none, none), s) := by
  have hanchor : readAnchor.run s = .ok (none, s) := by
    unfold readAnchor
    rw [run_bind (run_peek h)]
    obtain ⟨plain, text, rfl⟩ | rfl | rfl := ht <;> rfl
  have htag : readTag.run s = .ok (none, s) := by
    unfold readTag
    rw [run_bind (run_peek h)]
    obtain ⟨plain, text, rfl⟩ | rfl | rfl := ht <;> rfl
  unfold readProperties
  rw [run_bind hanchor]
  dsimp only
  rw [run_bind htag]
  rfl

/-- What is left of reading a node that has no anchor and no tag. -/
theorem run_readNode (h : s.tokens = t :: ts) (ht : BeginsValue t) {inBlock asValue : Bool}
    {fuel : Nat} {body : Grow Vertex} {v : Vertex} {s' : Growing}
    (hbody : body.run { s with tokens := ts, graph := s.graph.push (.scalar .null "") } =
      .ok (v, s'))
    (hnode : t = .flowSequence ∧ body = Vertex.sequence .seq <$> readFlowItems true fuel ∨
      t = .flowMapping ∧ body = Vertex.mapping .map <$> readFlowEntries true fuel ∨
      ∃ plain text,
        t = .scalar plain text ∧ body = pure (.scalar (scalarTag plain none text) text)) :
    (readNode inBlock asValue (fuel + 1)).run s =
      .ok (s.graph.size, { s' with graph := s'.graph.setIfInBounds s.graph.size v }) := by
  have hempty : ({ s with graph := s.graph.push (.scalar .null "") } : Growing).tokens = t :: ts :=
    h
  unfold readNode
  rw [run_bind (run_peek h)]
  have hcheck : (checkAnchor none).run s = .ok ((), s) := rfl
  have hregister {s : Growing} {id : Nat} : (register none id).run s = .ok ((), s) := rfl
  have hread : ((do let node ← body; complete s.graph.size node; pure s.graph.size) : Grow Nat).run
      { s with tokens := ts, graph := s.graph.push (.scalar .null "") } =
        .ok (s.graph.size, { s' with graph := s'.graph.setIfInBounds s.graph.size v }) := by
    rw [run_bind hbody]
    rfl
  -- The steps before the body are the same for each kind of node.
  obtain ⟨rfl, rfl⟩ | ⟨rfl, rfl⟩ | ⟨plain, text, rfl, rfl⟩ := hnode
  all_goals
    dsimp only
    rw [run_bind (run_readProperties h ht)]
    dsimp only
    rw [run_bind hcheck, run_bind run_emptyScalar, run_bind hregister, run_bind (run_peek hempty)]
    dsimp only
    rw [run_bind (run_advance hempty)]
    exact hread

/-! ### Flow collections -/

variable {s' s'' : Growing} {first : Bool} {fuel id : Nat}

/-- The tokens of a part: a comma before it, unless it is the first one. -/
def partTokens (first : Bool) (ts : List Token) : List Token := if first then ts else .comma :: ts

theorem run_readFlowItems_end (h : s.tokens = .flowSequenceEnd :: ts) :
    (readFlowItems first (fuel + 1)).run s = .ok ([], { s with tokens := ts }) := by
  unfold readFlowItems
  rw [run_bind (run_peek h)]
  dsimp only
  rw [if_pos rfl, run_bind (run_advance h)]
  rfl

theorem run_readFlowEntries_end (h : s.tokens = .flowMappingEnd :: ts) :
    (readFlowEntries first (fuel + 1)).run s = .ok ([], { s with tokens := ts }) := by
  unfold readFlowEntries
  rw [run_bind (run_peek h)]
  dsimp only
  rw [if_pos rfl, run_bind (run_advance h)]
  rfl

/-- An item is read after its comma. -/
theorem run_readFlowItems_item {ids : List Nat} (h : s.tokens = partTokens first (t :: ts))
    (ht : BeginsValue t)
    (hitem : (readNode false false fuel).run { s with tokens := t :: ts } = .ok (id, s'))
    (hrest : (readFlowItems false fuel).run s' = .ok (ids, s'')) :
    (readFlowItems first (fuel + 1)).run s = .ok (id :: ids, s'') := by
  have hnext : ({ s with tokens := t :: ts } : Growing).tokens = t :: ts := rfl
  unfold readFlowItems
  -- Only the items after the first have a comma in front.
  cases first with
  | true =>
    have h : s.tokens = t :: ts := h
    have hself : ({ s with tokens := t :: ts } : Growing) = s := by rw [← h]
    rw [hself] at hitem
    rw [run_bind (run_peek h)]
    obtain ⟨plain, text, rfl⟩ | rfl | rfl := ht
    all_goals
      dsimp only
      rw [if_neg nofun, if_pos rfl, run_bind (run_peek h)]
      dsimp only
      rw [run_bind hitem, run_bind hrest]
      rfl
  | false =>
    have h : s.tokens = .comma :: t :: ts := h
    rw [run_bind (run_peek h)]
    dsimp only
    rw [if_neg nofun, if_neg nofun, if_pos rfl, run_bind (run_advance h), run_bind (run_peek hnext)]
    obtain ⟨plain, text, rfl⟩ | rfl | rfl := ht
    all_goals
      dsimp only
      rw [run_bind hitem, run_bind hrest]
      rfl

/-- A container is completed behind its parts. -/
theorem setIfInBounds_push (g : Graph) (a v : Vertex) (vs : List Vertex) :
    (g.push a ++ vs.toArray).setIfInBounds g.size v = g ++ (v :: vs).toArray := by
  apply Array.toList_inj.mp
  simp

/-- A scalar without an anchor and a tag. -/
theorem run_readNode_scalar {plain : Bool} {text : String} (h : s.tokens = .scalar plain text :: ts)
    (inBlock asValue : Bool) (fuel : Nat) :
    (readNode inBlock asValue (fuel + 1)).run s =
      .ok (s.graph.size, s.grown [.scalar (scalarTag plain none text) text] ts) := by
  have hset :=
    setIfInBounds_push s.graph (.scalar .null "") (.scalar (scalarTag plain none text) text) []
  rw [run_readNode h (.inl ⟨plain, text, rfl⟩) rfl (.inr (.inr ⟨plain, text, rfl, rfl⟩)),
    Growing.grown, ← hset]
  rfl

/-- A value that is there is read as a node. -/
theorem run_readNodeUnless (h : s.tokens = t :: ts) {isEnd : Token → Bool} (hend : isEnd t = false)
    (inBlock asValue : Bool) (fuel : Nat) :
    (readNodeUnless isEnd inBlock asValue (fuel + 1)).run s =
      (readNode inBlock asValue fuel).run s := by
  unfold readNodeUnless
  rw [run_bind (run_peek h), hend, if_neg Bool.false_ne_true]

/-- A key in double quotes becomes a scalar. -/
theorem run_readNodeUnless_key {text : String} (h : s.tokens = .scalar false text :: .value :: ts)
    (fuel : Nat) :
    (readNodeUnless (fun t => t = .value || endsFlowPart .flowMappingEnd t) false false
      (fuel + 2)).run s =
      .ok (s.graph.size, s.grown [.scalar .str text] (.value :: ts)) := by
  rw [run_readNodeUnless h rfl, run_readNode_scalar h]
  rfl

/-- A value is read behind its colon. -/
theorem run_readValue (h : s.tokens = .value :: t :: ts) (ht : BeginsValue t) (fuel : Nat) :
    (readValue (endsFlowPart .flowMappingEnd) false (fuel + 2)).run s =
      (readNode false false fuel).run { s with tokens := t :: ts } := by
  have hend : endsFlowPart .flowMappingEnd t = false := by
    rcases ht with ⟨plain, text, rfl⟩ | rfl | rfl <;> rfl
  unfold readValue
  rw [run_bind (run_peek h)]
  dsimp only
  rw [run_bind (run_advance h), run_readNodeUnless rfl hend]

/-- An entry is read after its comma: a key in double quotes and a value. -/
theorem run_readFlowEntries_entry {ids : List (Nat × Nat)} {text : String} {value : Nat}
    (h : s.tokens = partTokens first (.key :: .scalar false text :: .value :: t :: ts))
    (ht : BeginsValue t)
    (hitem : (readNode false false fuel).run (s.grown [.scalar .str text] (t :: ts)) =
      .ok (value, s'))
    (hrest : (readFlowEntries false (fuel + 2)).run s' = .ok (ids, s'')) :
    (readFlowEntries first (fuel + 3)).run s = .ok ((s.graph.size, value) :: ids, s'') := by
  have hvalue : (readValue (endsFlowPart .flowMappingEnd) false (fuel + 2)).run
      (s.grown [.scalar .str text] (.value :: t :: ts)) = .ok (value, s') :=
    (run_readValue rfl ht fuel).trans hitem
  have hentry : ((do
      let key ← readNodeUnless (fun t => t = .value || endsFlowPart .flowMappingEnd t) false false
        (fuel + 2)
      let value ← readValue (endsFlowPart .flowMappingEnd) false (fuel + 2)
      return (key, value) :: (← readFlowEntries false (fuel + 2))) : Grow (List (Nat × Nat))).run
        { s with tokens := .scalar false text :: .value :: t :: ts } =
        .ok ((s.graph.size, value) :: ids, s'') := by
    rw [run_bind (run_readNodeUnless_key rfl fuel)]
    refine (run_bind hvalue).trans ?_
    rw [run_bind hrest]
    rfl
  -- Only the comma in front of the key makes a difference.
  unfold readFlowEntries
  cases first with
  | true =>
    have h : s.tokens = .key :: .scalar false text :: .value :: t :: ts := h
    rw [run_bind (run_peek h)]
    dsimp only
    rw [if_neg nofun, if_pos rfl, run_bind (run_peek h)]
    dsimp only
    rw [run_bind (run_advance h)]
    exact hentry
  | false =>
    have h : s.tokens = .comma :: .key :: .scalar false text :: .value :: t :: ts := h
    rw [run_bind (run_peek h)]
    dsimp only
    rw [if_neg nofun, if_neg nofun, if_pos rfl, run_bind (run_advance h), run_bind (run_peek rfl)]
    dsimp only
    rw [run_bind (run_advance rfl)]
    exact hentry

end Grow

end ApiDoc.Yaml

/-! ## Trees -/

namespace ApiDoc.Json

open Yaml

variable {s : Growing} {more : List Token} {fuel : Nat}

theorem Tree.exists_tokens {t : Tree} (ht : t.IsCommon) :
    ∃ a ts, t.tokens = a :: ts ∧ Grow.BeginsValue a := by
  cases t with
  | scalar x =>
    obtain ⟨plain, htoken, -⟩ := x.token_eq ht
    exact ⟨_, _, rfl, .inl ⟨plain, _, htoken⟩⟩
  | emptyArray | array => exact ⟨_, _, rfl, .inr (.inl rfl)⟩
  | emptyObject | object => exact ⟨_, _, rfl, .inr (.inr rfl)⟩

theorem grown_grown (s : Growing) (vs us : List Vertex) (ts more : List Token) :
    (s.grown vs ts).grown us more = s.grown (vs ++ us) more := by
  simp [Growing.grown]

theorem size_grown (s : Growing) (vs : List Vertex) (ts : List Token) :
    (s.grown vs ts).graph.size = s.graph.size + vs.length := by
  simp [Growing.grown]

/-- A container is read from its opening bracket on: its parts come behind it. -/
theorem run_readNode_container {a : Token} {ts : List Token} {vs : List Vertex} {v : Vertex}
    {body : Grow Vertex} (h : s.tokens = a :: ts) (ha : Grow.BeginsValue a) (inBlock asValue : Bool)
    (hnode : a = .flowSequence ∧ body = Vertex.sequence .seq <$> Grow.readFlowItems true fuel ∨
      a = .flowMapping ∧ body = Vertex.mapping .map <$> Grow.readFlowEntries true fuel)
    (hbody : body.run { s with tokens := ts, graph := s.graph.push (.scalar .null "") } =
      .ok (v, ({ s with graph := s.graph.push (.scalar .null "") } : Growing).grown vs more)) :
    (Grow.readNode inBlock asValue (fuel + 1)).run s =
      .ok (s.graph.size, s.grown (v :: vs) more) := by
  rw [Grow.run_readNode h ha hbody (hnode.imp_right .inl)]
  exact congrArg (fun g => Except.ok (s.graph.size, { s with tokens := more, graph := g }))
    (Grow.setIfInBounds_push s.graph _ v vs)

mutual

/-- The tokens of a value are read as its nodes. -/
theorem run_readNode_tree (t : Tree) (ht : t.IsCommon) {s : Growing} (more : List Token)
    (h : s.tokens = t.tokens ++ more) (inBlock asValue : Bool) (fuel : Nat)
    (hfuel : 3 * t.tokens.length ≤ fuel) :
    (Grow.readNode inBlock asValue fuel).run s =
      .ok (s.graph.size, s.grown (t.nodes s.graph.size) more) := by
  -- A place is pushed before the parts are read, so these are numbered from the next one on.
  cases t with
  | scalar x =>
    obtain ⟨fuel, rfl⟩ : ∃ n, fuel = n + 1 := ⟨fuel - 1, by simp [Tree.tokens] at hfuel; omega⟩
    obtain ⟨plain, htoken, htag⟩ := x.token_eq ht
    rw [Tree.tokens, htoken] at h
    rw [Grow.run_readNode_scalar h, htag]
    rfl
  | emptyArray space =>
    obtain ⟨fuel, rfl⟩ : ∃ n, fuel = n + 2 := ⟨fuel - 2, by simp [Tree.tokens] at hfuel; omega⟩
    refine run_readNode_container h (.inr (.inl rfl)) inBlock asValue (.inl ⟨rfl, rfl⟩) ?_
    exact Grow.run_map ((Grow.run_readFlowItems_end rfl).trans (by simp [Growing.grown]))
  | array items =>
    obtain ⟨fuel, rfl⟩ : ∃ n, fuel = n + 1 := ⟨fuel - 1, by simp [Tree.tokens] at hfuel; omega⟩
    refine run_readNode_container h (.inr (.inl rfl)) inBlock asValue (.inl ⟨rfl, rfl⟩)
      (Grow.run_map ?_)
    have hread :=
      run_readFlowItems items ht
        (s := ⟨items.tokens ++ more, s.error, s.anchors, s.handles,
          s.graph.push (.scalar .null "")⟩) true rfl fuel (by simp [Tree.tokens] at hfuel; omega)
    rw [Array.size_push] at hread
    exact hread
  | emptyObject space =>
    obtain ⟨fuel, rfl⟩ : ∃ n, fuel = n + 2 := ⟨fuel - 2, by simp [Tree.tokens] at hfuel; omega⟩
    refine run_readNode_container h (.inr (.inr rfl)) inBlock asValue (.inr ⟨rfl, rfl⟩) ?_
    exact Grow.run_map ((Grow.run_readFlowEntries_end rfl).trans (by simp [Growing.grown]))
  | object members =>
    obtain ⟨fuel, rfl⟩ : ∃ n, fuel = n + 1 := ⟨fuel - 1, by simp [Tree.tokens] at hfuel; omega⟩
    refine run_readNode_container h (.inr (.inr rfl)) inBlock asValue (.inr ⟨rfl, rfl⟩)
      (Grow.run_map ?_)
    have hread :=
      run_readFlowEntries members ht
        (s := ⟨members.tokens ++ more, s.error, s.anchors, s.handles,
          s.graph.push (.scalar .null "")⟩) true rfl fuel (by simp [Tree.tokens] at hfuel; omega)
    rw [Array.size_push] at hread
    exact hread

/-- The tokens of items are read as their nodes. -/
theorem run_readFlowItems (items : Items) (hitems : items.IsCommon) {s : Growing}
    {more : List Token} (first : Bool) (h : s.tokens = Grow.partTokens first (items.tokens ++ more))
    (fuel : Nat) (hfuel : 3 * items.tokens.length < fuel) :
    (Grow.readFlowItems first fuel).run s =
      .ok (items.ids s.graph.size, s.grown (items.nodes s.graph.size) more) := by
  obtain ⟨fuel, rfl⟩ : ∃ n, fuel = n + 1 := ⟨fuel - 1, by omega⟩
  cases items with
  | last before item after =>
    obtain ⟨-, hitem, -⟩ := hitems
    obtain ⟨a, ts, htokens, ha⟩ := item.exists_tokens hitem
    simp only [Items.tokens, htokens, List.append_assoc, List.cons_append, List.length_cons,
      List.length_append] at h hfuel
    have hread := run_readNode_tree item hitem
      (s := { s with tokens := a :: (ts ++ .flowSequenceEnd :: more) })
      (.flowSequenceEnd :: more) (by rw [htokens]; rfl) false false fuel
      (by rw [htokens, List.length_cons]; omega)
    obtain ⟨fuel, rfl⟩ : ∃ n, fuel = n + 1 := ⟨fuel - 1, by omega⟩
    exact Grow.run_readFlowItems_item h ha hread (Grow.run_readFlowItems_end rfl)
  | more before item after others =>
    obtain ⟨-, hitem, -, hothers⟩ := hitems
    obtain ⟨a, ts, htokens, ha⟩ := item.exists_tokens hitem
    simp only [Items.tokens, htokens, List.append_assoc, List.cons_append, List.length_cons,
      List.length_append] at h hfuel
    have hread := run_readNode_tree item hitem
      (s := { s with tokens := a :: (ts ++ .comma :: (others.tokens ++ more)) })
      (.comma :: (others.tokens ++ more)) (by rw [htokens]; rfl) false false fuel
      (by rw [htokens, List.length_cons]; omega)
    have hrest := run_readFlowItems others hothers
      (s := s.grown (item.nodes s.graph.size) (.comma :: (others.tokens ++ more))) false rfl
      fuel (by omega)
    rw [grown_grown, size_grown, item.length_nodes] at hrest
    exact Grow.run_readFlowItems_item h ha hread hrest

/-- The tokens of entries are read as their nodes. -/
theorem run_readFlowEntries (members : Members) (hmembers : members.IsCommon) {s : Growing}
    {more : List Token} (first : Bool)
    (h : s.tokens = Grow.partTokens first (members.tokens ++ more)) (fuel : Nat)
    (hfuel : 3 * members.tokens.length < fuel) :
    (Grow.readFlowEntries first fuel).run s =
      .ok (members.ids s.graph.size, s.grown (members.nodes s.graph.size) more) := by
  cases members with
  | last key before item after =>
    obtain ⟨-, -, hitem, -⟩ := hmembers
    obtain ⟨a, ts, htokens, ha⟩ := item.exists_tokens hitem
    simp only [Members.tokens, Key.tokens, htokens, List.append_assoc, List.cons_append,
      List.nil_append, List.length_cons, List.length_append] at h hfuel
    obtain ⟨fuel, rfl⟩ : ∃ n, fuel = n + 3 := ⟨fuel - 3, by omega⟩
    have hread := run_readNode_tree item hitem
      (s := s.grown [key.vertex] (a :: (ts ++ .flowMappingEnd :: more))) (.flowMappingEnd :: more)
      (by rw [htokens]; rfl) false false fuel (by rw [htokens, List.length_cons]; omega)
    rw [size_grown, grown_grown] at hread
    exact Grow.run_readFlowEntries_entry h ha hread (Grow.run_readFlowEntries_end rfl)
  | more key before item after others =>
    obtain ⟨-, -, hitem, -, hothers⟩ := hmembers
    obtain ⟨a, ts, htokens, ha⟩ := item.exists_tokens hitem
    simp only [Members.tokens, Key.tokens, htokens, List.append_assoc, List.cons_append,
      List.nil_append, List.length_cons, List.length_append] at h hfuel
    obtain ⟨fuel, rfl⟩ : ∃ n, fuel = n + 3 := ⟨fuel - 3, by omega⟩
    have hread := run_readNode_tree item hitem
      (s := s.grown [key.vertex] (a :: (ts ++ .comma :: (others.tokens ++ more))))
      (.comma :: (others.tokens ++ more)) (by rw [htokens]; rfl) false false fuel
      (by rw [htokens, List.length_cons]; omega)
    rw [size_grown, grown_grown] at hread
    have hrest := run_readFlowEntries others hothers
      (s := s.grown (key.vertex :: item.nodes (s.graph.size + 1))
        (.comma :: (others.tokens ++ more)))
      false rfl (fuel + 2) (by omega)
    -- A key takes one number, then come those of its value.
    have hsize : s.graph.size + (item.size + 1) = s.graph.size + 1 + item.size := by omega
    rw [grown_grown, size_grown, List.length_cons, item.length_nodes, hsize] at hrest
    exact Grow.run_readFlowEntries_entry h ha hread hrest

end

/-! ## Texts -/

/-- The only document of a stream is the value that its tokens make. -/
theorem run_readDocument {t : Tree} (ht : t.IsCommon) (fuel : Nat)
    (hfuel : 3 * t.tokens.length ≤ fuel) (h : s.tokens = t.tokens ++ [.streamEnd]) :
    ∃ s', (Grow.readDocument fuel).run s = .ok (some s.graph.size, s') ∧
      s'.graph = s.graph ++ (t.nodes s.graph.size).toArray := by
  obtain ⟨a, ts, htokens, ha⟩ := t.exists_tokens ht
  have hread :=
    run_readNode_tree t ht (s := { s with handles := Grow.usualHandles }) _ h true false fuel hfuel
  have hpeek : Grow.peek.run s = .ok (a, s) := Grow.run_peek (by rw [h, htokens]; rfl)
  have hmodify : (modify fun s => { s with handles := Grow.usualHandles } : Grow Unit).run s =
      .ok ((), { s with handles := Grow.usualHandles }) := rfl
  let s' := ({ s with handles := Grow.usualHandles } : Growing).grown (t.nodes s.graph.size)
    [.streamEnd]
  have hskip : Grow.skipEnds.run s' = .ok ((), s') := rfl
  have hend : Grow.peek.run s' = .ok (.streamEnd, s') := rfl
  refine ⟨s', ?_, rfl⟩
  unfold Grow.readDocument
  rw [Grow.run_bind hpeek]
  obtain ⟨plain, text, rfl⟩ | rfl | rfl := ha
  all_goals
    dsimp only
    rw [Grow.run_bind hmodify, Grow.run_bind (Grow.run_map hread), Grow.run_bind hskip,
      Grow.run_bind hend]
    rfl

/-- The graph of a text of the common part is that of its tree. -/
theorem Source.readGraph_written {x : Source} (hx : x.IsCommon) (htree : ¬ x.tree.IsScalar) :
    readGraph (x.written Space.unified) = .ok (some ((x.tree.nodes 0).toArray, 0)) := by
  have htokens := x.tokens_ofText hx htree
  obtain ⟨s', hread, hgraph⟩ :=
    run_readDocument (s := { tokens := x.tree.tokens ++ [.streamEnd], error := none })
    hx.2.1 (3 * (x.tree.tokens ++ [Token.streamEnd]).length + 3) (by simp; omega) rfl
  unfold readGraph
  dsimp only
  rw [htokens]
  dsimp only
  rw [hread]
  refine congrArg (fun g => Except.ok (some (g, 0))) (hgraph.trans ?_)
  exact Array.empty_append

end ApiDoc.Json
