import ApiDoc.Proofs.Number
import ApiDoc.Schema.Translation

/-!
# Well-formed nodes

What a node has to have in order to be translated itself, its parts apart (`Node.WellFormed`), and
the first thing in the order of the checks that an ill-formed node lacks (`Node.fault?`). A check is
made only where the kind of the node uses what is checked: a number may have any pattern.

Main statement: `Node.wellFormed_iff`, a node is well formed exactly when no check finds a fault.
-/

namespace ApiDoc

namespace Kind

theorem ofName?_name (k : Kind) : ofName? k.name = some k := by cases k <;> rfl

theorem ofName?_eq_some_iff {s : String} {k : Kind} : ofName? s = some k ↔ s = k.name := by
  constructor
  · intro h
    unfold ofName? at h
    have hname := List.find?_some h
    exact (of_decide_eq_true hname).symm
  · rintro rfl
    exact ofName?_name k

theorem name_injective : Function.Injective name := fun j k h =>
  Option.some.inj (by rw [← ofName?_name j, ← ofName?_name k, h])

theorem ofName?_eq_none_iff {s : String} : ofName? s = none ↔ ∀ k : Kind, s ≠ k.name := by
  rw [Option.eq_none_iff_forall_ne_some]
  exact forall_congr' fun k => not_congr ofName?_eq_some_iff

end Kind

namespace Node

/-- A node can be translated itself, as far as it does not depend on its parts. -/
structure WellFormed (n : Node) : Prop where
  kind : ∃ k : Kind, n.kind = k.name
  /-- The values of two bounds are in order. A bound that is not a number is never too great. -/
  bounds : ∀ a ∈ n.min, ∀ b ∈ n.max, ∀ v ∈ a.value?, ∀ w ∈ b.value?, v ≤ w
  pattern : n.kind = Kind.string.name → ∀ p ∈ n.pattern, Pattern.check p.toList = .ok ()
  enum : n.kind ∈ [Kind.string.name, Kind.number.name, Kind.integer.name] → n.enum ≠ some []
  items : n.kind = Kind.array.name → n.items ≠ none
  branches : n.kind = Kind.alternatives.name → ∃ b bs, n.alternatives = some (b :: bs)

/-! ## Faults -/

/-- The lower bound exceeds the upper one. -/
def boundsFault? (n : Node) : Option TranslationError :=
  match n.min, n.max with
  | some a, some b => if a.exceeds b then some (.boundsReversed a b) else none
  | _, _ => none

/-- The pattern is no regular expression. -/
def patternFault? (n : Node) : Option TranslationError :=
  n.pattern.bind fun p =>
    match Pattern.check p.toList with
    | .ok () => none
    | .error e => some (.badPattern p e)

/-- The values that are allowed are none. -/
def enumFault? (n : Node) : Option TranslationError :=
  match n.enum with
  | some [] => some .emptyEnum
  | _ => none

/-- What a node lacks of what its kind asks for. -/
def kindFault? (n : Node) : Kind → Option TranslationError
  | .string => n.patternFault?.or n.enumFault?
  | .number | .integer => n.enumFault?
  | .array => if n.items.isNone then some .missingItems else none
  | .alternatives => if (n.alternatives.getD []).isEmpty then some .noBranches else none
  | .boolean | .date | .object | .any => none

/-- The first fault of a node: of its kind, of its bounds, or of what its kind asks for. -/
def fault? (n : Node) : Option TranslationError :=
  match Kind.ofName? n.kind with
  | none => some (.unknownKind n.kind)
  | some kind => n.boundsFault?.or (n.kindFault? kind)

variable {n : Node} {kind : Kind}

/-! ## Checks -/

/-- Goes on unless there is a fault. -/
def refuse : Option TranslationError → Except TranslationError Unit
  | some e => .error e
  | none => .ok ()

theorem checkBounds_eq (n : Node) : n.checkBounds = refuse n.boundsFault? := by
  unfold checkBounds boundsFault?
  cases n.min with
  | none => rfl
  | some a =>
    cases n.max with
    | none => rfl
    | some b => cases h : a.exceeds b <;> simp [h, refuse]

theorem checkPattern_eq (n : Node) : n.checkPattern = refuse n.patternFault? := by
  unfold checkPattern patternFault?
  cases n.pattern with
  | none => rfl
  | some p => cases h : Pattern.check p.toList <;> simp [h, refuse]

theorem enumKeyword_of_none (h : n.enumFault? = none) : ∃ k, n.enumKeyword = .ok k := by
  unfold enumFault? at h
  unfold enumKeyword
  split at h
  · cases h
  · rename_i hne
    split
    · exact ⟨_, rfl⟩
    · rename_i henum
      exact absurd henum hne
    · exact ⟨_, rfl⟩

theorem enumKeyword_of_some {e : TranslationError} (h : n.enumFault? = some e) :
    n.enumKeyword = .error e := by
  unfold enumFault? at h
  split at h
  · rename_i henum
    rw [enumKeyword, henum, Option.some.inj h]
  · cases h

theorem stringSchema_of_none (h : n.patternFault?.or n.enumFault? = none) :
    ∃ s, n.stringSchema = .ok s := by
  obtain ⟨hpattern, henum⟩ := Option.or_eq_none_iff.mp h
  obtain ⟨k, hk⟩ := enumKeyword_of_none henum
  exact ⟨_, by rw [stringSchema, checkPattern_eq, hpattern, hk]; rfl⟩

theorem stringSchema_of_some {e : TranslationError}
    (h : n.patternFault?.or n.enumFault? = some e) : n.stringSchema = .error e := by
  rw [stringSchema, checkPattern_eq]
  cases hpattern : n.patternFault? with
  | some d =>
    rw [hpattern] at h
    exact congrArg Except.error (Option.some.inj h)
  | none =>
    rw [hpattern, Option.none_or] at h
    rw [enumKeyword_of_some h]
    rfl

theorem numberSchema_of_none (type : SchemaType) (h : n.enumFault? = none) :
    ∃ s, n.numberSchema type = .ok s := by
  obtain ⟨k, hk⟩ := enumKeyword_of_none h
  exact ⟨_, by rw [numberSchema, hk]; rfl⟩

theorem numberSchema_of_some (type : SchemaType) {e : TranslationError}
    (h : n.enumFault? = some e) : n.numberSchema type = .error e := by
  rw [numberSchema, enumKeyword_of_some h]
  rfl

/-! ## Well-formedness -/

theorem boundsFault?_eq_none_iff :
    n.boundsFault? = none ↔
      ∀ a ∈ n.min, ∀ b ∈ n.max, ∀ v ∈ a.value?, ∀ w ∈ b.value?, v ≤ w := by
  have hexceeds (a b : Number) :
      a.exceeds b = true ↔ ¬ ∀ v ∈ a.value?, ∀ w ∈ b.value?, v ≤ w := by
    rw [Number.exceeds_iff]
    push Not
    rfl
  unfold boundsFault?
  split
  · rename_i a b ha hb
    simp [ha, hb, hexceeds]
  · rename_i hnone
    refine iff_of_true rfl fun a ha b hb => ?_
    exact absurd hb (hnone a b ha)

theorem patternFault?_eq_none_iff :
    n.patternFault? = none ↔ ∀ p ∈ n.pattern, Pattern.check p.toList = .ok () := by
  unfold patternFault?
  cases n.pattern with
  | none => simp
  | some p =>
    simp only [Option.bind_some, Option.mem_def, Option.some.injEq, forall_eq']
    split <;> simp_all

theorem enumFault?_eq_none_iff : n.enumFault? = none ↔ n.enum ≠ some [] := by
  unfold enumFault?
  split <;> simp_all

theorem branchesFault?_eq_none_iff :
    n.kindFault? .alternatives = none ↔ ∃ b bs, n.alternatives = some (b :: bs) := by
  unfold kindFault?
  cases n.alternatives with
  | none => simp
  | some branches => cases branches <;> simp

/-- A node lacks nothing that its kind asks for exactly when it is well formed in the points that
its kind uses. -/
theorem kindFault?_eq_none_iff (hname : n.kind = kind.name) :
    n.kindFault? kind = none ↔
      (n.kind = Kind.string.name → ∀ p ∈ n.pattern, Pattern.check p.toList = .ok ()) ∧
      (n.kind ∈ [Kind.string.name, Kind.number.name, Kind.integer.name] → n.enum ≠ some []) ∧
      (n.kind = Kind.array.name → n.items ≠ none) ∧
      (n.kind = Kind.alternatives.name → ∃ b bs, n.alternatives = some (b :: bs)) := by
  have hkinds (k : Kind) : n.kind = k.name ↔ kind = k := by
    rw [hname]
    exact Kind.name_injective.eq_iff
  simp only [List.mem_cons, List.not_mem_nil, or_false, hkinds]
  cases kind with
  | string =>
    simp [kindFault?, Option.or_eq_none_iff, patternFault?_eq_none_iff, enumFault?_eq_none_iff]
  | number | integer => simp [kindFault?, enumFault?_eq_none_iff]
  | array => simp [kindFault?]
  | alternatives => simp [branchesFault?_eq_none_iff]
  | boolean | date | object | any => simp [kindFault?]

/-- **Well-formed nodes** are those without a fault. -/
theorem wellFormed_iff : n.WellFormed ↔ n.fault? = none := by
  unfold fault?
  cases hkind : Kind.ofName? n.kind with
  | none =>
    refine iff_of_false (fun h => ?_) (by simp)
    obtain ⟨k, hk⟩ := h.kind
    exact Kind.ofName?_eq_none_iff.mp hkind k hk
  | some kind =>
    have hname := Kind.ofName?_eq_some_iff.mp hkind
    dsimp only
    rw [Option.or_eq_none_iff, boundsFault?_eq_none_iff, kindFault?_eq_none_iff hname]
    constructor
    · intro h
      exact ⟨h.bounds, h.pattern, h.enum, h.items, h.branches⟩
    · rintro ⟨hbounds, hpattern, henum, hitems, hbranches⟩
      exact ⟨⟨kind, hname⟩, hbounds, hpattern, henum, hitems, hbranches⟩

end Node

end ApiDoc
