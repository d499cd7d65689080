import ApiDoc.Proofs.Document.Way
import ApiDoc.Proofs.Validation.Faultless

/-!
# Failures of a generation

A generation from values gives a document or a documented failure, apart from three places on its
way where the failure is another one (`Stop.Escapes`):

- a node with bounds in the wrong order of which one has no text, so that the message cannot be put
  together;
- a text with a pattern that is refused although its syntax is right, such as one with a very large
  number of repetitions;
- a configured tag whose name is a container, which cannot be compared with the names of other tags.

Such a place decides the generation when nothing before it is in error. The configuration and the
options are read without such failures, and what is looked at after the way, the references, gives
only documented ones.

How deep nodes and data may be nested is not limited here. A program with a bounded stack can also
fail on an input that is nested too deeply for it; that failure is not modelled, and "exactly when"
is said apart from it.

Main statement: `Api.undocumented_iff`.
-/

namespace ApiDoc

/-! ## Nodes -/

namespace Node

variable {n : Node} {e : TranslationError}

/-- The pattern of a node is refused although its syntax is right. -/
def PatternRefused (n : Node) : Prop :=
  ∃ p ∈ n.pattern, ∃ why, Pattern.check p.toList = .error (.refused why)

/-- The fault of a node is not a documented failure: its bounds are reversed and cannot be told, or
they are not reversed and it is a text whose pattern is refused. -/
def Escapes (n : Node) : Prop :=
  (∃ k : Kind, n.kind = k.name) ∧
    ((∃ a ∈ n.min, ∃ b ∈ n.max, a.exceeds b = true ∧ (a.hasText && b.hasText) = false) ∨
      (∀ a ∈ n.min, ∀ b ∈ n.max, a.exceeds b = false) ∧ n.kind = Kind.string.name ∧
      n.PatternRefused)

/-- The bounds of a node are in order, or they are reversed and that is its fault. -/
theorem boundsFault?_cases (n : Node) :
    n.boundsFault? = none ∧ (∀ a ∈ n.min, ∀ b ∈ n.max, a.exceeds b = false) ∨
      ∃ a b, n.min = some a ∧ n.max = some b ∧ a.exceeds b = true ∧
        n.boundsFault? = some (.boundsReversed a b) := by
  unfold boundsFault?
  split
  · rename_i a b ha hb
    cases hexceeds : a.exceeds b with
    | true => exact .inr ⟨a, b, ha, hb, hexceeds, if_pos rfl⟩
    | false =>
      refine .inl ⟨if_neg nofun, fun c hc d hd => ?_⟩
      obtain rfl := Option.some.inj (ha.symm.trans hc)
      obtain rfl := Option.some.inj (hb.symm.trans hd)
      exact hexceeds
  · rename_i hnone
    exact .inl ⟨rfl, fun a ha b hb => absurd hb (hnone a b ha)⟩

theorem patternFault?_documented (h : n.patternFault? = some e) :
    (Error.translation e).isDocumented = false ↔ n.PatternRefused := by
  unfold PatternRefused
  unfold patternFault? at h
  obtain ⟨p, hp, h⟩ := Option.bind_eq_some_iff.mp h
  simp only [hp, Option.mem_def, Option.some.injEq, exists_eq_left']
  split at h
  · cases h
  · rename_i error herror
    obtain rfl := Option.some.inj h
    simp only [herror, Except.error.injEq]
    cases error with
    | refused why => exact iff_of_true rfl ⟨why, rfl⟩
    | «at» | whole => exact iff_of_false nofun (by simp)

theorem PatternRefused.fault? (h : n.PatternRefused) : ∃ e, n.patternFault? = some e := by
  obtain ⟨p, hp, why, herror⟩ := h
  refine ⟨.badPattern p (.refused why), ?_⟩
  rw [patternFault?, Option.mem_def.mp hp, Option.bind_some, herror]

/-- What a node lacks of what its kind asks for is a documented failure, unless it is a text whose
pattern is refused. -/
theorem kindFault?_documented (n : Node) (kind : Kind) :
    (∃ e, n.kindFault? kind = some e ∧ (Error.translation e).isDocumented = false) ↔
      kind = .string ∧ n.PatternRefused := by
  have henum (e : TranslationError) (h : n.enumFault? = some e) :
      (Error.translation e).isDocumented ≠ false := by
    unfold enumFault? at h
    split at h <;> cases h
    decide
  -- Of the faults of a kind, only a refused pattern is not documented.
  cases kind with
  | string =>
    simp only [true_and, kindFault?, Option.or_eq_some_iff]
    constructor
    · rintro ⟨e, hpattern | ⟨-, h⟩, he⟩
      · exact (patternFault?_documented hpattern).mp he
      · exact absurd he (henum e h)
    · intro h
      obtain ⟨e, hpattern⟩ := h.fault?
      exact ⟨e, .inl hpattern, (patternFault?_documented hpattern).mpr h⟩
  | number | integer =>
    refine iff_of_false ?_ (by simp)
    rintro ⟨e, h, he⟩
    exact henum e h he
  | array | alternatives =>
    refine iff_of_false ?_ (by simp)
    rintro ⟨e, h, he⟩
    rw [kindFault?] at h
    split at h <;> cases h
    cases he
  | boolean | date | object | any => simp [kindFault?]

/-- The fault of a node is not documented exactly when the node escapes. -/
theorem escapes_iff :
    n.Escapes ↔ ∃ e, n.fault? = some e ∧ (Error.translation e).isDocumented = false := by
  unfold Escapes fault?
  cases hkind : Kind.ofName? n.kind with
  | none =>
    refine iff_of_false (fun ⟨⟨k, hk⟩, _⟩ => Kind.ofName?_eq_none_iff.mp hkind k hk) ?_
    rintro ⟨e, he, hdocumented⟩
    obtain rfl := Option.some.inj he
    cases hdocumented
  | some kind =>
    have hname := Kind.ofName?_eq_some_iff.mp hkind
    rw [and_iff_right ⟨kind, hname⟩]
    dsimp only
    obtain ⟨hnone, horder⟩ | ⟨a, b, ha, hb, hexceeds, hfault⟩ := n.boundsFault?_cases
    · -- The bounds are in order, so it is up to the pattern.
      rw [hnone]
      simp only [Option.none_or, kindFault?_documented]
      rw [hname, Kind.name_injective.eq_iff, or_iff_right, and_iff_right horder]
      rintro ⟨a, ha, b, hb, hexceeds, -⟩
      rw [horder a ha b hb] at hexceeds
      cases hexceeds
    · rw [hfault]
      simp only [Option.some_or, Option.some.injEq, exists_eq_left', ha, hb, Option.mem_def]
      rw [hexceeds, and_iff_right rfl, or_iff_left]
      · rfl
      · rintro ⟨horder, -⟩
        have := horder a rfl b rfl
        rw [hexceeds] at this
        cases this

end Node

/-! ## Ways -/

namespace Stop

/-- The error at a stop is not a documented failure. -/
def Escapes : Stop → Prop
  | visit (.node n) => n.Escapes
  | configured tag => ∃ type, Work.unhashable? ((getNamed? "name" tag).getD .null) = some type
  | _ => False

theorem escapes_iff {stop : Stop} :
    stop.Escapes ↔ ∃ e, stop.error? = some e ∧ e.isDocumented = false := by
  match stop with
  | .visit (.node n) =>
    change n.Escapes ↔ ∃ e, n.fault?.map Error.translation = some e ∧ _
    rw [Node.escapes_iff]
    simp only [Option.map_eq_some_iff]
    constructor
    · rintro ⟨e, he, hdocumented⟩
      exact ⟨_, ⟨e, he, rfl⟩, hdocumented⟩
    · rintro ⟨_, ⟨e, he, rfl⟩, hdocumented⟩
      exact ⟨e, he, hdocumented⟩
  | .visit (.tag ref) =>
    change False ↔ ∃ e, none = some e ∧ _
    simp
  | .key k =>
    refine iff_of_false nofun ?_
    rintro ⟨e, he, hdocumented⟩
    rw [error?] at he
    split at he <;> cases he
    cases hdocumented
  | .configured tag =>
    unfold Escapes error? Work.tagName
    dsimp only
    cases Work.unhashable? ((getNamed? "name" tag).getD .null) with
    | none => simp
    | some type => exact iff_of_true ⟨type, rfl⟩ ⟨_, rfl, rfl⟩

/-- A stop is on a way, and nothing before it is in error. -/
def IsReached (way : List Stop) (stop : Stop) : Prop :=
  ∃ before after, way = before ++ stop :: after ∧ ∀ b ∈ before, b.error? = none

/-- The first error on a way is not documented exactly when a stop that escapes is reached. -/
theorem firstError?_undocumented {way : List Stop} :
    (∃ e, firstError? way = some e ∧ e.isDocumented = false) ↔
      ∃ stop, IsReached way stop ∧ stop.Escapes := by
  unfold firstError? IsReached
  simp only [escapes_iff, List.findSome?_eq_some_iff]
  constructor
  · rintro ⟨e, ⟨before, stop, after, hway, he, hbefore⟩, hdocumented⟩
    exact ⟨stop, ⟨before, after, hway, hbefore⟩, e, he, hdocumented⟩
  · rintro ⟨stop, ⟨before, after, hway, hbefore⟩, e, he, hdocumented⟩
    exact ⟨e, ⟨before, stop, after, hway, he, hbefore⟩, hdocumented⟩

end Stop

/-! ## Generations -/

namespace Api

theorem undocumented_of_generate {config : DocumentConfig} {options : Options}
    {routes : List Route} :
    (∃ e, ((Api.mk routes).generate config options).1 = .error e ∧ e.isDocumented = false) ↔
      ∃ stop, Stop.IsReached (Work.draftWay config options routes) stop ∧ stop.Escapes := by
  rw [← Stop.firstError?_undocumented]
  cases hfirst : Stop.firstError? (Work.draftWay config options routes) with
  | some e => simp only [generate_of_error hfirst, Except.error.injEq, Option.some.injEq]
  | none =>
    refine iff_of_false ?_ (by simp)
    obtain ⟨d, t, hdraft, -⟩ := draft_of_way hfirst
    obtain ⟨-, hresult⟩ | ⟨p, -, -, hresult⟩ := generate_of_run hdraft
    · simp [hresult]
    · rintro ⟨e, he, hdocumented⟩
      obtain rfl := Except.error.inj (hresult.symm.trans he)
      cases hdocumented

/-- **Failures.** A generation from values ends with a failure that is not documented exactly when
the values can be read and a stop that escapes is reached. -/
theorem undocumented_iff (api : Api) (v w : Value) :
    (∃ e, (api.generateFrom v w).1 = .error e ∧ e.isDocumented = false) ↔
      ∃ config options, DocumentConfig.ofValue v = .ok config ∧ Options.ofValue w = .ok options ∧
        ∃ stop, Stop.IsReached (Work.draftWay config options api.routes) stop ∧ stop.Escapes := by
  unfold generateFrom
  cases hconfig : DocumentConfig.ofValue v with
  -- A configuration or options of the wrong shape are refused with a documented error.
  | error e =>
    refine iff_of_false ?_ (by simp)
    rintro ⟨d, hd, hdocumented⟩
    obtain rfl := Except.error.inj hd
    rw [(DocumentConfig.faultless_read v).isDocumented hconfig] at hdocumented
    cases hdocumented
  | ok config =>
    cases hoptions : Options.ofValue w with
    | error e =>
      refine iff_of_false ?_ (by simp)
      rintro ⟨d, hd, hdocumented⟩
      obtain rfl := Except.error.inj hd
      rw [(Options.faultless_read w).isDocumented hoptions] at hdocumented
      cases hdocumented
    | ok options =>
      simp only [Except.ok.injEq, exists_and_left, exists_eq_left']
      exact undocumented_of_generate

namespace Sample

/-- A document with a definition of a text that repeats a letter more often than a pattern may. -/
def repetitious : Value :=
  .object [("info", .object []), ("basePath", .str "/"),
    ("definitions", .object [("A", .object [("kind", .str "string"),
      ("pattern", .str "a\x7b4294967296\x7d")])])]

/-- A document with a tag whose name is a list. -/
def misnamed : Value :=
  .object [("info", .object []), ("basePath", .str "/"),
    ("tags", .listOf [.object [("name", .listOf [.str "a"])]])]

end Sample

/-- A pattern or a tag can make a generation fail in a way that is not documented. -/
theorem not_documented_of_generateFrom :
    (∃ e, ((Api.mk []).generateFrom Sample.repetitious .null).1 = .error e ∧
      e.isDocumented = false) ∧
      ∃ e, ((Api.mk []).generateFrom Sample.misnamed .null).1 = .error e ∧ e.isDocumented = false :=
  ⟨⟨_, rfl, rfl⟩, _, rfl, rfl⟩

end Api

end ApiDoc
