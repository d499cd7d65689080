import ApiDoc.Proofs.Named
import ApiDoc.Proofs.Schema.Translation

/-!
# Schemas without their data

Default values, examples and the values of an enumeration are data, and data can be anything. A node
or a schema is *masked* when one fixed value stands for all its data. Everything else is as before,
so two nodes differ only in their data when they are the same after masking.

Translation looks at data only to see whether there is any. So it makes no difference whether data
is masked before a translation or after it, and in particular the references that are met and the
fault are the same. The proof goes through a translation as the translation goes through a node.

Main statement: `Node.translateTagged_masked`.
-/

namespace ApiDoc

/-! ## Work with another result -/

section

variable {m : Type → Type} [Monad m] [LawfulMonad m] {α β γ δ : Type}

/-- Work has another result when its first part and the rest of it have. -/
theorem bind_hom {x : m α} {x' : m β} {f : α → m γ} {f' : β → m δ} {g : α → β} {h : γ → δ}
    (hx : x' = g <$> x) (hf : ∀ a, f' (g a) = h <$> f a) : x' >>= f' = h <$> (x >>= f) := by
  rw [hx, bind_map_left, map_bind]
  exact bind_congr hf

theorem bind_hom_left (x : m α) {f : α → m γ} {f' : α → m δ} {h : γ → δ}
    (hf : ∀ a, f' a = h <$> f a) : x >>= f' = h <$> (x >>= f) := by
  rw [map_bind]
  exact bind_congr hf

/-- A loop has other results when every round has. -/
theorem mapM_hom {f : α → m β} {f' : α → m γ} {h : β → γ} {xs : List α}
    (hround : ∀ x, f' x = h <$> f x) : xs.mapM f' = List.map h <$> xs.mapM f := by
  induction xs with
  | nil => simp
  | cons x xs ih =>
    rw [List.mapM_cons, List.mapM_cons]
    refine bind_hom (hround x) fun y => bind_hom ih fun ys => ?_
    rw [map_pure, List.map_cons]

/-- A loop that collects something ends with something else when every round does. -/
theorem foldlM_hom {f : β → α → m β} {f' : γ → α → m γ} {h : β → γ} {xs : List α} {b : β}
    (hround : ∀ b x, f' (h b) x = h <$> f b x) : xs.foldlM f' (h b) = h <$> xs.foldlM f b := by
  induction xs generalizing b with
  | nil => simp
  | cons x xs ih =>
    rw [List.foldlM_cons, List.foldlM_cons]
    exact bind_hom (hround b x) fun c => ih

theorem mapM_mapNamed (f : α → β) (g : String × β → m γ) (es : List (String × α)) :
    (mapNamed f es).mapM g = es.mapM fun e => g (e.1, f e.2) := List.mapM_map

omit [LawfulMonad m] in
theorem foldlM_mapNamed (f : α → β) (g : γ → String × β → m γ) (es : List (String × α)) (c : γ) :
    (mapNamed f es).foldlM g c = es.foldlM (fun c e => g c (e.1, f e.2)) c := List.foldlM_map

end

namespace Traced

variable {ε α β γ : Type}

theorem map_id (x : Traced ε α) : id <$> x = x := by
  obtain ⟨refs, e | a⟩ := x
  · rfl
  · show (⟨refs ++ [], .ok a⟩ : Traced ε α) = _
    rw [List.append_nil]

theorem bind_assoc (x : Traced ε α) (f : α → Traced ε β) (g : β → Traced ε γ) :
    x >>= f >>= g = x >>= fun a => f a >>= g := by
  obtain ⟨refs, e | a⟩ := x
  · rfl
  · simp only [bind_eq, bind_ok]
    cases hf : f a with
    | mk rs result => cases result <;> simp

instance : LawfulMonad (Traced ε) :=
  .mk' _ map_id (fun a f => by simp [Traced.bind]) bind_assoc

end Traced

/-! ## Masked nodes -/

namespace Value

/-- The value that stands for data. -/
def placeholder : Value := .bool true

/-- A default or example value, if there is one. -/
def data? : Value → Option Value
  | .null => none
  | v => some v

/-- The mask of a default or example value, which may be absent. -/
def mask : Value → Value
  | .null => .null
  | _ => placeholder

/-- The mask of the values of an enumeration. -/
def maskAll : List Value → List Value
  | [] => []
  | _ :: _ => [placeholder]

theorem data?_mask (v : Value) : v.mask.data? = v.data?.map fun _ => placeholder := by
  cases v <;> rfl

end Value

namespace Node

mutual

/-- A node without its data. -/
def masked : Node → Node
  | ⟨kind, description, required, min, max, pattern, enum, format, defaultValue, exampleValue,
      items, properties, alternatives, additionalProperties, ref⟩ =>
    ⟨kind, description, required, min, max, pattern, enum.map Value.maskAll, format,
      defaultValue.mask, exampleValue.mask, maskedItems items, maskedProperties properties,
      maskedAlternatives alternatives, additionalProperties, ref⟩

/-- The items of an array without their data. -/
def maskedItems : Option Node → Option Node
  | none => none
  | some n => some (masked n)

/-- The parts of an object without their data. -/
def maskedProperties : Option (List (String × Node)) → Option (List (String × Node))
  | none => none
  | some parts => some (maskedNamed parts)

/-- The branches of alternatives without their data. -/
def maskedAlternatives : Option (List Node) → Option (List Node)
  | none => none
  | some ns => some (maskedList ns)

def maskedNamed : List (String × Node) → List (String × Node)
  | [] => []
  | (name, n) :: parts => (name, masked n) :: maskedNamed parts

def maskedList : List Node → List Node
  | [] => []
  | n :: ns => masked n :: maskedList ns

end

theorem maskedNamed_eq (parts : List (String × Node)) :
    maskedNamed parts = mapNamed masked parts := by
  induction parts with
  | nil => rfl
  | cons p parts ih =>
    rw [mapNamed_cons, ← ih]
    rfl

theorem maskedList_eq (ns : List Node) : maskedList ns = ns.map masked := by
  induction ns with
  | nil => rfl
  | cons n ns ih =>
    rw [List.map_cons, ← ih]
    rfl

theorem maskedProperties_eq (parts : Option (List (String × Node))) :
    maskedProperties parts = parts.map (mapNamed masked) := by
  cases parts with
  | none => rfl
  | some parts => exact congrArg some (maskedNamed_eq parts)

end Node

/-! ## Masked schemas -/

mutual

def Keyword.masked : Keyword → Keyword
  | .enum _ => .enum [.placeholder]
  | .defaultValue _ => .defaultValue .placeholder
  | .exampleValue _ => .exampleValue .placeholder
  | .properties members => .properties (Schema.maskedMembers members)
  | .items s => .items (Schema.maskedKeywords s)
  | .allOf ss => .allOf (Schema.maskedList ss)
  | .branches ss => .branches (Schema.maskedList ss)
  | k => k

def Schema.maskedKeywords : List Keyword → List Keyword
  | [] => []
  | k :: ks => k.masked :: Schema.maskedKeywords ks

def Schema.maskedMembers : List (String × List Keyword) → List (String × List Keyword)
  | [] => []
  | (name, s) :: ms => (name, Schema.maskedKeywords s) :: Schema.maskedMembers ms

def Schema.maskedList : List (List Keyword) → List (List Keyword)
  | [] => []
  | s :: ss => Schema.maskedKeywords s :: Schema.maskedList ss

end

namespace Schema

def masked (s : Schema) : Schema := s.map Keyword.masked

theorem maskedKeywords_eq (s : Schema) : maskedKeywords s = s.masked := by
  induction s with
  | nil => rfl
  | cons k s ih => exact congrArg (k.masked :: ·) ih

theorem maskedMembers_eq (ms : List (String × Schema)) : maskedMembers ms = mapNamed masked ms := by
  induction ms with
  | nil => rfl
  | cons e ms ih =>
    rw [mapNamed_cons, ← ih, ← maskedKeywords_eq]
    rfl

theorem maskedList_eq (ss : List Schema) : maskedList ss = ss.map masked := by
  induction ss with
  | nil => rfl
  | cons s ss ih =>
    rw [List.map_cons, ← ih, ← maskedKeywords_eq]
    rfl

end Schema

namespace Keyword

@[simp] theorem masked_properties (members : List (String × Schema)) :
    (properties members).masked = .properties (mapNamed Schema.masked members) :=
  congrArg properties (Schema.maskedMembers_eq members)

@[simp] theorem masked_items (s : Schema) : (items s).masked = .items s.masked :=
  congrArg items (Schema.maskedKeywords_eq s)

@[simp] theorem masked_allOf (ss : List Schema) :
    (allOf ss).masked = .allOf (ss.map Schema.masked) :=
  congrArg allOf (Schema.maskedList_eq ss)

@[simp] theorem masked_branches (ss : List Schema) :
    (branches ss).masked = .branches (ss.map Schema.masked) :=
  congrArg branches (Schema.maskedList_eq ss)

@[simp] theorem name_masked (k : Keyword) : k.masked.name = k.name := by
  cases k <;> rfl

@[simp] theorem isRef_masked (k : Keyword) : k.masked.isRef = k.isRef := by
  rw [isRef, isRef, name_masked]

end Keyword

namespace Schema

variable {s : Schema}

@[simp] theorem masked_nil : masked [] = [] := rfl

@[simp] theorem masked_cons (k : Keyword) (s : Schema) : masked (k :: s) = k.masked :: s.masked :=
  rfl

/-! ## Keywords of masked schemas -/

theorem put_masked (s : Schema) (k : Keyword) : put s.masked k.masked = (put s k).masked := by
  induction s with
  | nil => rfl
  | cons j s ih =>
    rw [masked_cons, put, put, Keyword.name_masked, Keyword.name_masked, ih]
    split <;> rfl

theorem put?_masked (s : Schema) (k : Option Keyword) :
    put? s.masked (k.map Keyword.masked) = (put? s k).masked := by
  cases k with
  | none => rfl
  | some k => exact put_masked s k

/-- Setting a keyword without data that may be absent. -/
theorem put?_masked_map {α : Type} (s : Schema) (o : Option α) (f : α → Keyword)
    (hf : ∀ a, (f a).masked = f a) : put? s.masked (o.map f) = (put? s (o.map f)).masked := by
  cases o with
  | none => rfl
  | some a =>
    rw [← put?_masked, Option.map_some, Option.map_some, hf]

theorem isReference_masked (s : Schema) : isReference s.masked = isReference s := by
  induction s with
  | nil => rfl
  | cons k s ih =>
    unfold isReference at ih ⊢
    rw [masked_cons, List.any_cons, List.any_cons, ih, Keyword.isRef_masked]

theorem type?_masked (s : Schema) : type? s.masked = type? s := by
  induction s with
  | nil => rfl
  | cons k s ih =>
    unfold type? at ih ⊢
    rw [masked_cons, List.findSome?_cons, List.findSome?_cons, ih]
    cases k <;> rfl

/-! ## Simple schemas -/

theorem withSimpleType_masked (s : Schema) :
    withSimpleType s.masked = (withSimpleType s).masked := by
  unfold withSimpleType
  rw [type?_masked]
  split
  · rfl
  · exact put_masked s (.type .string)

theorem withoutDescription_masked (s : Schema) :
    withoutDescription s.masked = (withoutDescription s).masked := by
  unfold withoutDescription masked
  rw [List.filter_map]
  simp only [Function.comp_def, Keyword.name_masked]

theorem simpleKeywords_masked (s : Schema) :
    simpleKeywords s.masked = masked (simpleKeywords s) := by
  induction s using Schema.induction with
  | h s ih =>
    have hkeyword (k : Keyword) (hk : k ∈ s) :
        simpleKeyword k.masked = (simpleKeyword k).map Keyword.masked := by
      cases k with
      | items u =>
        rw [Keyword.masked_items, simpleKeyword, simpleKeyword,
          ih _ hk u (by simp [Keyword.schemas]), withSimpleType_masked, withoutDescription_masked,
          List.map_singleton, Keyword.masked_items]
      | custom name v =>
        simp only [simpleKeyword, Keyword.masked]
        split <;> rfl
      | _ => simp [simpleKeyword, Keyword.masked, Keyword.isSimple]
    rw [simpleKeywords_eq, simpleKeywords_eq, masked, masked, List.flatMap_map, List.map_flatMap]
    exact List.flatMap_congr fun k hk => hkeyword k hk

/-- What is simple in a masked schema. -/
theorem simple_masked (s : Schema) : s.masked.simple = s.simple.masked := by
  rw [simple, simple, simpleKeywords_masked, withSimpleType_masked]

end Schema

/-! ## Translation -/

namespace Node

variable {resolve : String → Schema}

/-! A node without its data says the same about everything else. -/

@[simp] theorem min_masked (n : Node) : n.masked.min = n.min := by
  cases n
  rfl

@[simp] theorem max_masked (n : Node) : n.masked.max = n.max := by
  cases n
  rfl

@[simp] theorem pattern_masked (n : Node) : n.masked.pattern = n.pattern := by
  cases n
  rfl

@[simp] theorem format_masked (n : Node) : n.masked.format = n.format := by
  cases n
  rfl

@[simp] theorem kind?_masked (n : Node) : n.masked.kind? = n.kind? := by
  cases n
  rfl

@[simp] theorem checkBounds_masked (n : Node) : n.masked.checkBounds = n.checkBounds := by
  cases n
  rfl

@[simp] theorem checkPattern_masked (n : Node) : n.masked.checkPattern = n.checkPattern := by
  cases n
  rfl

@[simp] theorem tag?_masked (n : Node) : n.masked.tag? = n.tag? := by
  cases n
  rfl

@[simp] theorem required_masked (n : Node) : n.masked.required = n.required := by
  cases n
  rfl

theorem properties_masked (n : Node) :
    n.masked.properties = n.properties.map (mapNamed masked) := by
  cases n
  rw [masked, maskedProperties_eq]

theorem annotate_eq (n : Node) (s : Schema) :
    n.annotate s = Schema.put? (Schema.put? (Schema.put? s (n.description.map .description))
      (n.defaultValue.data?.map .defaultValue)) (n.exampleValue.data?.map .exampleValue) := by
  have hkeyword (f : Value → Keyword) (v : Value) :
      (match v with | .null => none | v => some (f v)) = v.data?.map f := by
    cases v <;> rfl
  exact congrArg₂ Schema.put? (congrArg₂ Schema.put? rfl (hkeyword .defaultValue n.defaultValue))
    (hkeyword .exampleValue n.exampleValue)

theorem annotate_masked (n : Node) (s : Schema) :
    n.masked.annotate s.masked = (n.annotate s).masked := by
  have hdescription : n.masked.description = n.description := by
    cases n
    rfl
  have hdefault : n.masked.defaultValue.data?.map Keyword.defaultValue =
      (n.defaultValue.data?.map Keyword.defaultValue).map Keyword.masked := by
    cases n
    rw [masked, Value.data?_mask, Option.map_map, Option.map_map]
    rfl
  have hsample : n.masked.exampleValue.data?.map Keyword.exampleValue =
      (n.exampleValue.data?.map Keyword.exampleValue).map Keyword.masked := by
    cases n
    rw [masked, Value.data?_mask, Option.map_map, Option.map_map]
    rfl
  rw [annotate_eq, annotate_eq, hdescription, hdefault, hsample,
    Schema.put?_masked_map _ _ .description fun _ => rfl, Schema.put?_masked, Schema.put?_masked]

theorem enumKeyword_masked (n : Node) :
    n.masked.enumKeyword = Option.map Keyword.masked <$> n.enumKeyword := by
  have henum : n.masked.enum = n.enum.map Value.maskAll := by
    cases n
    rfl
  unfold enumKeyword
  rw [henum]
  rcases n.enum with _ | _ | ⟨v, vs⟩ <;> rfl

theorem stringSchema_masked (n : Node) :
    n.masked.stringSchema = Schema.masked <$> n.stringSchema := by
  unfold stringSchema
  rw [checkPattern_masked, min_masked, max_masked, pattern_masked, format_masked]
  refine bind_hom_left _ fun _ => bind_hom (enumKeyword_masked n) fun enum => ?_
  rw [map_pure, ← Schema.put?_masked, ← Schema.put?_masked_map _ n.format .format fun _ => rfl,
    ← Schema.put?_masked_map _ n.pattern .pattern fun _ => rfl,
    ← Schema.put?_masked_map _ n.max (.bound .maxLength) fun _ => rfl,
    ← Schema.put?_masked_map _ n.min (.bound .minLength) fun _ => rfl]
  rfl

theorem numberSchema_masked (type : SchemaType) (n : Node) :
    n.masked.numberSchema type = Schema.masked <$> n.numberSchema type := by
  unfold numberSchema
  rw [min_masked, max_masked, format_masked]
  refine bind_hom (enumKeyword_masked n) fun enum => ?_
  rw [map_pure, ← Schema.put?_masked,
    ← Schema.put?_masked_map _ n.max (.bound .maximum) fun _ => rfl,
    ← Schema.put?_masked_map _ n.min (.bound .minimum) fun _ => rfl,
    ← Schema.put?_masked_map _ n.format .format fun _ => rfl]
  rfl

theorem leafSchema_masked (n : Node) (kind : Kind) :
    n.masked.leafSchema kind = Schema.masked <$> n.leafSchema kind := by
  cases kind with
  | string => exact stringSchema_masked n
  | number => exact numberSchema_masked .number n
  | integer => exact numberSchema_masked .integer n
  | date =>
    cases n
    rfl
  | _ => rfl

theorem requiredNames_mapNamed (parts : List (String × Node)) :
    requiredNames (mapNamed masked parts) = requiredNames parts := by
  unfold requiredNames mapNamed
  rw [List.filter_map, List.map_map]
  simp only [Function.comp_def, required_masked]

theorem objectSchema_masked (n : Node) (members : List (String × Schema)) :
    n.masked.objectSchema (mapNamed Schema.masked members) = (n.objectSchema members).masked := by
  -- Which members are required is no data, and masking keeps it.
  have hrequired :
      requiredNames (n.masked.properties.getD []) = requiredNames (n.properties.getD []) := by
    rw [properties_masked]
    cases n.properties with
    | none => rfl
    | some parts => exact requiredNames_mapNamed parts
  have hadditional : n.masked.additionalProperties = n.additionalProperties := by
    cases n
    rfl
  have hmembers : (if (mapNamed Schema.masked members).isEmpty then none
        else some (Keyword.properties (mapNamed Schema.masked members))) =
      (if members.isEmpty then none else some (.properties members)).map Keyword.masked := by
    cases members <;> simp
  have hnames (names : List String) :
      (if names.isEmpty then none else some (Keyword.required names)) =
      (if names.isEmpty then none else some (.required names)).map Keyword.masked := by
    split <;> rfl
  unfold objectSchema
  dsimp only
  rw [hrequired, hadditional, hmembers,
    ← Schema.put?_masked_map _ n.additionalProperties .additionalProperties fun _ => rfl,
    ← Schema.put?_masked, ← Schema.put?_masked, ← hnames]
  rfl

theorem arraySchema_masked (n : Node) (items : Schema) :
    n.masked.arraySchema items.masked = (n.arraySchema items).masked := by
  unfold arraySchema
  rw [min_masked, max_masked, ← Schema.put?_masked_map _ n.max (.bound .maxItems) fun _ => rfl,
    ← Schema.put?_masked_map _ n.min (.bound .minItems) fun _ => rfl, Schema.masked_cons,
    Schema.masked_cons, Keyword.masked_items]
  rfl

theorem branchSchema_masked (first : Schema) (rest : List Schema) :
    branchSchema first.masked (rest.map Schema.masked) = (branchSchema first rest).masked := by
  unfold branchSchema
  dsimp only
  rw [Schema.isReference_masked, ← Schema.put_masked, Keyword.masked_branches, List.map_cons]
  split
  · rw [Schema.masked_cons, Keyword.masked_allOf, List.map_singleton, Schema.masked_nil]
  · rfl

/-! What a translation does with the parts of a node does not depend on their data either. -/

theorem map_met (r : String) (s : Schema) :
    Schema.masked <$> (.met r s : Translation Schema) = .met r s.masked := rfl

theorem map_lift (x : Except TranslationError Schema) :
    Schema.masked <$> (.lift x : Translation Schema) = .lift (Schema.masked <$> x) := by
  cases x <;> rfl

/-- A node of a kind is translated to its schema without data, if its parts are. -/
theorem translateKind_masked {n : Node}
    (hmembers : translateMembers resolve n.masked.properties =
      mapNamed Schema.masked <$> translateMembers resolve n.properties)
    (hitems : translateItems resolve n.masked.items =
      Schema.masked <$> translateItems resolve n.items)
    (hbranches : translateBranches resolve n.masked.alternatives =
      Schema.masked <$> translateBranches resolve n.alternatives) (kind : Kind) :
    translateKind resolve n.masked kind = Schema.masked <$> translateKind resolve n kind := by
  cases kind with
  | object =>
    unfold translateKind
    dsimp only
    rw [hmembers, Functor.map_map, Functor.map_map]
    simp only [objectSchema_masked]
  | array =>
    unfold translateKind
    dsimp only
    rw [hitems, Functor.map_map, Functor.map_map]
    simp only [arraySchema_masked]
  | alternatives => exact hbranches
  | string | number | integer | boolean | date | any =>
    unfold translateKind
    dsimp only
    rw [leafSchema_masked, map_lift]

theorem translateTagged_masked_of_kind {n : Node} (hresolve : ∀ r, (resolve r).masked = resolve r)
    (hkind : ∀ kind,
      translateKind resolve n.masked kind = Schema.masked <$> translateKind resolve n kind)
    (tagged : Bool) :
    translateTagged resolve tagged n.masked =
      Schema.masked <$> translateTagged resolve tagged n := by
  rw [translateTagged_eq, translateTagged_eq, tag?_masked]
  cases if tagged then n.tag? else none with
  | some r =>
    dsimp only
    rw [map_met, hresolve]
  | none =>
    dsimp only
    rw [kind?_masked, checkBounds_masked]
    refine bind_hom_left _ fun kind => bind_hom_left _ fun _ => bind_hom (hkind kind) fun body => ?_
    rw [map_pure, annotate_masked]

mutual

/-- **Translation without data.** A node without its data has the same translation, except that the
schema is without its data. -/
theorem translateTagged_masked (hresolve : ∀ r, (resolve r).masked = resolve r) (tagged : Bool) :
    ∀ n : Node,
      translateTagged resolve tagged n.masked = Schema.masked <$> translateTagged resolve tagged n
  | ⟨_, _, _, _, _, _, _, _, _, _, items, properties, alternatives, _, _⟩ => by
    refine translateTagged_masked_of_kind hresolve (translateKind_masked ?_ ?_ ?_) tagged
    · exact translateMembers_masked hresolve properties
    · exact translateItems_masked hresolve items
    · exact translateBranches_masked hresolve alternatives

theorem translateItems_masked (hresolve : ∀ r, (resolve r).masked = resolve r) :
    ∀ n : Option Node,
      translateItems resolve (maskedItems n) = Schema.masked <$> translateItems resolve n
  | none => rfl
  | some n => by
    rw [maskedItems, translateItems, translateItems, translateTagged_masked hresolve true n]

theorem translateMembers_masked (hresolve : ∀ r, (resolve r).masked = resolve r) :
    ∀ parts : Option (List (String × Node)), translateMembers resolve (maskedProperties parts) =
      mapNamed Schema.masked <$> translateMembers resolve parts
  | none => rfl
  | some parts => by
    rw [maskedProperties, translateMembers, translateMembers, translateNamed_masked hresolve parts]

theorem translateNamed_masked (hresolve : ∀ r, (resolve r).masked = resolve r) :
    ∀ parts : List (String × Node), translateNamed resolve (maskedNamed parts) =
      mapNamed Schema.masked <$> translateNamed resolve parts
  | [] => rfl
  | (name, n) :: parts => by
    rw [maskedNamed, translateNamed, translateNamed]
    refine bind_hom (translateTagged_masked hresolve true n) fun s =>
      bind_hom (translateNamed_masked hresolve parts) fun members => ?_
    rw [map_pure, mapNamed_cons]

theorem translateBranches_masked (hresolve : ∀ r, (resolve r).masked = resolve r) :
    ∀ ns : Option (List Node), translateBranches resolve (maskedAlternatives ns) =
      Schema.masked <$> translateBranches resolve ns
  | none => rfl
  | some [] => rfl
  | some (n :: ns) => by
    rw [maskedAlternatives, maskedList, translateBranches, translateBranches]
    refine bind_hom (translateTagged_masked hresolve true n) fun first =>
      bind_hom (translateList_masked hresolve ns) fun rest => ?_
    rw [map_pure, branchSchema_masked]

theorem translateList_masked (hresolve : ∀ r, (resolve r).masked = resolve r) :
    ∀ ns : List Node,
      translateList resolve (maskedList ns) = List.map Schema.masked <$> translateList resolve ns
  | [] => rfl
  | n :: ns => by
    rw [maskedList, translateList, translateList]
    refine bind_hom (translateTagged_masked hresolve true n) fun s =>
      bind_hom (translateList_masked hresolve ns) fun ss => ?_
    rw [map_pure, List.map_cons]

end

theorem masked_referenceTo (r : String) : (referenceTo r).masked = referenceTo r := rfl

theorem translate_masked (n : Node) :
    n.masked.translate referenceTo = Schema.masked <$> n.translate referenceTo :=
  translateTagged_masked masked_referenceTo true n

theorem inline_masked (n : Node) :
    n.masked.inline referenceTo = Schema.masked <$> n.inline referenceTo :=
  translateTagged_masked masked_referenceTo false n

end Node

end ApiDoc
