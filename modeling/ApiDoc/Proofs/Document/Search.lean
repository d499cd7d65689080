import ApiDoc.Proofs.Document.References
import ApiDoc.Proofs.Document.Roles
import ApiDoc.Proofs.Value.Unlabelled

/-!
# What the search for references finds

Where a reference stands is said without the search: `References.Mode.inside` tells how the keys of
a mapping are taken, and `References.RefersAt` goes from a value to the references in it, by numbers
of entries and items. Numbers on the way are compared one after the other, so the order of these
ways is the order of a reader who goes through a document from the beginning to the end.

**The search** lists the references of a value in this order, each once (`References.Lists`). It is
an induction over the value, with one lemma for joining two lists and one for going one step further
in.

**The check** therefore decides by the references and the further pointers alone: it fails exactly
when one of them does not lead to a definition, and it reports the first of these.

Main statement: `References.check_tree`.
-/

namespace ApiDoc.References

open Value

/-! ## Where references stand -/

/-- How the keys of a mapping are taken: as names that people have chosen, or as keywords. -/
inductive Mode where
  | names
  | keywords
  deriving DecidableEq

namespace Mode

/-- How the keys of what is under a key are taken. What is data is not gone into. -/
def inside : Mode → String → Option Mode
  | names, _ => some keywords
  | keywords, key =>
    if key ∈ ["default", "example", "enum"] ∨ "x-".toList <+: key.toList then none
    else if key ∈ ["properties", "definitions", "responses", "headers"] then some names
    else some keywords

/-- The mode as the search has it. -/
def isNames : Mode → Bool
  | names => true
  | keywords => false

end Mode

/-- A value has a reference to `p`. The way to it is made of the numbers of the entries and of the
items that it goes through. A reference is a text under `$ref` in a mapping of keywords. -/
inductive RefersAt : Mode → Value → List Nat → String → Prop
  | here {l : Label} {es : Entries} {i : Nat} {p : String}
      (h : es[i]? = some (.str "$ref", .str p)) :
      RefersAt .keywords (.map l es) [i] p
  | entry {m m' : Mode} {l : Label} {es : Entries} {i : Nat} {key : String} {v : Value}
    {way : List Nat} {p : String}
      (h : es[i]? = some (.str key, v)) (hinside : m.inside key = some m')
      (hv : RefersAt m' v way p) :
      RefersAt m (.map l es) (i :: way) p
  | item {m : Mode} {l : Label} {vs : List Value} {i : Nat} {v : Value} {way : List Nat}
    {p : String}
      (h : vs[i]? = some v) (hv : RefersAt .keywords v way p) : RefersAt m (.list l vs) (i :: way) p

/-- A document has a reference to `p`, or `p` is given as a further pointer. The paths come first,
then the definitions, then what is given. -/
inductive PointsAt (entries : Entries) (pointers : List String) : List Nat → String → Prop
  | path {v : Value} {way : List Nat} {p : String} (h : entries.get? "paths" = some v)
      (hv : RefersAt .names v way p) : PointsAt entries pointers (0 :: way) p
  | definition {v : Value} {way : List Nat} {p : String} (h : entries.get? "definitions" = some v)
      (hv : RefersAt .names v way p) : PointsAt entries pointers (1 :: way) p
  | given {i : Nat} {p : String} (h : pointers[i]? = some p) : PointsAt entries pointers [2, i] p

/-- A document has a definition with a name. -/
def Defines (entries : Entries) (name : String) : Prop :=
  ∃ l ds, entries.get? "definitions" = some (.map l ds) ∧ .str name ∈ ds.map (·.1)

/-- A pointer is `#/definitions/N`, or that and a further path, for the name `N` of a definition of
a document. -/
def LeadsToDefinition (entries : Entries) (p : String) : Prop :=
  ∃ name rest, p = "#/definitions/" ++ name ++ rest ∧ '/' ∉ name.toList ∧
    (rest = "" ∨ ∃ tail, rest = "/" ++ tail) ∧ Defines entries name

/-- A pointer into a document leads nowhere. -/
def IsDangling (entries : Entries) (p : String) : Prop := IsLocal p ∧ ¬ LeadsToDefinition entries p

/-! ## Lists of references -/

/-- The pointers in a list are those that a relation has, each as often as it has a way, in the
order of the ways. -/
def Lists (R : List Nat → String → Prop) (ps : List String) : Prop :=
  ∃ found : List (List Nat × String),
    found.Pairwise (·.1 < ·.1) ∧ found.map (·.2) = ps ∧ ∀ way p, R way p ↔ (way, p) ∈ found

namespace Lists

variable {R S : List Nat → String → Prop} {ps qs : List String}

theorem nil (h : ∀ way p, ¬ R way p) : Lists R [] := ⟨[], .nil, rfl, by simpa using h⟩

theorem congr (h : Lists R ps) (hiff : ∀ way p, S way p ↔ R way p) : Lists S ps := by
  obtain ⟨found, hsorted, hps, hfound⟩ := h
  exact ⟨found, hsorted, hps, fun way p => (hiff way p).trans (hfound way p)⟩

theorem singleton (way : List Nat) (p : String) : Lists (fun way' q => way' = way ∧ q = p) [p] :=
  ⟨[(way, p)], List.pairwise_singleton _ _, rfl, by simp⟩

/-- Two lists are joined when all ways of the first come before those of the second. -/
theorem append (hR : Lists R ps) (hS : Lists S qs)
    (hlt : ∀ way p way' q, R way p → S way' q → way < way') :
    Lists (fun way p => R way p ∨ S way p) (ps ++ qs) := by
  obtain ⟨found, hsorted, rfl, hfound⟩ := hR
  obtain ⟨found', hsorted', rfl, hfound'⟩ := hS
  refine ⟨found ++ found', List.pairwise_append.mpr ⟨hsorted, hsorted', ?_⟩, List.map_append,
    fun way p => ?_⟩
  · exact fun e he e' he' => hlt _ _ _ _ ((hfound _ _).mpr he) ((hfound' _ _).mpr he')
  · exact (or_congr (hfound way p) (hfound' way p)).trans List.mem_append.symm

/-- All ways go one step further, the same for all. -/
theorem step (hR : Lists R ps) (i : Nat) :
    Lists (fun way p => ∃ rest, way = i :: rest ∧ R rest p) ps := by
  obtain ⟨found, hsorted, rfl, hfound⟩ := hR
  refine ⟨found.map fun e => (i :: e.1, e.2), ?_, by simp, fun way p => ?_⟩
  · exact hsorted.map _ fun e e' hlt => List.cons_lt_cons_iff.mpr (.inr ⟨rfl, hlt⟩)
  · simp only [hfound, List.mem_map, Prod.mk.injEq, Prod.exists]
    constructor
    · rintro ⟨rest, rfl, hmem⟩
      exact ⟨rest, p, hmem, rfl, rfl⟩
    · rintro ⟨rest, q, hmem, rfl, rfl⟩
      exact ⟨rest, rfl, hmem⟩

/-- Numbers from `n` on, each followed by the ways of the item with the number, are listed item by
item. -/
theorem flatMap {α : Type} {T : α → List Nat → String → Prop} {find : α → List String} {xs : List α}
    (h : ∀ x ∈ xs, Lists (T x) (find x)) (n : Nat) :
    Lists (fun way p => ∃ i x rest, xs[i]? = some x ∧ way = (n + i) :: rest ∧ T x rest p)
      (xs.flatMap find) := by
  induction xs generalizing n with
  | nil => exact .nil (by simp)
  | cons x xs ih =>
    obtain ⟨hx, hxs⟩ := List.forall_mem_cons.mp h
    refine ((hx.step n).append (ih hxs (n + 1)) ?_).congr fun way p => ?_
    · rintro _ p _ q ⟨rest, rfl, -⟩ ⟨i, y, rest', -, rfl, -⟩
      exact List.cons_lt_cons_iff.mpr (.inl (by omega))
    · constructor
      · rintro ⟨_ | i, y, rest, hy, rfl, hp⟩
        · obtain rfl : x = y := by simpa using hy
          exact .inl ⟨rest, rfl, hp⟩
        · exact .inr ⟨i, y, rest, by simpa using hy, by rw [Nat.add_assoc, Nat.add_comm 1], hp⟩
      · rintro (⟨rest, rfl, hp⟩ | ⟨i, y, rest, hy, rfl, hp⟩)
        · exact ⟨0, x, rest, rfl, rfl, hp⟩
        · exact ⟨i + 1, y, rest, by simpa using hy, by rw [Nat.add_assoc, Nat.add_comm 1], hp⟩

/-- The first pointer of a list without a property is the one whose way comes first. -/
theorem first_of_find? (hR : Lists R ps) {P : String → Prop} [DecidablePred P] {p : String}
    (h : ps.find? (¬ P ·) = some p) :
    ∃ way, R way p ∧ ¬ P p ∧ ∀ way' p', R way' p' → way' < way → P p' := by
  obtain ⟨found, hsorted, rfl, hfound⟩ := hR
  rw [List.find?_map, Option.map_eq_some_iff] at h
  obtain ⟨⟨way, p⟩, hfirst, rfl⟩ := h
  obtain ⟨hp, before, after, rfl, hbefore⟩ := List.find?_eq_some_iff_append.mp hfirst
  refine ⟨way, (hfound way p).mpr (by simp), by simpa using hp, fun way' p' hp' hlt => ?_⟩
  obtain hmem | hmem := List.mem_append.mp ((hfound way' p').mp hp')
  · simpa using hbefore _ hmem
  · -- What is not before the first one is not less.
    obtain ⟨-, hrest, -⟩ := List.pairwise_append.mp hsorted
    obtain heq | hmem := List.mem_cons.mp hmem
    · exact absurd hlt (by rw [(Prod.mk.inj heq).1]; exact List.lt_irrefl way)
    · exact absurd (List.lt_trans hlt ((List.pairwise_cons.mp hrest).1 _ hmem))
        (List.lt_irrefl way')

theorem find?_eq_none_iff (hR : Lists R ps) {P : String → Prop} [DecidablePred P] :
    ps.find? (¬ P ·) = none ↔ ∀ way p, R way p → P p := by
  obtain ⟨found, -, rfl, hfound⟩ := hR
  simp [hfound]

end Lists

/-! ## The search -/

theorem inEntries_eq (names : Bool) (es : Entries) :
    inEntries names es = es.flatMap fun e => inEntries names [e] := by
  induction es with
  | nil => rfl
  | cons e es ih => rw [inEntries_cons, ih, List.flatMap_cons]

theorem inItems_eq (vs : List Value) : inItems vs = vs.flatMap (inValue false) := by
  induction vs with
  | nil => rfl
  | cons v vs ih =>
    rw [List.flatMap_cons, ← ih]
    rfl

theorem isData_iff {key : String} :
    isData key = true ↔ key ∈ ["default", "example", "enum"] ∨ "x-".toList <+: key.toList := by
  have hkeyword : key ∈ dataKeywords ↔ key ∈ ["default", "example", "enum"] := by
    simp only [dataKeywords, List.mem_cons]
    exact or_left_comm
  have hextension : isExtension key = true ↔ "x-".toList <+: key.toList :=
    List.isPrefixOf_iff_prefix
  rw [isData, Bool.or_eq_true, decide_eq_true_iff, hkeyword, hextension]

/-- One entry of a mapping has a reference. -/
def EntryRefersAt (m : Mode) (e : Value × Value) (way : List Nat) (p : String) : Prop :=
  (m = .keywords ∧ e = (.str "$ref", .str p) ∧ way = []) ∨
    ∃ key m', e.1 = .str key ∧ m.inside key = some m' ∧ RefersAt m' e.2 way p

theorem refersAt_map_iff {m : Mode} {l : Label} {es : Entries} {way : List Nat} {p : String} :
    RefersAt m (.map l es) way p ↔
    ∃ i e rest, es[i]? = some e ∧ way = i :: rest ∧ EntryRefersAt m e rest p := by
  constructor
  · intro h
    cases h with
    | here h => exact ⟨_, _, [], h, rfl, .inl ⟨rfl, rfl, rfl⟩⟩
    | entry h hinside hv => exact ⟨_, _, _, h, rfl, .inr ⟨_, _, rfl, hinside, hv⟩⟩
  · rintro ⟨i, ⟨k, v⟩, rest, h, rfl, ⟨rfl, heq, rfl⟩ | ⟨key, m', hkey, hinside, hv⟩⟩
    · exact .here (heq ▸ h)
    · obtain rfl : k = .str key := hkey
      exact .entry h hinside hv

theorem refersAt_list_iff {m : Mode} {l : Label} {vs : List Value} {way : List Nat} {p : String} :
    RefersAt m (.list l vs) way p ↔
    ∃ i v rest, vs[i]? = some v ∧ way = i :: rest ∧ RefersAt .keywords v rest p := by
  constructor
  · intro h
    cases h with
    | item h hv => exact ⟨_, _, _, h, rfl, hv⟩
  · rintro ⟨i, v, rest, h, rfl, hv⟩
    exact .item h hv

/-- What is under a keyword is data, a mapping from names or a mapping of keywords. -/
theorem Mode.inside_keywords (key : String) :
    Mode.keywords.inside key =
      if isData key then none else if key ∈ nameMaps then some .names else some .keywords := by
  by_cases hdata : isData key = true
  · rw [if_pos hdata]
    exact if_pos (isData_iff.mp hdata)
  · rw [if_neg hdata]
    exact if_neg (mt isData_iff.mpr hdata)

/-- The search goes into what is no data. -/
theorem inEntries_of_inside {m m' : Mode} {key : String} {v : Value}
    (hinside : m.inside key = some m') (hv : ∀ p, ¬ (m = .keywords ∧ key = "$ref" ∧ v = .str p)) :
    inEntries m.isNames [(.str key, v)] = inValue m'.isNames v := by
  cases m with
  | names =>
    obtain rfl : Mode.keywords = m' := Option.some.inj hinside
    exact inEntries_names key v
  | keywords =>
    have hmode : Mode.keywords.isNames = false := rfl
    rw [hmode]
    rw [Mode.inside_keywords] at hinside
    by_cases hdata : isData key = true
    · rw [if_pos hdata] at hinside
      cases hinside
    · rw [if_neg hdata] at hinside
      have hm' : m'.isNames = decide (key ∈ nameMaps) := by
        split at hinside <;> obtain rfl := Option.some.inj hinside <;> simp_all [Mode.isNames]
      -- A `$ref` whose value is no text is gone into like any other value.
      by_cases href : key = "$ref"
      · subst href
        have hnames : m'.isNames = false := hm'.trans (by decide)
        rw [inEntries_str, hnames]
        cases v with
        | str p => exact absurd ⟨rfl, rfl, rfl⟩ (hv p)
        | _ => rfl
      · rw [inEntries_keyword (Bool.eq_false_iff.mpr hdata) href, hm']

theorem inEntries_of_outside {m : Mode} {key : String} (hinside : m.inside key = none) (v : Value) :
    inEntries m.isNames [(.str key, v)] = [] := by
  cases m with
  | names => cases hinside
  | keywords =>
    refine inEntries_data (Classical.byContradiction fun hdata => ?_) v
    rw [Mode.inside_keywords, if_neg hdata] at hinside
    split at hinside <;> cases hinside

/-- The search lists the references of an entry, if it does so with its value. -/
theorem lists_inEntry {m : Mode} {key : String} {v : Value}
    (hv : ∀ m : Mode, Lists (RefersAt m v) (inValue m.isNames v)) :
    Lists (EntryRefersAt m (.str key, v)) (inEntries m.isNames [(.str key, v)]) := by
  by_cases href : ∃ p, m = .keywords ∧ key = "$ref" ∧ v = .str p
  · -- A text under this key is a reference itself, and there is nothing in it.
    obtain ⟨p, rfl, rfl, rfl⟩ := href
    refine (Lists.singleton [] p).congr fun way q => ⟨?_, ?_⟩
    · rintro (⟨-, heq, rfl⟩ | ⟨key', m', -, -, h⟩)
      · exact ⟨rfl, (Value.str.inj (Prod.mk.inj heq).2).symm⟩
      · cases h
    · rintro ⟨rfl, rfl⟩
      exact .inl ⟨rfl, rfl, rfl⟩
  · have hentry (way : List Nat) (p : String) : EntryRefersAt m (.str key, v) way p ↔
        ∃ m', m.inside key = some m' ∧ RefersAt m' v way p := by
      constructor
      · rintro (⟨hm, heq, -⟩ | ⟨key', m', heq, hinside, h⟩)
        · obtain ⟨hkey, rfl⟩ := Prod.mk.inj heq
          exact absurd ⟨p, hm, Value.str.inj hkey, rfl⟩ href
        · obtain rfl := Value.str.inj heq
          exact ⟨m', hinside, h⟩
      · rintro ⟨m', hinside, h⟩
        exact .inr ⟨key, m', rfl, hinside, h⟩
    cases hinside : m.inside key with
    | none =>
      rw [inEntries_of_outside hinside]
      exact .nil fun way p => by simp [hentry, hinside]
    | some m' =>
      rw [inEntries_of_inside hinside (not_exists.mp href)]
      exact (hv m').congr fun way p => by simp [hentry, hinside]

/-- **The search** lists the references of a tree. -/
theorem lists_inValue {path : List Label} {v : Value} (h : v.IsTree path) (m : Mode) :
    Lists (RefersAt m v) (inValue m.isNames v) := by
  induction h generalizing m with
  | null | bool | number | str => exact .nil (by rintro way p ⟨⟩)
  | @list path l items hnew hitems ih =>
    have hitem : ∀ v ∈ items, Lists (RefersAt .keywords v) (inValue false v) :=
      fun v hv => ih v hv .keywords
    have hlists := Lists.flatMap hitem 0
    rw [← inItems_eq] at hlists
    refine hlists.congr fun way p => ?_
    simp only [refersAt_list_iff, Nat.zero_add]
  | @map path l entries hnew hkeys hvalues ih =>
    have hentry : ∀ e ∈ entries, Lists (EntryRefersAt m e) (inEntries m.isNames [e]) := by
      rintro ⟨k, v⟩ he
      obtain ⟨key, rfl⟩ : ∃ key, k = .str key := hkeys _ he
      exact lists_inEntry (ih _ he)
    have hlists := Lists.flatMap hentry 0
    rw [← inEntries_eq] at hlists
    refine hlists.congr fun way p => ?_
    simp only [refersAt_map_iff, Nat.zero_add]

/-! ## The references of a document -/

/-- A section of a document is a mapping, if it is there. -/
def IsSection (entries : Entries) (name : String) : Prop :=
  ∀ v, entries.get? name = some v → ∃ l es, v = .map l es

variable {l : Label} {entries : Entries} {pointers : List String}

/-- The search lists the references of a section. -/
theorem lists_section (hdocument : (Value.map l entries).IsTree []) (name : String) :
    Lists (fun way p => ∃ v, entries.get? name = some v ∧ RefersAt .names v way p)
      (inValue true (sectionOf entries name)) := by
  unfold sectionOf
  cases hv : entries.get? name with
  | none => exact .nil (by simp)
  | some v =>
    have htree : v.IsTree [l] := by
      cases hdocument with
      | map _ hkeys hvalues =>
        exact Entries.AreTrees.of_get? (fun e he => ⟨hkeys e he, hvalues e he⟩) hv
    exact (lists_inValue htree .names).congr fun way p => by simp

/-- **The pointers to check** are those of the paths, those of the definitions and the further
ones. -/
theorem lists_pointers (hdocument : (Value.map l entries).IsTree []) :
    Lists (PointsAt entries pointers) (inDocument entries ++ pointers) := by
  have hpointer : ∀ p ∈ pointers, Lists (fun way q => way = [] ∧ q = p) [p] :=
    fun p _ => .singleton [] p
  have hpointers := (Lists.flatMap hpointer 0).step 2
  rw [List.flatMap_singleton'] at hpointers
  -- The first step of a way tells the two sections and the recorded pointers apart.
  have hsections := ((lists_section hdocument "paths").step 0).append
    ((lists_section hdocument "definitions").step 1)
    (by
      rintro _ p _ q ⟨rest, rfl, -⟩ ⟨rest', rfl, -⟩
      exact List.cons_lt_cons_iff.mpr (.inl (by decide)))
  refine (hsections.append hpointers ?_).congr fun way p => ?_
  · rintro _ p _ q (⟨rest, rfl, -⟩ | ⟨rest, rfl, -⟩) ⟨rest', rfl, -⟩
    · exact List.cons_lt_cons_iff.mpr (.inl (by decide))
    · exact List.cons_lt_cons_iff.mpr (.inl (by decide))
  · constructor
    · intro h
      cases h with
      | path h hv => exact .inl (.inl ⟨_, rfl, _, h, hv⟩)
      | definition h hv => exact .inl (.inr ⟨_, rfl, _, h, hv⟩)
      | given h => exact .inr ⟨_, rfl, _, _, [], h, by rw [Nat.zero_add], rfl, rfl⟩
    · rintro ((⟨rest, rfl, v, h, hv⟩ | ⟨rest, rfl, v, h, hv⟩) | ⟨_, rfl, i, p, rest, h, rfl, rfl,
        rfl⟩)
      · exact .path h hv
      · exact .definition h hv
      · rw [Nat.zero_add]
        exact .given h

/-! ## The check -/

theorem hasMember_definitions (hdefinitions : IsSection entries "definitions") (name : String)
    [Decidable (Defines entries name)] :
    hasMember (sectionOf entries "definitions") name = .ok (decide (Defines entries name)) := by
  have hmember {l : Label} {ds : Entries} (hds : sectionOf entries "definitions" = .map l ds)
      (hiff : Defines entries name ↔ .str name ∈ ds.map (·.1)) :
      hasMember (sectionOf entries "definitions") name = .ok (decide (Defines entries name)) := by
    rw [hds, hasMember, Except.ok.injEq, Bool.eq_iff_iff, Entries.has_iff, decide_eq_true_iff, hiff]
  cases hv : entries.get? "definitions" with
  | none =>
    have hempty : sectionOf entries "definitions" = .map .none [] := by
      rw [sectionOf, hv, Option.getD_none]
    exact hmember hempty (by simp [Defines, hv])
  | some v =>
    obtain ⟨l, ds, rfl⟩ := hdefinitions v hv
    refine hmember (by rw [sectionOf, hv, Option.getD_some]) ⟨?_, fun hmem => ⟨l, ds, hv, hmem⟩⟩
    rintro ⟨l', ds', heq, hmem⟩
    rw [hv] at heq
    cases heq
    exact hmem

/-- The check of one pointer: a dangling one is reported with what it names. -/
theorem checkPointer_section (hdefinitions : IsSection entries "definitions") (p : String)
    [Decidable (¬ IsDangling entries p)] :
    checkPointer (sectionOf entries "definitions") p =
      if ¬ IsDangling entries p then .ok () else .error (.dangling (named p) p) := by
  classical
  by_cases hlocal : IsLocal p
  · have hleads : ¬ IsDangling entries p ↔
        ∃ name, target p.toList = .ok name ∧ Defines entries name := by
      rw [IsDangling, not_and_not_right, imp_iff_right hlocal]
      exact exists_target_iff
    exact checkPointer_of_hasMember (fun name => hasMember_definitions hdefinitions name) hleads
      hlocal
  · rw [if_pos fun h : IsDangling entries p => hlocal h.1]
    exact if_pos hlocal

/-- **The check of references.** A document passes exactly when none of the references in it and
none of the further pointers is dangling. Otherwise the first dangling one is reported, with what it
names. -/
theorem check_tree (hdocument : (Value.map l entries).IsTree [])
    (hdefinitions : IsSection entries "definitions") (pointers : List String) :
    (check (.map l entries) pointers = .ok () ↔
      ∀ way p, PointsAt entries pointers way p → ¬ IsDangling entries p) ∧
    ∀ e, check (.map l entries) pointers = .error e →
      ∃ way p, PointsAt entries pointers way p ∧ IsDangling entries p ∧
        (∀ way' p', PointsAt entries pointers way' p' → way' < way → ¬ IsDangling entries p') ∧
        e = .dangling (named p) p := by
  classical
  have hlists : Lists (PointsAt entries pointers) (inDocument entries ++ pointers) :=
    lists_pointers hdocument
  have hok := hlists.find?_eq_none_iff (P := fun p => ¬ IsDangling entries p)
  rw [check, forM_eq_find? (P := fun p => ¬ IsDangling entries p) fun p _ =>
    checkPointer_section hdefinitions p]
  cases hfirst : (inDocument entries ++ pointers).find? fun p => ¬ ¬ IsDangling entries p with
  | none => exact ⟨iff_of_true rfl (hok.mp hfirst), by rintro e ⟨⟩⟩
  | some p =>
    refine ⟨iff_of_false (by rintro ⟨⟩) fun hall => ?_, ?_⟩
    · rw [hok.mpr hall] at hfirst
      cases hfirst
    · rintro e ⟨⟩
      obtain ⟨way, hp, hdangling, hbefore⟩ := hlists.first_of_find? hfirst
      exact ⟨way, p, hp, not_not.mp hdangling, hbefore, rfl⟩

/-! A document with references under names that are also keywords, and with one among data. -/

namespace Sample

def ref (name : String) : Value := .map .none [(.str "$ref", .str ("#/definitions/" ++ name))]

/-- The definitions: `A` has a property with the name `$ref`, which refers to a missing
definition. -/
def definitions : Entries :=
  [(.str "A", .map .none
    [(.str "properties", .map .none [(.str "$ref", ref "C")]), (.str "default", ref "B")])]

/-- A response with the name `default` refers to the definition `A`. -/
def sections : Entries :=
  [(.str "paths", .map .none [(.str "/a", .map .none [(.str "get", .map .none [(.str "responses",
      .map .none [(.str "default", .map .none [(.str "schema", ref "A")])])])])]),
    (.str "definitions", .map .none definitions)]

theorem isTree_single {key : String} {v : Value} (h : v.IsTree []) :
    (Value.map .none [(.str key, v)]).IsTree [] :=
  .map (fun _ => rfl) (by simp) (by simpa using h.cons_none)

theorem isTree_pair {key key' : String} {v v' : Value} (h : v.IsTree []) (h' : v'.IsTree []) :
    (Value.map .none [(.str key, v), (.str key', v')]).IsTree [] :=
  .map (fun _ => rfl) (by simp) (by simpa using ⟨h.cons_none, h'.cons_none⟩)

theorem isTree_ref (name : String) : (ref name).IsTree [] := isTree_single (.str _)

theorem isTree : (Value.map .none sections).IsTree [] :=
  isTree_pair (isTree_single
    (isTree_single (isTree_single (isTree_single (isTree_single (isTree_ref _))))))
    (isTree_single (isTree_pair (isTree_single (isTree_ref _)) (isTree_ref _)))

end Sample

theorem check_tree_sample :
    (Value.map .none Sample.sections).IsTree [] ∧ IsSection Sample.sections "definitions" ∧
      check (.map .none Sample.sections) [] = .error (.dangling "C" "#/definitions/C") ∧
      ∃ way p, PointsAt Sample.sections [] way p ∧ IsDangling Sample.sections p ∧
        (∀ way' p', PointsAt Sample.sections [] way' p' → way' < way →
          ¬ IsDangling Sample.sections p') ∧
        Error.dangling "C" "#/definitions/C" = .dangling (named p) p := by
  have hdefinitions : IsSection Sample.sections "definitions" := by
    rintro v ⟨⟩
    exact ⟨_, _, rfl⟩
  have hcheck : check (.map .none Sample.sections) [] = .error (.dangling "C" "#/definitions/C") :=
    rfl
  exact ⟨Sample.isTree, hdefinitions, hcheck, (check_tree Sample.isTree hdefinitions []).2 _ hcheck⟩

end ApiDoc.References
