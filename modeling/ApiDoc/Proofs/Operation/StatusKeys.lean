import ApiDoc.Proofs.Operation.Outputs
import ApiDoc.Proofs.Operation.Way

/-!
# Keys of responses

A documented key lists at least one status, and each status is `default` or a number of three ASCII
digits from 100 to 599 (`Status.IsKey`). Keys are let through under a wider rule (`Status.Passes`):
a key that lists nothing passes and gives no response, and so does a number with digits of another
script. Apart from these two the rules agree (`Status.isKey_iff`).

When the schemas of a route are all well formed, the work on its operation fails exactly when a
declared or a default key does not pass. Otherwise the responses stand under the statuses that the
keys list, and only a key that lists nothing has no response. As long as the keys are documented
ones, so are the statuses, and no two of them have the same number.

Main statement: `Work.statuses_of_operation`.
-/

namespace ApiDoc

namespace Status

variable {digit : Char → Bool} {s t : List Char} {key : String} {n : Nat}

/-! ## Documented keys -/

/-- A status, with digits of some kind: `default`, or three digits of which the first is from 1 to
5. -/
def IsStatus (digit : Char → Bool) (s : List Char) : Prop :=
  s = "default".toList ∨
    ∃ a b c : Char, s = [a, b, c] ∧ '1' ≤ a ∧ a ≤ '5' ∧ digit b = true ∧ digit c = true

/-- A key is let through: all that it lists are statuses, with decimal digits of any script. -/
def Passes (key : String) : Prop := ∀ s ∈ list key.toList, IsStatus Text.isDecimal s

/-- A key as it is documented: it lists something, and only statuses with ASCII digits. -/
def IsKey (key : String) : Prop :=
  list key.toList ≠ [] ∧ ∀ s ∈ list key.toList, IsStatus Char.isDigit s

theorem isStatus_iff : isStatus s = true ↔ IsStatus Text.isDecimal s := by
  rw [isStatus, Bool.or_eq_true, decide_eq_true_eq]
  refine or_congr_right ?_
  unfold isNumber
  split
  · simp [and_assoc]
  · rename_i hno
    refine iff_of_false (by simp) ?_
    rintro ⟨a, b, c, heq, -⟩
    exact hno a b c heq

theorem toNat_of_isDigit {c : Char} (h : c.isDigit) : 0x30 ≤ c.toNat ∧ c.toNat ≤ 0x39 := by
  simpa [Char.isDigit, UInt32.le_iff_toNat_le] using h

theorem isDigit_of_le {c : Char} (h : '1' ≤ c) (h' : c ≤ '5') : c.isDigit := by
  have hlow : 0x31 ≤ c.toNat := UInt32.le_iff_toNat_le.mp h
  have hhigh : c.toNat ≤ 0x35 := UInt32.le_iff_toNat_le.mp h'
  simp only [Char.isDigit, Bool.and_eq_true, decide_eq_true_eq, UInt32.le_iff_toNat_le]
  change 0x30 ≤ c.toNat ∧ c.toNat ≤ 0x39
  omega

theorem isDigit_iff {c : Char} : c.isDigit = true ↔ Text.isDecimal c = true ∧ c.toNat < 0x80 := by
  unfold Text.isDecimal Text.digitValue?
  constructor
  · intro h
    have hbounds := toNat_of_isDigit h
    rw [if_pos (by omega), if_pos h]
    exact ⟨rfl, by omega⟩
  · rintro ⟨hdecimal, hascii⟩
    rw [if_pos hascii] at hdecimal
    cases hdigit : c.isDigit with
    | true => rfl
    | false => simp [hdigit] at hdecimal

/-- Documented statuses are the ones in ASCII. -/
theorem isStatus_isDigit_iff :
    IsStatus Char.isDigit s ↔ IsStatus Text.isDecimal s ∧ ∀ c ∈ s, c.toNat < 0x80 := by
  constructor
  · rintro (rfl | ⟨a, b, c, rfl, ha, ha', hb, hc⟩)
    · have hdefault : "default".toList.all (·.toNat < 0x80) = true := rfl
      exact ⟨.inl rfl, fun c hc => of_decide_eq_true (List.all_eq_true.mp hdefault c hc)⟩
    · have hlow := (isDigit_iff.mp (isDigit_of_le ha ha')).2
      obtain ⟨hb, hb'⟩ := isDigit_iff.mp hb
      obtain ⟨hc, hc'⟩ := isDigit_iff.mp hc
      exact ⟨.inr ⟨a, b, c, rfl, ha, ha', hb, hc⟩, by simp [hlow, hb', hc']⟩
  · rintro ⟨rfl | ⟨a, b, c, rfl, ha, ha', hb, hc⟩, hascii⟩
    · exact .inl rfl
    · refine .inr ⟨a, b, c, rfl, ha, ha', ?_, ?_⟩
      · exact isDigit_iff.mpr ⟨hb, hascii b (by simp)⟩
      · exact isDigit_iff.mpr ⟨hc, hascii c (by simp)⟩

/-- **Two rules for keys.** A key that passes is a documented one unless it lists nothing or has a
digit of another script. -/
theorem isKey_iff :
    IsKey key ↔ Passes key ∧ list key.toList ≠ [] ∧
      ∀ s ∈ list key.toList, ∀ c ∈ s, c.toNat < 0x80 := by
  unfold IsKey Passes
  simp only [isStatus_isDigit_iff]
  constructor
  · exact fun ⟨hne, h⟩ => ⟨fun s hs => (h s hs).1, hne, fun s hs => (h s hs).2⟩
  · exact fun ⟨hpass, hne, hascii⟩ => ⟨hne, fun s hs => ⟨hpass s hs, hascii s hs⟩⟩

instance (key : String) : Decidable (Passes key) :=
  decidable_of_iff (∀ s ∈ list key.toList, isStatus s = true)
    (forall₂_congr fun _ _ => isStatus_iff)

-- Characters are compared in lists, and not by going through all characters there are.
instance (key : String) : Decidable (IsKey key) :=
  decidable_of_iff (Passes key ∧ list key.toList ≠ [] ∧
      (list key.toList).all (fun s => s.all (·.toNat < 0x80)) = true)
    (by rw [isKey_iff]; simp [List.all_eq_true])

/-! ## Numbers of statuses -/

theorem number?_digits {a b c : Char} (ha : a.isDigit) (hb : b.isDigit) (hc : c.isDigit) :
    number? [a, b, c] =
      some (((a.toNat - 0x30) * 10 + (b.toNat - 0x30)) * 10 + (c.toNat - 0x30)) := by
  have hvalue {c : Char} (h : c.isDigit) : Text.digitValue? c = some (c.toNat - 0x30) := by
    rw [Text.digitValue?, if_pos (isDigit_iff.mp h).2, if_pos h]
  simp [number?, hvalue ha, hvalue hb, hvalue hc]

/-- The number of a documented status determines it. -/
theorem IsStatus.eq_of_number (hs : IsStatus Char.isDigit s) (ht : IsStatus Char.isDigit t)
    (hn : number? s = some n) (hn' : number? t = some n) : s = t := by
  have hdefault : number? "default".toList = none := by decide
  obtain rfl | ⟨a, b, c, rfl, ha, ha', hb, hc⟩ := hs
  · rw [hdefault] at hn
    cases hn
  obtain rfl | ⟨d, e, f, rfl, hd, hd', he, hf⟩ := ht
  · rw [hdefault] at hn'
    cases hn'
  have ha := isDigit_of_le ha ha'
  have hd := isDigit_of_le hd hd'
  rw [number?_digits ha hb hc] at hn
  rw [number?_digits hd he hf] at hn'
  -- Three digits are determined by the number they write.
  have hvalue := Option.some.inj (hn.trans hn'.symm)
  have := toNat_of_isDigit ha
  have := toNat_of_isDigit hb
  have := toNat_of_isDigit hc
  have := toNat_of_isDigit hd
  have := toNat_of_isDigit he
  have := toNat_of_isDigit hf
  obtain rfl : a = d := Char.toNat_inj.mp (by omega)
  obtain rfl : b = e := Char.toNat_inj.mp (by omega)
  obtain rfl : c = f := Char.toNat_inj.mp (by omega)
  rfl

theorem mem_listed {status : String} : status ∈ listed key ↔ status.toList ∈ list key.toList := by
  unfold listed
  rw [List.mem_map]
  constructor
  · rintro ⟨s, hs, rfl⟩
    rwa [String.toList_ofList]
  · exact fun h => ⟨_, h, String.ofList_toList⟩

end Status

/-! ## Stops of an operation -/

namespace Stop

/-- The error at a key is that it does not pass. -/
theorem error?_key (key : String) :
    (Status.Passes key ∧ (Stop.key key).error? = none) ∨
      ¬ Status.Passes key ∧ ∃ piece, (Stop.key key).error? = some (.badStatus piece) := by
  unfold error? Status.expand Status.Passes
  simp only [← Status.isStatus_iff]
  cases hfind : (Status.list key.toList).find? fun s => !Status.isStatus s with
  | none =>
    rw [List.find?_eq_none] at hfind
    exact .inl ⟨fun s hs => by simpa using hfind s hs, rfl⟩
  | some piece =>
    refine .inr ⟨fun h => ?_, _, rfl⟩
    have hbad := List.find?_some hfind
    rw [h piece (List.mem_of_find?_eq_some hfind)] at hbad
    cases hbad

end Stop

namespace Route

variable {defaults : List (String × Output)} {r : Route} {stop : Stop} {e : String × Output}

theorem isVisit_of_mem_parameterWay (h : stop ∈ r.parameterWay) : ∃ v, stop = .visit v := by
  have hdeclared (l : Location) (h : stop ∈ r.declaredWay l) : ∃ v, stop = .visit v := by
    obtain ⟨_, -, hstop⟩ := List.mem_flatMap.mp h
    obtain ⟨v, -, rfl⟩ := List.mem_map.mp hstop
    exact ⟨v, rfl⟩
  simp only [parameterWay, List.mem_append] at h
  obtain h | h | h | h := h
  · exact hdeclared .path h
  · exact hdeclared .query h
  · exact hdeclared .header h
  · obtain ⟨v, -, rfl⟩ := List.mem_map.mp h
    exact ⟨v, rfl⟩

theorem isVisit_of_mem_outputWay {o : Output} (h : stop ∈ o.way) : ∃ v, stop = .visit v := by
  obtain h | h := List.mem_append.mp h
  · obtain ⟨v, -, rfl⟩ := List.mem_map.mp h
    exact ⟨v, rfl⟩
  · obtain ⟨_, -, hstop⟩ := List.mem_flatMap.mp h
    obtain ⟨v, -, rfl⟩ := List.mem_map.mp hstop
    exact ⟨v, rfl⟩

/-- The stops at defaults are their keys and visits. -/
theorem mem_defaultWay {seen : List String} (h : stop ∈ Output.defaultWay seen defaults) :
    (∃ v, stop = .visit v) ∨ ∃ e ∈ defaults, stop = .key e.1 := by
  induction defaults generalizing seen with
  | nil => cases h
  | cons e defaults ih =>
    unfold Output.defaultWay at h
    rw [List.cons_append, List.mem_cons, List.mem_append] at h
    obtain rfl | h | h := h
    · exact .inr ⟨e, List.mem_cons_self, rfl⟩
    · obtain ⟨-, -, hstop⟩ := List.mem_flatMap.mp h
      exact .inl (isVisit_of_mem_outputWay hstop)
    · refine (ih h).imp id ?_
      rintro ⟨e, he, rfl⟩
      exact ⟨e, List.mem_cons_of_mem _ he, rfl⟩

theorem key_mem_defaultWay {seen : List String} (h : e ∈ defaults) :
    .key e.1 ∈ Output.defaultWay seen defaults := by
  induction defaults generalizing seen with
  | nil => cases h
  | cons d defaults ih =>
    unfold Output.defaultWay
    rw [List.cons_append, List.mem_cons, List.mem_append]
    obtain rfl | h := List.mem_cons.mp h
    · exact .inl rfl
    · exact .inr (.inr (ih h))

/-- The stops of an operation are at schemas, and at the declared and the default keys. -/
theorem mem_way (h : stop ∈ r.way defaults) :
    (∃ v, stop = .visit v) ∨ ∃ e ∈ r.outputs ++ defaults, stop = .key e.1 := by
  simp only [way, responseWay, List.mem_append] at h
  obtain h | h | h := h
  · exact .inl (isVisit_of_mem_parameterWay h)
  · obtain ⟨e, he, hstop⟩ := List.mem_flatMap.mp h
    unfold Output.declaredWay at hstop
    obtain rfl | hstop := List.mem_cons.mp hstop
    · exact .inr ⟨e, List.mem_append_left _ he, rfl⟩
    · obtain ⟨-, -, hstop⟩ := List.mem_flatMap.mp hstop
      exact .inl (isVisit_of_mem_outputWay hstop)
  · refine (mem_defaultWay h).imp id ?_
    rintro ⟨e, he, rfl⟩
    exact ⟨e, List.mem_append_right _ he, rfl⟩

theorem key_mem_way (h : e ∈ r.outputs ++ defaults) : .key e.1 ∈ r.way defaults := by
  simp only [way, responseWay, List.mem_append]
  obtain h | h := List.mem_append.mp h
  · exact .inr (.inl (List.mem_flatMap.mpr ⟨e, h, List.mem_cons_self⟩))
  · exact .inr (.inr (key_mem_defaultWay h))

/-- With well-formed schemas, the way of a route is free of errors when its keys pass, and has the
error of a key otherwise. -/
theorem firstError?_way (hr : ∀ n, .visit (.node n) ∈ r.way defaults → n.WellFormed) :
    ((∀ e ∈ r.outputs ++ defaults, Status.Passes e.1) ∧
        Stop.firstError? (r.way defaults) = none) ∨
      (∃ e ∈ r.outputs ++ defaults, ¬ Status.Passes e.1) ∧
        ∃ piece, Stop.firstError? (r.way defaults) = some (.badStatus piece) := by
  cases hfirst : Stop.firstError? (r.way defaults) with
  | none =>
    refine .inl ⟨fun e he => ?_, rfl⟩
    have hstop := Stop.firstError?_eq_none_iff.mp hfirst _ (key_mem_way he)
    obtain ⟨hpass, -⟩ | ⟨-, piece, hpiece⟩ := Stop.error?_key e.1
    · exact hpass
    · rw [hpiece] at hstop
      cases hstop
  | some err =>
    obtain ⟨stop, hmem, herror⟩ := List.exists_of_findSome?_eq_some hfirst
    obtain ⟨v, rfl⟩ | ⟨e, he, rfl⟩ := mem_way hmem
    · cases v with
      | tag ref => cases herror
      | node n =>
        rw [Stop.error?, Visit.fault?, Node.wellFormed_iff.mp (hr n hmem)] at herror
        cases herror
    · obtain ⟨-, hnone⟩ | ⟨hnot, piece, hpiece⟩ := Stop.error?_key e.1
      · rw [hnone] at herror
        cases herror
      · rw [hpiece] at herror
        obtain rfl := Option.some.inj herror
        exact .inr ⟨⟨e, he, hnot⟩, piece, rfl⟩

end Route

namespace Work

/-- What the keys of a route say about the responses of its operation. -/
structure Responds (defaults : List (String × Output)) (r : Route) (o : Operation) : Prop where
  /-- The responses stand under the statuses that the keys list, each at its first occurrence. -/
  statuses : o.responses.map (·.1) = ((r.outputs ++ defaults).flatMap (Status.listed ·.1)).eraseDups
  /-- The last declaration for a status gives the response. -/
  answers : ∀ status e, IsLast (Output.IsFor status) r.outputs e → Answers o.responses status e.2
  /-- Exactly the keys that list nothing have no response. -/
  kept : ∀ e ∈ r.outputs ++ defaults,
    (∃ status ∈ o.responses.map (·.1), status ∈ Status.listed e.1) ↔ Status.list e.1.toList ≠ []
  /-- Under documented keys there are documented statuses only. -/
  documented : (∀ e ∈ r.outputs ++ defaults, Status.IsKey e.1) →
    ∀ status ∈ o.responses.map (·.1), Status.IsStatus Char.isDigit status.toList
  /-- Under documented keys two different statuses have different numbers. -/
  distinct : (∀ e ∈ r.outputs ++ defaults, Status.IsKey e.1) →
    ∀ status ∈ o.responses.map (·.1), ∀ other ∈ o.responses.map (·.1), ∀ n,
      Status.number? status.toList = some n → Status.number? other.toList = some n → status = other

variable {defaults : List (String × Output)} {r : Route} {o : Operation} {s s' : Session}

theorem responds_of_run (h : Run (operation defaults r) s o s') : Responds defaults r o := by
  have hstatuses : o.responses.map (·.1) =
      ((r.outputs ++ defaults).flatMap (Status.listed ·.1)).eraseDups := by
    obtain ⟨ps, t, rs, t', -, hrs, -, rfl⟩ := run_operation h
    exact names_responses hrs
  have hmem (status : String) : status ∈ o.responses.map (·.1) ↔
      ∃ e ∈ r.outputs ++ defaults, status ∈ Status.listed e.1 := by
    rw [hstatuses, List.mem_eraseDups, List.mem_flatMap]
  have hdocumented (hkeys : ∀ e ∈ r.outputs ++ defaults, Status.IsKey e.1) :
      ∀ status ∈ o.responses.map (·.1), Status.IsStatus Char.isDigit status.toList := by
    intro status hstatus
    obtain ⟨e, he, hlisted⟩ := (hmem status).mp hstatus
    exact (hkeys e he).2 _ (Status.mem_listed.mp hlisted)
  refine ⟨hstatuses, fun status e he => answers_operation h he, fun e he => ?_, hdocumented, ?_⟩
  · constructor
    · rintro ⟨status, -, hlisted⟩ hnil
      rw [Status.listed, hnil] at hlisted
      cases hlisted
    · intro hne
      obtain ⟨piece, hpiece⟩ := List.exists_mem_of_ne_nil _ hne
      have hlisted : String.ofList piece ∈ Status.listed e.1 := List.mem_map_of_mem hpiece
      exact ⟨_, (hmem _).mpr ⟨e, he, hlisted⟩, hlisted⟩
  · intro hkeys status hstatus other hother n hn hn'
    have hsame :=
      (hdocumented hkeys status hstatus).eq_of_number (hdocumented hkeys other hother) hn hn'
    exact String.toList_inj.mp hsame

/-- **Keys of an operation.** With well-formed schemas, the work fails with a status exactly when a
declared or a default key does not pass, and ends well otherwise. The documented keys are those
among the ones that pass which list something and are in ASCII. The responses of an operation that
is made are those that the keys ask for. -/
theorem statuses_of_operation (hr : ∀ n, .visit (.node n) ∈ r.way defaults → n.WellFormed)
    (s : Session) :
    (∀ e ∈ r.outputs ++ defaults, Status.IsKey e.1 ↔ Status.Passes e.1 ∧
        Status.list e.1.toList ≠ [] ∧ ∀ s ∈ Status.list e.1.toList, ∀ c ∈ s, c.toNat < 0x80) ∧
      ((∃ piece, (exec (operation defaults r) s).1 = .error (.badStatus piece)) ↔
        ∃ e ∈ r.outputs ++ defaults, ¬ Status.Passes e.1) ∧
      ((∃ o s', Run (operation defaults r) s o s') ↔
        ∀ e ∈ r.outputs ++ defaults, Status.Passes e.1) ∧
      ∀ o s', Run (operation defaults r) s o s' → Responds defaults r o := by
  have hfollows := follows_operation defaults r
  have hfailed {piece : String}
      (h : (exec (operation defaults r) s).1 = .error (.badStatus piece)) :
      ¬ ∃ o s', Run (operation defaults r) s o s' := by
    rintro ⟨o, s', hrun⟩
    rw [hrun] at h
    cases h
  -- As all nodes are well formed, a failure can only come from a key.
  refine ⟨fun e _ => Status.isKey_iff, ?_, ?_, fun o s' hrun => responds_of_run hrun⟩
  · obtain ⟨hpass, hnone⟩ | ⟨hbad, piece, hpiece⟩ := Route.firstError?_way hr
    · obtain ⟨o, s', hrun, -⟩ := hfollows.succeeds hnone s
      refine iff_of_false (fun ⟨_, h⟩ => hfailed h ⟨o, s', hrun⟩) ?_
      exact fun ⟨e, he, hnot⟩ => hnot (hpass e he)
    · obtain ⟨t, ht⟩ := hfollows.fails _ hpiece s
      exact iff_of_true ⟨piece, by rw [ht]⟩ hbad
  · obtain ⟨hpass, hnone⟩ | ⟨⟨e, he, hnot⟩, piece, hpiece⟩ := Route.firstError?_way hr
    · obtain ⟨o, s', hrun, -⟩ := hfollows.succeeds hnone s
      exact iff_of_true ⟨o, s', hrun⟩ hpass
    · obtain ⟨t, ht⟩ := hfollows.fails _ hpiece s
      exact iff_of_false (hfailed (by rw [ht])) fun h => hnot (h e he)

namespace Sample

def text : Node := { kind := "string" }

/-- A route that declares a response with a text under each of some keys. -/
def keyed (keys : List String) : Route where
  method := .get
  path := "/a"
  outputs := keys.map fun key => (key, { body := some text })

theorem mem_way_keyed {keys : List String} {stop : Stop} (h : stop ∈ (keyed keys).way []) :
    (∃ key, stop = .key key) ∨ stop = .visit (.node text) := by
  have hvisits : Node.visits true text = [.node text] := by
    simp [Node.visits_eq, Node.usedParts, Node.tag?, Kind.ofName?, Kind.all, Kind.name, text]
  have hway : Output.way { body := some text } = [.visit (.node text)] := by
    simp [Output.way, Registry.Use.way, hvisits]
  simp only [Route.way, Route.parameterWay, Route.declaredWay, Route.declared, Route.bodyWay,
    Route.responseWay, keyed, Output.defaultWay, List.append_nil, List.flatMap_map] at h
  obtain ⟨key, -, hstop⟩ := List.mem_flatMap.mp h
  obtain rfl | hstop := List.mem_cons.mp hstop
  · exact .inl ⟨_, rfl⟩
  · obtain ⟨_, -, hstop⟩ := List.mem_flatMap.mp hstop
    rw [hway] at hstop
    exact .inr (List.mem_singleton.mp hstop)

theorem wellFormed_keyed (keys : List String) (n : Node)
    (h : .visit (.node n) ∈ (keyed keys).way []) : n.WellFormed := by
  obtain ⟨key, hkey⟩ | heq := mem_way_keyed h
  · cases hkey
  · obtain rfl := Visit.node.inj (Stop.visit.inj heq)
    exact Node.wellFormed_iff.mpr rfl

end Sample

theorem statuses_of_operation_sample :
    (∀ n, .visit (.node n) ∈ (Sample.keyed ["200, 404", "default"]).way [] → n.WellFormed) ∧
      ∃ o s', Run (operation [] (Sample.keyed ["200, 404", "default"])) {} o s' ∧
        o.responses.map (·.1) = ["200", "404", "default"] := by
  have hr := Sample.wellFormed_keyed ["200, 404", "default"]
  obtain ⟨-, -, hends, hresponses⟩ := statuses_of_operation hr {}
  obtain ⟨o, s', hrun⟩ := hends.mpr (by decide +kernel)
  refine ⟨hr, o, s', hrun, ?_⟩
  rw [(hresponses o s' hrun).statuses]
  decide +kernel

/-- Keys that are not documented can give two responses for one number, and none for a
declaration. -/
theorem not_isKey_of_operation :
    (∀ keys n, .visit (.node n) ∈ (Sample.keyed keys).way [] → n.WellFormed) ∧
      ¬ Status.IsKey "2٠٠" ∧ ¬ Status.IsKey " , " ∧
      (∃ o s', Run (operation [] (Sample.keyed ["2٠٠", "200"])) {} o s' ∧
        o.responses.map (·.1) = ["2٠٠", "200"] ∧
        Status.number? "2٠٠".toList = Status.number? "200".toList) ∧
      ∃ o s', Run (operation [] (Sample.keyed [" , "])) {} o s' ∧ o.responses = [] :=
  ⟨Sample.wellFormed_keyed,
    by decide +kernel, by decide +kernel, ⟨_, _, rfl, rfl, by decide +kernel⟩, _, _, rfl, rfl⟩

end Work

end ApiDoc
