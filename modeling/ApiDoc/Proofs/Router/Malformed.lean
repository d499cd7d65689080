import ApiDoc.Proofs.Validation.Faultless
import ApiDoc.RouteFile

/-!
# Malformed routers and route files

Most of what can be wrong with a router is an issue, and a router with issues is a configuration
error. The methods of a record are the exception: before they are validated they are gone through
and put into lower case, whatever they are. What cannot be gone through, or has items that are no
texts, is a fault (`Method.faultless_readAll_iff`), and a fault escapes. No other part of a router
has faults, so a router escapes exactly when one of its records has such methods
(`Router.faultless_read_iff`).

A route file is read as YAML first, where a scalar without a value escapes. Its routers are gone
through like methods, and the first one that cannot be read counts.

How deep a route file may be nested is not limited here: the failure of a program whose stack is too
small for it is not modelled, and "exactly when" is said apart from it.

Main statement: `escaping_iff`.
-/

namespace ApiDoc

open Checked

/-! ## What is malformed -/

namespace Value

/-- Whether a value is a text of characters. -/
def isText : Value → Bool
  | str _ => true
  | brokenText codes => codes.all Nat.isValidChar
  | _ => false

/-- Whether a value holds texts as methods are asked for: it is one text, or texts are all that
going through it gives. -/
def holdsTexts (v : Value) : Bool :=
  match v.codes?, v.iterate? with
  | some _, _ => v.isText
  | none, .ok items => items.all isText
  | none, .error _ => false

/-- The records of a router, as far as there are any. -/
def records (v : Value) : List Value :=
  ((v.entries?.bind fun es => Entries.get? es "routes").bind items?).getD []

/-- What stands under the methods of a record. -/
def methods? (v : Value) : Option Value := v.entries?.bind fun es => Entries.get? es "method"

/-- A router has a record whose methods are no texts. -/
def HasBadMethods (v : Value) : Prop :=
  ∃ record ∈ v.records, ∃ methods, record.methods? = some methods ∧ methods.holdsTexts = false

/-- Routers that cannot be gone through, or have among them, behind others that can be read, one
with a record whose methods are no texts. What is falsy stands for no routers. -/
def AreBadRouters (v : Value) : Prop :=
  v.isFalsy = false ∧
    match v.iterate? with
    | .error _ => True
    | .ok items => ∃ before router after, items = before ++ router :: after ∧
        (∀ r ∈ before, ∃ q, Router.ofValue r = .ok q) ∧ router.HasBadMethods

/-- A route file has such routers, behind a configuration that can be read. -/
def HasBadRouters (v : Value) : Prop :=
  ∃ es document config routers, v.entries? = some es ∧ Entries.get? es "document" = some document ∧
    DocumentConfig.ofValue document = .ok config ∧ Entries.get? es "routers" = some routers ∧
    routers.AreBadRouters

end Value

/-- Whether a failure is a configuration error. -/
def Error.isConfiguration : Error → Bool
  | invalid .. | badStatus _ => true
  | translation _ | dangling .. | fault _ => false

/-- Whether a failure of a route file is a configuration error. -/
def Failure.isConfiguration : Failure → Bool
  | unparsed _ | noMapping _ | noDocument _ => true
  | content e => e.isConfiguration
  | file _ | decoding _ | scalar _ => false

/-! ## Faults of joined results -/

namespace Checked

variable {α β : Type} {f : Checked (α → β)} {x : Checked α} {read : Value → Checked α}

theorem faultless_map_iff (g : α → β) : (g <$> x).Faultless ↔ x.Faultless := by
  cases x <;> exact Iff.rfl

theorem faultless_under_iff (step : Step) : (x.under step).Faultless ↔ x.Faultless := by
  cases x <;> exact Iff.rfl

theorem faultless_seq_iff : (f <*> x).Faultless ↔ f.Faultless ∧ x.Faultless := by
  cases f with
  | aborted e => exact iff_of_false id fun h => h.1
  | valid g => exact (faultless_map_iff g).trans (iff_and_self.mpr fun _ => trivial)
  | invalid i is => cases x <;> simp [Seq.seq, seq, Faultless]

theorem faultless_itemsFrom_iff {n : Nat} {vs : List Value} :
    (itemsFrom read n vs).Faultless ↔ ∀ v ∈ vs, (read v).Faultless := by
  induction vs generalizing n with
  | nil => exact iff_of_true trivial (by simp)
  | cons v vs ih =>
    rw [itemsFrom, faultless_seq_iff, faultless_map_iff, faultless_under_iff, ih,
      List.forall_mem_cons]

theorem faultless_fieldOr_iff {default : α} {es : Entries} {name : String} :
    (fieldOr default es [name] read).Faultless ↔
      ∀ v, Entries.get? es name = some v → (read v).Faultless := by
  unfold fieldOr lookup
  cases Entries.get? es name with
  | none => exact iff_of_true trivial (by simp)
  | some v => simp [faultless_under_iff]

theorem faultless_field_iff {es : Entries} {whole : Value} {name : String} :
    (field es whole [name] read).Faultless ↔
      ∀ v, Entries.get? es name = some v → (read v).Faultless := by
  unfold field lookup
  cases Entries.get? es name with
  | none => exact iff_of_true trivial (by simp)
  | some v => simp [faultless_under_iff]

end Checked

/-! ## Methods -/

theorem Value.isText_of_codes {v : Value} {codes : List Nat} (h : v.codes? = some codes) :
    v.isText = codes.all Nat.isValidChar := by
  cases v with
  | str s =>
    obtain rfl : s.toList.map Char.toNat = codes := Option.some.inj h
    have hall : (s.toList.map Char.toNat).all Nat.isValidChar = true :=
      List.all_eq_true.mpr fun n hn => by
        obtain ⟨c, -, rfl⟩ := List.mem_map.mp hn
        exact decide_eq_true c.valid
    exact hall.symm
  | brokenText cs => exact Option.some.inj h ▸ rfl
  | _ => cases h

theorem Value.isText_of_codes_none {v : Value} (h : v.codes? = none) : v.isText = false := by
  cases v <;> first | rfl | cases h

namespace Method

/-- Lower case keeps the codes of characters apart from other codes. -/
theorem all_isValidChar_lower (codes : List Nat) :
    (codes.map fun n => ((Text.charOf? n).map (Text.lowerChar · |>.toNat)).getD n).all
      Nat.isValidChar =
      codes.all Nat.isValidChar := by
  rw [List.all_map]
  refine congrArg (codes.all ·) (funext fun n => ?_)
  simp only [Function.comp, Text.charOf?]
  split
  · rename_i hn
    exact (decide_eq_true (Text.lowerChar (.ofNat n)).valid).trans (decide_eq_true hn).symm
  · rfl

theorem lowerName_cases (v : Value) : match lowerName v with
    | .ok w => w.isText = v.isText
    | .error _ => v.isText = false := by
  cases v with
  | brokenText codes => exact all_isValidChar_lower codes
  | _ => rfl

theorem mapM_lowerName_cases (items : List Value) : match items.mapM lowerName with
    | .ok names => names.all Value.isText = items.all Value.isText
    | .error _ => items.all Value.isText = false := by
  induction items with
  | nil => rfl
  | cons v vs ih =>
    have hv := lowerName_cases v
    rw [List.mapM_cons]
    -- A value without a lower case is no text and ends the round; the others stay what they are.
    cases hname : lowerName v with
    | error f =>
      rw [hname] at hv
      simp [bind, Except.bind, hv]
    | ok w =>
      rw [hname] at hv
      cases hrest : vs.mapM lowerName with
      | error f =>
        rw [hrest] at ih
        simp only [bind, Except.bind, List.all_cons, ih, Bool.and_false]
      | ok ws =>
        rw [hrest] at ih
        simp only [bind, Except.bind, pure, Except.pure, List.all_cons, hv, ih]

theorem namesInCodes_cases (position : Nat) (names : List Value) :
    match namesInCodes position names with
    | .ok found => found.all (·.all Nat.isValidChar) = names.all Value.isText
    | .error _ => names.all Value.isText = false := by
  induction names generalizing position with
  | nil => rfl
  | cons v vs ih =>
    rw [namesInCodes]
    cases hcodes : v.codes? with
    | none => simp [Value.isText_of_codes_none hcodes]
    | some codes =>
      have hv := Value.isText_of_codes hcodes
      have ih := ih (position + 1)
      dsimp only
      cases hrest : namesInCodes (position + 1) vs with
      | error f =>
        rw [hrest] at ih
        simp [Functor.map, Except.map, ih]
      | ok found =>
        rw [hrest] at ih
        simp only [Functor.map, Except.map, List.all_cons, hv, ih]

theorem all_flatten_intersperse {p : Nat → Bool} {sep : List Nat} (hsep : sep.all p = true)
    (names : List (List Nat)) : (names.intersperse sep).flatten.all p = names.all (·.all p) := by
  induction names with
  | nil => rfl
  | cons x xs ih =>
    cases xs with
    | nil => simp
    | cons y ys =>
      rw [List.intersperse_cons_cons, List.flatten_cons, List.flatten_cons, List.all_append,
        List.all_append, hsep, Bool.true_and, ih]
      rfl

/-- Naming the unknown methods is a fault exactly when one of their codes is no character. -/
theorem faultless_unknownNames_iff {v : Value} {names : List (List Nat)} :
    (unknownNames v names : Checked (List Method)).Faultless ↔
      names.all (·.all Nat.isValidChar) = true := by
  have htext (s : String) : (s.toList.map Char.toNat).all Nat.isValidChar = true :=
    (Value.isText_of_codes (v := .str s) rfl).symm
  have hmessage (s t : String) : (s.toList.map Char.toNat
      ++ (names.intersperse (t.toList.map Char.toNat)).flatten).all Nat.isValidChar =
        names.all (·.all Nat.isValidChar) := by
    rw [List.all_append, htext, Bool.true_and, all_flatten_intersperse (htext t)]
  unfold unknownNames
  dsimp only
  split
  · rename_i e h
    refine iff_of_false id fun hnames => ?_
    rw [Text.EncodingError.find?_eq_none_iff.mpr ((hmessage _ _).trans hnames)] at h
    cases h
  · rename_i h
    exact iff_of_true trivial
      ((hmessage _ _).symm.trans (Text.EncodingError.find?_eq_none_iff.mp h))

/-- A known name is a text. -/
theorem isText_of_ofValue? {v : Value} (h : (ofValue? v).isNone = false) : v.isText = true := by
  cases v <;> first | rfl | cases h

/-- Known names are texts, so the unknown ones decide whether all are. -/
theorem all_isText_filter_isNone (names : List Value) :
    (names.filter fun n => (ofValue? n).isNone).all Value.isText = names.all Value.isText := by
  rw [List.all_filter]
  refine congrArg (names.all ·) (funext fun n => ?_)
  cases h : (ofValue? n).isNone with
  | true => rfl
  | false => exact (isText_of_ofValue? h).symm

theorem lowerNames_cases (v : Value) : match lowerNames v with
    | .ok names => names.all Value.isText = v.holdsTexts
    | .error _ => v.holdsTexts = false := by
  unfold lowerNames Value.holdsTexts
  cases v.codes? with
  | some codes => simpa using mapM_lowerName_cases [v]
  | none =>
    cases v.iterate? with
    | error f => rfl
    | ok items => exact mapM_lowerName_cases items

/-- Reading methods is a fault exactly when they are no texts. -/
theorem faultless_readAll_iff {v : Value} : (readAll v).Faultless ↔ v.holdsTexts = true := by
  have hlowered := lowerNames_cases v
  unfold readAll
  cases hnames : lowerNames v with
  | error f =>
    rw [hnames] at hlowered
    exact iff_of_false id (by simp [show v.holdsTexts = false from hlowered])
  | ok names =>
    rw [hnames] at hlowered
    have hlowered : names.all Value.isText = v.holdsTexts := hlowered
    dsimp only
    rw [← hlowered, ← all_isText_filter_isNone]
    split
    · rename_i hnil
      rw [hnil]
      refine iff_of_true ?_ rfl
      split <;> trivial
    · -- The message lists the unknown names, and only these can break it.
      have hcodes := namesInCodes_cases 0 (names.filter fun n => (ofValue? n).isNone)
      split
      · rename_i f h
        rw [h] at hcodes
        exact iff_of_false id (by simp [show _ = false from hcodes])
      · rename_i found h
        rw [h] at hcodes
        rw [faultless_unknownNames_iff, hcodes]

end Method

/-! ## Routers -/

theorem RouteInfo.faultless_read (v : Value) : (read v).Faultless := by
  have htext := faultless_optional faultless_text
  unfold read
  dsimp only
  split
  · exact (faultless_fieldOr htext ..).map _
      |>.seq (faultless_fieldOr htext ..)
      |>.seq (faultless_fieldOr (faultless_listOf faultless_text) ..)
      |>.seq (faultless_fieldOr htext ..)
      |>.seq (faultless_fieldOr (faultless_optional faultless_bool) ..)
      |>.seq (faultless_fieldOr faultless_bool ..)
  · trivial

theorem ContentType.faultless_read (v : Value) : (read v).Faultless := by
  refine (faultless_text v).andThen fun s => ?_
  split <;> trivial

theorem RequestSpec.faultless_read (v : Value) : (read v).Faultless := by
  have htext := faultless_optional faultless_text
  have hnode := faultless_optional Node.faultless_read
  unfold read
  split
  · exact (faultless_fieldOr (faultless_optional ContentType.faultless_read) ..).map _
      |>.seq (faultless_fieldOr hnode ..)
      |>.seq (faultless_fieldOr hnode ..)
      |>.seq (faultless_fieldOr hnode ..)
      |>.seq (faultless_fieldOr hnode ..)
      |>.seq (faultless_fieldOr htext ..)
      |>.seq (faultless_fieldOr Output.faultless_readNamed ..)
  · trivial

/-- Of the parts of a record only its methods can be at fault. -/
theorem RouteRecord.faultless_read_iff {v : Value} :
    (read v).Faultless ↔ ∀ methods, v.methods? = some methods → methods.holdsTexts = true := by
  unfold read Value.methods?
  cases v.entries? with
  | none => exact iff_of_true trivial nofun
  | some es =>
    have hpath : ∀ w, Entries.get? es "path" = some w → (text w).Faultless :=
      fun w _ => faultless_text w
    have hinfo := faultless_fieldOr RouteInfo.faultless_read {} es ["meta"]
    have hrequest := faultless_fieldOr (faultless_optional RequestSpec.faultless_read) none es
      ["validate", "validate_"]
    have houtput := faultless_fieldOr Output.faultless_readNamed [] es ["output"]
    simp only [faultless_seq_iff, faultless_map_iff, faultless_field_iff,
      Method.faultless_readAll_iff, hinfo, hrequest, houtput, and_true, Option.bind_some]
    exact and_iff_left hpath

/-- Reading a router is a fault exactly when the methods of one of its records are no texts. -/
theorem Router.faultless_read_iff {v : Value} : (read v).Faultless ↔ ¬ v.HasBadMethods := by
  have hrecords : (read v).Faultless ↔ ∀ r ∈ v.records, (RouteRecord.read r).Faultless := by
    unfold read Value.records
    cases v.entries? with
    | none => exact iff_of_true trivial (by simp)
    | some es =>
      have hprefix := faultless_fieldOr (faultless_optional faultless_text) none es ["prefix"]
      simp only [faultless_seq_iff, faultless_map_iff, hprefix, true_and, faultless_fieldOr_iff,
        Option.bind_some]
      cases Entries.get? es "routes" with
      | none => simp
      | some routes =>
        simp only [Option.some.injEq, forall_eq', Option.bind_some]
        unfold listOf
        cases routes.items? with
        | none => exact iff_of_true trivial (by simp)
        | some items => simpa using faultless_itemsFrom_iff
  rw [hrecords]
  simp only [RouteRecord.faultless_read_iff, Value.HasBadMethods, not_exists, not_and,
    Bool.not_eq_false]

/-! ## Failures -/

theorem Checked.exists_toExcept_iff {α : Type} {part : Section} {x : Checked α} :
    (∃ e, x.toExcept part = .error e ∧ e.isConfiguration = false) ↔ ¬ x.Faultless := by
  cases x <;> simp [toExcept, Faultless, Error.isConfiguration]

theorem Router.escapes_ofValue_iff {v : Value} :
    (∃ e, Router.ofValue v = .error e ∧ e.isConfiguration = false) ↔ v.HasBadMethods :=
  exists_toExcept_iff.trans ((not_congr Router.faultless_read_iff).trans Classical.not_not)

/-- A loop fails with the first item that does, behind items that do not. -/
theorem mapM_eq_error_iff {α β ε : Type} {f : α → Except ε β} {xs : List α} {e : ε} :
    xs.mapM f = .error e ↔ ∃ before x after, xs = before ++ x :: after ∧
      (∀ y ∈ before, ∃ b, f y = .ok b) ∧ f x = .error e := by
  induction xs with
  | nil => exact iff_of_false nofun fun ⟨before, x, after, h, _⟩ => by cases before <;> cases h
  | cons y ys ih =>
    rw [List.mapM_cons]
    cases hy : f y with
    | error e' =>
      constructor
      · intro h
        obtain rfl : e' = e := Except.error.inj h
        exact ⟨[], y, ys, rfl, nofun, hy⟩
      · rintro ⟨before, x, after, hxs, hbefore, hx⟩
        cases before with
        | nil =>
          obtain ⟨rfl, rfl⟩ := List.cons.inj hxs
          exact congrArg Except.error (Except.error.inj (hy.symm.trans hx))
        | cons z zs =>
          obtain ⟨rfl, rfl⟩ := List.cons.inj hxs
          obtain ⟨b, hb⟩ := hbefore y List.mem_cons_self
          cases hy.symm.trans hb
    | ok b =>
      -- A first item that is read passes the failure of the others on.
      have hstep : (do let bs ← ys.mapM f; pure (b :: bs) : Except ε (List β)) = .error e ↔
          ys.mapM f = .error e := by
        cases ys.mapM f <;> simp [bind, Except.bind, pure, Except.pure]
      refine Iff.trans hstep (ih.trans ?_)
      constructor
      · rintro ⟨before, x, after, rfl, hbefore, hx⟩
        exact ⟨y :: before, x, after, rfl, List.forall_mem_cons.mpr ⟨⟨b, hy⟩, hbefore⟩, hx⟩
      · rintro ⟨before, x, after, hxs, hbefore, hx⟩
        cases before with
        | nil =>
          obtain ⟨rfl, rfl⟩ := List.cons.inj hxs
          cases hy.symm.trans hx
        | cons z zs =>
          obtain ⟨rfl, rfl⟩ := List.cons.inj hxs
          exact ⟨zs, x, after, rfl, fun r hr => hbefore r (List.mem_cons_of_mem _ hr), hx⟩

theorem DocumentConfig.isConfiguration_of_ofValue {v : Value} {e : Error}
    (h : DocumentConfig.ofValue v = .error e) : e.isConfiguration = true := by
  by_cases he : e.isConfiguration = true
  · exact he
  · have hfault := Checked.exists_toExcept_iff.mp ⟨e, h, Bool.eq_false_iff.mpr he⟩
    exact absurd (DocumentConfig.faultless_read v) hfault

theorem RouteFile.escapes_readRouters_iff {v : Value} :
    (∃ e, readRouters v = .error e ∧ e.isConfiguration = false) ↔ v.AreBadRouters := by
  unfold readRouters Value.AreBadRouters
  cases v.isFalsy with
  | true => simp
  | false =>
    cases v.iterate? with
    | error f => simp [Error.isConfiguration]
    | ok items =>
      simp only [Bool.false_eq_true, if_false, true_and, mapM_eq_error_iff]
      constructor
      · rintro ⟨e, ⟨before, router, after, hitems, hbefore, hrouter⟩, he⟩
        exact ⟨before, router, after, hitems, hbefore,
          Router.escapes_ofValue_iff.mp ⟨e, hrouter, he⟩⟩
      · rintro ⟨before, router, after, hitems, hbefore, hrouter⟩
        obtain ⟨e, hrouter, he⟩ := Router.escapes_ofValue_iff.mpr hrouter
        exact ⟨e, ⟨before, router, after, hitems, hbefore, hrouter⟩, he⟩

/-- Without routers there is nothing to read. -/
theorem Value.areBadRouters_getD_iff {routers : Option Value} :
    (routers.getD .null).AreBadRouters ↔ ∃ v, routers = some v ∧ v.AreBadRouters := by
  cases routers with
  | none => exact iff_of_false (fun h => absurd h.1 (by decide)) (by simp)
  | some v => simp

/-- The value of a route file lets a failure escape exactly when its routers do: its configuration
has no faults. -/
theorem RouteFile.escapes_ofValue_iff {path : String} {v : Value} :
    (∃ e, RouteFile.ofValue path v = .error e ∧ e.isConfiguration = false) ↔ v.HasBadRouters := by
  unfold RouteFile.ofValue Value.HasBadRouters
  cases v.entries? with
  | none => simp [Failure.isConfiguration]
  | some es =>
    cases hdocument : Entries.get? es "document" with
    | none => simp [hdocument, Failure.isConfiguration]
    | some document =>
      simp only [hdocument, Option.some.injEq, exists_eq_left', exists_and_left, exists_and_right]
      cases hconfig : DocumentConfig.ofValue document with
      | error e =>
        -- A document that is refused ends the work with a documented error.
        have he : (Failure.content e).isConfiguration = true :=
          DocumentConfig.isConfiguration_of_ofValue hconfig
        refine iff_of_false ?_ (by simp)
        rintro ⟨e', herror, he'⟩
        obtain rfl : Failure.content e = e' := Except.error.inj herror
        exact absurd he (Bool.eq_false_iff.mp he')
      | ok config =>
        have hread : ∃ c, (Except.ok config : Except Error DocumentConfig) = .ok c := ⟨config, rfl⟩
        rw [and_iff_right hread, ← Value.areBadRouters_getD_iff,
          ← RouteFile.escapes_readRouters_iff]
        cases readRouters ((Entries.get? es "routers").getD .null) with
        | error e =>
          constructor
          · rintro ⟨e', herror, he'⟩
            obtain rfl : Failure.content e = e' := Except.error.inj herror
            exact ⟨e, rfl, he'⟩
          · rintro ⟨e', herror, he'⟩
            obtain rfl : e = e' := Except.error.inj herror
            exact ⟨.content e, rfl, he'⟩
        | ok routers => exact iff_of_false nofun nofun

/-- What escapes. A router lets a failure that is no configuration error escape exactly when it has
a record whose methods are no texts. A route file does so exactly when one of its scalars has no
value, or when its value has routers that cannot be gone through or that let one escape. -/
theorem escaping_iff (path : String) :
    (∀ v, (∃ e, Router.ofValue v = .error e ∧ e.isConfiguration = false) ↔ v.HasBadMethods) ∧
    ∀ text, (∃ e, RouteFile.ofText path text = .error e ∧ e.isConfiguration = false) ↔
      (∃ e, Yaml.read text = .error (.scalar e)) ∨ ∃ v,
        Yaml.read text = .ok v ∧ v.HasBadRouters := by
  refine ⟨fun v => Router.escapes_ofValue_iff, fun text => ?_⟩
  unfold RouteFile.ofText
  cases Yaml.read text with
  | ok v => simpa using RouteFile.escapes_ofValue_iff
  | error e => cases e <;> simp [Failure.isConfiguration]

/-- Not all of them are configuration errors: a router escapes whose method is a number. -/
theorem not_isConfiguration_of_ofValue :
    ¬ ∀ v e, Router.ofValue v = .error e → e.isConfiguration = true :=
  fun h => absurd (h (.map .none [(.str "routes", .list .none
    [.map .none [(.str "method", .int 5), (.str "path", .str "/a")]])]) _ rfl) (by decide)

end ApiDoc
