import ApiDoc.Json.Writer

/-!
# Values with a JSON form

JSON has no form for dates, byte strings, sets, containers inside of themselves and integers beyond
a length, and its keys are scalars (`Value.hasJsonForm`). A text with codes that are no characters
(`Value.isWhole` fails) is written, but what is written has a flaw. So a value has a JSON text
without a flaw exactly when it has a JSON form and is whole (`Json.exists_indented_iff`).

All of this is seen by one induction along the writer: what a part adds to a draft is told by
`Json.Adds`.
-/

namespace ApiDoc

namespace Value

/-- Whether a value can be the key of an entry in JSON. -/
def isJsonKey : Value → Bool
  | null | bool _ | str _ | brokenText _ => true
  | number n => n.hasText
  | _ => false

def hasJsonForm : Value → Bool
  | null | bool _ | str _ | brokenText _ => true
  | number n => n.hasText
  | list _ items | tuple _ items => inItems items
  | map _ entries => inEntries entries
  | date .. | timestamp .. | bytes _ | set .. | again .. => false
where
  inItems : List Value → Bool
    | [] => true
    | v :: vs => v.hasJsonForm && inItems vs
  inEntries : List (Value × Value) → Bool
    | [] => true
    | (k, v) :: es => k.isJsonKey && v.hasJsonForm && inEntries es

/-- Whether all codes of the texts in a value are characters. -/
def isWhole : Value → Bool
  | brokenText codes => codes.all Nat.isValidChar
  | list _ items | tuple _ items | set _ items => inItems items
  | map _ entries => inEntries entries
  | _ => true
where
  inItems : List Value → Bool
    | [] => true
    | v :: vs => v.isWhole && inItems vs
  inEntries : List (Value × Value) → Bool
    | [] => true
    | (k, v) :: es => k.isWhole && v.isWhole && inEntries es

/-! ## Integers -/

theorem hasLongInteger_of_isJsonKey {k : Value} (h : k.isJsonKey) : k.hasLongInteger = false := by
  cases k with
  | number n => cases n <;> simp_all [isJsonKey, hasLongInteger, Number.hasText]
  | _ => first | rfl | cases h

mutual

/-- No integer of a value with a JSON form is too long. -/
theorem hasLongInteger_of_hasJsonForm : ∀ v : Value, v.hasJsonForm → v.hasLongInteger = false
  | .number n, h => hasLongInteger_of_isJsonKey (k := .number n) h
  | .list _ items, h | .tuple _ items, h => by
    rw [hasJsonForm] at h
    rw [hasLongInteger]
    exact inItems_eq_false items h
  | .map _ es, h => by
    rw [hasJsonForm] at h
    rw [hasLongInteger]
    exact inEntries_eq_false es h
  | .null, _ | .bool _, _ | .str _, _ | .brokenText _, _ => rfl
  | .date .., h | .timestamp .., h | .bytes _, h | .set .., h | .again .., h => by cases h

theorem inItems_eq_false : ∀ vs, hasJsonForm.inItems vs → hasLongInteger.inItems vs = false
  | [], _ => rfl
  | v :: vs, h => by
    simp only [hasJsonForm.inItems, Bool.and_eq_true] at h
    simp only [hasLongInteger.inItems, hasLongInteger_of_hasJsonForm v h.1, inItems_eq_false vs h.2,
      Bool.or_self]

theorem inEntries_eq_false : ∀ es, hasJsonForm.inEntries es → hasLongInteger.inEntries es = false
  | [], _ => rfl
  | (k, v) :: es, h => by
    simp only [hasJsonForm.inEntries, Bool.and_eq_true] at h
    simp only [hasLongInteger.inEntries, hasLongInteger_of_isJsonKey h.1.1,
      hasLongInteger_of_hasJsonForm v h.1.2, inEntries_eq_false es h.2, Bool.or_self]

end

end Value

namespace Json

variable {d e : Draft} {form whole form' whole' : Bool}

/-- What comes of adding something to a draft: an error if it has no JSON form, and otherwise a
draft that has a flaw if it had one before or if what was added is not whole. -/
def Adds (d : Draft) (form whole : Bool) (r : Except WriteError Draft) : Prop :=
  match r with
  | .ok e => form = true ∧ (e.flaw = none ↔ d.flaw = none ∧ whole = true)
  | .error _ => form = false

theorem adds_add (s : String) : Adds d true true (.ok (d.add s)) := by simp [Adds, Draft.add]

/-- One thing is added after another. -/
theorem Adds.bind {r : Except WriteError Draft} {f : Draft → Except WriteError Draft}
    (h : Adds d form whole r) (hf : ∀ e, Adds e form' whole' (f e)) :
    Adds d (form && form') (whole && whole') (r >>= f) := by
  cases r with
  | error e =>
    obtain rfl : form = false := h
    rfl
  | ok e =>
    obtain ⟨rfl, he⟩ := h
    have hfe := hf e
    show Adds d _ _ (f e)
    cases hr : f e with
    | error => simpa [Adds, hr] using hfe
    | ok e' =>
      rw [hr] at hfe
      simp only [Adds, Bool.true_and, Bool.and_eq_true] at hfe ⊢
      exact ⟨hfe.1, by rw [hfe.2, he, and_assoc]⟩

/-- Text in front of what is added does not matter. -/
theorem Adds.behind {r : Except WriteError Draft} {s : String} (h : Adds (d.add s) form whole r) :
    Adds d form whole r := h

/-- Text behind what is added does not matter. -/
theorem Adds.close {r : Except WriteError Draft} (s : String) (h : Adds d form whole r) :
    Adds d form whole ((·.add s) <$> r) := by
  cases r <;> exact h

theorem adds_addCodes (codes : List Nat) :
    Adds d true (codes.all Nat.isValidChar) (.ok (d.addCodes codes)) := by
  simp only [Adds, Draft.addCodes, Option.or_eq_none_iff, Option.map_eq_none_iff, true_and]
  rw [Text.EncodingError.find?_eq_none_iff]
  rfl

theorem adds_numberText (n : Number) (f : String → String) :
    Adds d n.hasText true ((numberText n).map fun s => d.add (f s)) := by
  cases n with
  | int i =>
    rw [numberText, Number.hasText]
    cases Number.hasDecimalText i with
    | true => exact adds_add _
    | false => rfl
  | float x => cases x <;> exact adds_add _

theorem adds_addKey (k : Value) : Adds d k.isJsonKey k.isWhole (addKey k d) := by
  cases k with
  | null | bool | str => exact adds_add _
  | brokenText codes => exact adds_addCodes codes
  | number n => exact adds_numberText n quoted
  | _ => rfl

mutual

theorem adds_write (indent : Bool) : ∀ (level : Nat) (v : Value) (d : Draft),
    Adds d v.hasJsonForm v.isWhole (write indent level v d)
  | _, .null, _ | _, .bool _, _ | _, .str _, _ => adds_add _
  | _, .number n, _ => adds_numberText n id
  | _, .brokenText codes, _ => adds_addCodes codes
  | level, .list _ items, d | level, .tuple _ items, d => by
    rw [write, Value.hasJsonForm, Value.isWhole]
    cases items with
    | nil => exact adds_add _
    | cons v vs => exact ((adds_writeItems indent (level + 1) true (v :: vs) _).behind).close _
  | level, .map _ es, d => by
    rw [write, Value.hasJsonForm, Value.isWhole]
    cases es with
    | nil => exact adds_add _
    | cons e es => exact ((adds_writeEntries indent (level + 1) true (e :: es) _).behind).close _
  | _, .date .., _ | _, .timestamp .., _ | _, .bytes _, _ | _, .set .., _ | _, .again .., _ => rfl

theorem adds_writeItems (indent : Bool) :
    ∀ (level : Nat) (first : Bool) (vs : List Value) (d : Draft),
      Adds d (Value.hasJsonForm.inItems vs) (Value.isWhole.inItems vs)
        (writeItems indent level first vs d)
  | _, _, [], _ => by simp [writeItems, Adds, Value.hasJsonForm.inItems, Value.isWhole.inItems]
  | level, first, v :: vs, d => by
    rw [writeItems, Value.hasJsonForm.inItems, Value.isWhole.inItems]
    refine Adds.bind ?_ fun e => adds_writeItems indent level false vs e
    cases first with
    | true => exact adds_write indent level v d
    | false => exact (adds_write indent level v _).behind

theorem adds_writeEntries (indent : Bool) :
    ∀ (level : Nat) (first : Bool) (es : List (Value × Value)) (d : Draft),
    Adds d (Value.hasJsonForm.inEntries es) (Value.isWhole.inEntries es)
      (writeEntries indent level first es d)
  | _, _, [], _ => by
    simp [writeEntries, Adds, Value.hasJsonForm.inEntries, Value.isWhole.inEntries]
  | level, first, (k, v) :: es, d => by
    rw [writeEntries, Value.hasJsonForm.inEntries, Value.isWhole.inEntries, Bool.and_assoc,
      Bool.and_assoc]
    refine Adds.bind ?_ fun e =>
      Adds.bind (adds_write indent level v _).behind fun f =>
        adds_writeEntries indent level false es f
    cases first with
    | true => exact adds_addKey k
    | false => exact (adds_addKey k).behind

end

theorem adds_indented (v : Value) : Adds {} v.hasJsonForm v.isWhole (indented v) :=
  (adds_write true 0 v {}).close "\n"

/-- The JSON text of a whole value has no flaw. -/
theorem flaw_indented {v : Value} (hv : v.isWhole) (h : indented v = .ok d) : d.flaw = none := by
  have := adds_indented v
  rw [h] at this
  exact this.2.mpr ⟨rfl, hv⟩

/-- A value has a JSON text without a flaw exactly when it has a JSON form and is whole. -/
theorem exists_indented_iff {v : Value} :
    (∃ d, indented v = .ok d ∧ d.flaw = none) ↔ v.hasJsonForm ∧ v.isWhole := by
  have hadds := adds_indented v
  cases h : indented v with
  | error e =>
    have hform : v.hasJsonForm = false := by simpa [Adds, h] using hadds
    simp [hform]
  | ok d =>
    obtain ⟨hform, hflaw⟩ : v.hasJsonForm = true ∧ (d.flaw = none ↔ v.isWhole = true) := by
      simpa [Adds, h] using hadds
    simp [hform, hflaw]

end Json

end ApiDoc
