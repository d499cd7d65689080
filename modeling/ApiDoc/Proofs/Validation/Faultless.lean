import ApiDoc.Api

/-!
# Readers without faults

Reading can find issues, and some readers can also come to a fault, which hides all issues: the one
of methods goes through the items of whatever it is given. The readers of a document's configuration
and of options never do. They are put together from readers of scalars, which have no faults, in
ways that add none (`Checked.Faultless`).

Main statements: `DocumentConfig.faultless_read` and `Options.faultless_read`.
-/

namespace ApiDoc

namespace Checked

variable {α β : Type} {f : Checked (α → β)} {x : Checked α} {read : Value → Checked α}

/-- A result that is a value or issues. -/
def Faultless : Checked α → Prop
  | aborted _ => False
  | _ => True

theorem Faultless.isDocumented {part : Section} {e : Error} (h : x.Faultless)
    (he : x.toExcept part = .error e) : e.isDocumented = true := by
  cases x with
  | valid a => cases he
  | invalid first rest => exact Except.error.inj he ▸ rfl
  | aborted fault => cases h

theorem faultless_issue (kind : IssueKind) (v : Value) : (issue kind v : Checked α).Faultless :=
  trivial

/-! ## Joining results -/

theorem Faultless.map (h : x.Faultless) (g : α → β) : (g <$> x).Faultless := by
  cases x with
  | aborted => cases h
  | valid | invalid => trivial

theorem Faultless.seq (hf : f.Faultless) (hx : x.Faultless) : (f <*> x).Faultless := by
  cases f with
  | aborted => cases hf
  | valid g => exact hx.map g
  | invalid i is =>
    cases x with
    | aborted => cases hx
    | valid | invalid => trivial

theorem Faultless.under (h : x.Faultless) (step : Step) : (x.under step).Faultless := by
  cases x with
  | aborted => cases h
  | valid | invalid => trivial

theorem Faultless.andThen {g : α → Checked β} (h : x.Faultless) (hg : ∀ a, (g a).Faultless) :
    (x.andThen g).Faultless := by
  cases x with
  | aborted => cases h
  | valid a => exact hg a
  | invalid => trivial

/-! ## Scalars -/

theorem faultless_asText? {kind : IssueKind} {v : Value} :
    ∀ r, asText? kind v = some r → r.Faultless := by
  intro r h
  unfold asText? at h
  split at h
  · cases h
    trivial
  · split at h <;> cases h <;> trivial
  · cases h
    trivial
  · cases h

theorem faultless_text (v : Value) : (text v).Faultless := by
  unfold text
  cases h : asText? .stringUnicode v with
  | none => trivial
  | some r => exact faultless_asText? r h

theorem faultless_boolNumber? {v : Value} {n : Number} :
    ∀ r, boolNumber? v n = some r → r.Faultless := by
  intro r h
  unfold boolNumber? at h
  repeat' split at h
  all_goals cases h
  all_goals trivial

theorem faultless_bool (v : Value) : (bool v).Faultless := by
  unfold bool
  split
  · trivial
  · rename_i n
    cases h : boolNumber? (.number n) n with
    | none => trivial
    | some r => exact faultless_boolNumber? r h
  · split
    · rename_i r h
      refine (faultless_asText? r h).andThen fun s => ?_
      cases boolWord? s <;> trivial
    · trivial

theorem faultless_number (v : Value) : (number v).Faultless := by
  unfold number
  split
  · trivial
  · trivial
  · split
    · dsimp only
      split <;> trivial
    · trivial
    · trivial

theorem faultless_any (v : Value) : (any v).Faultless := trivial

theorem faultless_optional (hread : ∀ v, (read v).Faultless) (v : Value) :
    (optional read v).Faultless := by
  unfold optional
  split
  · trivial
  · exact (hread _).map some

/-! ## Containers -/

theorem faultless_itemsFrom (hread : ∀ v, (read v).Faultless) (n : Nat) (vs : List Value) :
    (itemsFrom read n vs).Faultless := by
  induction vs generalizing n with
  | nil => trivial
  | cons v vs ih => exact (((hread v).under _).map _).seq (ih (n + 1))

theorem faultless_listOf (hread : ∀ v, (read v).Faultless) (v : Value) :
    (listOf read v).Faultless := by
  unfold listOf
  split
  · exact faultless_itemsFrom hread 0 _
  · trivial

theorem faultless_namedEntries (hread : ∀ v, (read v).Faultless) (es : List (Value × Value)) :
    (namedEntries read es).Faultless := by
  induction es with
  | nil => trivial
  | cons e es ih =>
    have hkey : (textKey e.1).Faultless := ((faultless_text e.1).under _).under _
    exact ((hkey.map _).seq ((hread e.2).under _)).seq ih

theorem faultless_mappingOf (hread : ∀ v, (read v).Faultless) (v : Value) :
    (mappingOf read v).Faultless := by
  unfold mappingOf
  split
  · exact (faultless_namedEntries hread _).map _
  · trivial

theorem faultless_fieldOr (hread : ∀ v, (read v).Faultless) (default : α) (es : Entries)
    (names : List String) : (fieldOr default es names read).Faultless := by
  unfold fieldOr
  split
  · exact (hread _).under _
  · trivial

theorem faultless_field (hread : ∀ v, (read v).Faultless) (es : Entries) (whole : Value)
    (names : List String) : (field es whole names read).Faultless := by
  unfold field
  split
  · exact (hread _).under _
  · trivial

theorem faultless_extras (used : List String) (es : List (Value × Value)) :
    (extras used es).Faultless := by
  induction es with
  | nil => trivial
  | cons e es ih =>
    unfold extras
    split
    · split
      · exact ih
      · exact ih.map _
    · exact Faultless.seq (((faultless_issue ..).under _).map _) ih

theorem faultless_noExtras (used : List String) (es : List (Value × Value)) :
    (noExtras used es).Faultless := by
  induction es with
  | nil => trivial
  | cons e es ih =>
    unfold noExtras
    split
    · split
      · exact ih
      · exact Faultless.seq (((faultless_issue ..).under _).map _) ih
    · exact Faultless.seq (((faultless_issue ..).under _).map _) ih

end Checked

open Checked

/-! ## Models -/

theorem Node.faultless_assemble {read : Value → Checked Node} (hread : ∀ v, (read v).Faultless)
    (es : Entries) (whole : Value) : (assemble read es whole).Faultless := by
  have htext := faultless_optional faultless_text
  have hnumber := faultless_optional faultless_number
  unfold assemble
  exact (faultless_field faultless_text es whole _).map _
    |>.seq (faultless_fieldOr htext ..)
    |>.seq (faultless_fieldOr faultless_bool ..)
    |>.seq (faultless_fieldOr hnumber ..)
    |>.seq (faultless_fieldOr hnumber ..)
    |>.seq (faultless_fieldOr htext ..)
    |>.seq (faultless_fieldOr (faultless_optional (faultless_listOf faultless_any)) ..)
    |>.seq (faultless_fieldOr htext ..)
    |>.seq (faultless_fieldOr faultless_any ..)
    |>.seq (faultless_fieldOr faultless_any ..)
    |>.seq (faultless_fieldOr (faultless_optional hread) ..)
    |>.seq (faultless_fieldOr (faultless_optional (faultless_mappingOf hread)) ..)
    |>.seq (faultless_fieldOr (faultless_optional (faultless_listOf hread)) ..)
    |>.seq (faultless_fieldOr (faultless_optional faultless_bool) ..)
    |>.seq (faultless_fieldOr htext ..)
    |>.seq (faultless_noExtras ..)

theorem Node.faultless_readWithin (fuel : Nat) (path : List Label) (v : Value) :
    (readWithin fuel path v).Faultless := by
  induction fuel generalizing path v with
  | zero => trivial
  | succ fuel ih =>
    unfold readWithin
    split
    · trivial
    · dsimp only
      split
      · trivial
      · split
        · exact faultless_assemble (ih _) _ v
        · exact ((faultless_mappingOf (ih _) v).under _).map _

theorem Node.faultless_read (v : Value) : (read v).Faultless := faultless_readWithin _ _ v

theorem Output.faultless_read (v : Value) : (read v).Faultless := by
  have htext := faultless_optional faultless_text
  have hnode := faultless_optional Node.faultless_read
  unfold read
  split
  · exact (faultless_fieldOr hnode ..).map _
      |>.seq (faultless_fieldOr htext ..)
      |>.seq (faultless_fieldOr htext ..)
      |>.seq (faultless_fieldOr hnode ..)
  · trivial

theorem Output.faultless_readNamed (v : Value) : (readNamed v).Faultless :=
  faultless_mappingOf faultless_read _

/-- The configuration of a document is read without a fault. -/
theorem DocumentConfig.faultless_read (v : Value) : (read v).Faultless := by
  have htags (v : Value) : (readTags v).Faultless :=
    faultless_listOf (faultless_mappingOf faultless_any) _
  unfold read
  split
  · exact (faultless_field (faultless_mappingOf faultless_any) ..).map _
      |>.seq (faultless_field faultless_text ..)
      |>.seq (faultless_fieldOr faultless_text ..)
      |>.seq (faultless_fieldOr (faultless_mappingOf Node.faultless_read) ..)
      |>.seq (faultless_fieldOr htags ..)
      |>.seq (faultless_extras ..)
  · trivial

/-- Options are read without a fault. -/
theorem Options.faultless_read (v : Value) : (read v).Faultless := by
  have hresponses (v : Value) : (some <$> optional Output.readNamed v : Checked _).Faultless :=
    (faultless_optional Output.faultless_readNamed v).map some
  unfold read
  split
  · trivial
  · exact ((faultless_fieldOr hresponses ..).map _).seq (faultless_noExtras ..)
  · trivial

end ApiDoc
