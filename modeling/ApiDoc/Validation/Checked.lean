import ApiDoc.Validation.Issue

/-!
# Results of validation

A checked value is valid, has issues, or could not be checked because of a fault. Joining two
results (`<*>`) keeps the issues of both, in order; a fault hides every issue, found before it or
after it, and of two faults the first one counts.
-/

namespace ApiDoc

/-- The result of checking an input. -/
inductive Checked (α : Type) where
  | valid (a : α)
  | invalid (first : Issue) (rest : List Issue)
  | aborted (f : Fault)

namespace Checked

variable {α β : Type}

/-- Changes the value of a valid result. -/
def map (f : α → β) : Checked α → Checked β
  | valid a => valid (f a)
  | invalid i is => invalid i is
  | aborted e => aborted e

/-- Applies a checked function to a checked value and keeps the issues of both. -/
def seq (f : Checked (α → β)) (x : Checked α) : Checked β :=
  match f with
  | valid f => x.map f
  | invalid i is =>
    match x with
    | valid _ => invalid i is
    | invalid j js => invalid i (is ++ j :: js)
    | aborted e => aborted e
  | aborted e => aborted e

/-- Goes on with a valid value. -/
def andThen (x : Checked α) (f : α → Checked β) : Checked β :=
  match x with
  | valid a => f a
  | invalid i is => invalid i is
  | aborted e => aborted e

instance : Applicative Checked where
  pure := valid
  map := map
  seq f x := seq f (x ())

/-- One issue with a whole input. -/
def issue (kind : IssueKind) (input : Value) : Checked α := invalid ⟨[], kind, input⟩ []

/-- The result for a part, seen from the whole: every issue is one step further down. -/
def under (step : Step) : Checked α → Checked α
  | valid a => valid a
  | invalid i is =>
    let down (i : Issue) : Issue := { i with location := step :: i.location }
    invalid (down i) (is.map down)
  | aborted e => aborted e

/-- The value of a valid result. -/
def toOption : Checked α → Option α
  | valid a => some a
  | _ => none

@[simp] theorem seq_eq_valid {f : Checked (α → β)} {x : Checked α} {b : β} :
    seq f x = valid b ↔ ∃ g a, f = valid g ∧ x = valid a ∧ g a = b := by
  cases f <;> cases x <;> simp [seq, map]

end Checked

end ApiDoc
