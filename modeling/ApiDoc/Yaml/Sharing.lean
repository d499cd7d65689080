import ApiDoc.Value.Basic

/-!
# Shared objects

An object that occurs more than once in a value is written once, with an anchor, and then referred
to. Anchors are numbered in the order in which the objects are met for the second time, each before
its parts. The parts of an object are looked at only where it is met first.
-/

namespace ApiDoc.Yaml

/-- The objects of a value. -/
structure Sharing where
  /-- Those met so far. -/
  met : List Label := []
  /-- Those met more than once, in order. -/
  shared : List Label := []

namespace Sharing

/-- Whether an object has been met. -/
def has (s : Sharing) (l : Label) : Bool := l ≠ .none && s.met.contains l

/-- An object that is met. -/
def meet (s : Sharing) (l : Label) : Sharing :=
  if l = .none then s
  else if s.met.contains l then
    if s.shared.contains l then s else { s with shared := s.shared ++ [l] }
  else { s with met := l :: s.met }

mutual

/-- The objects of a value after those met before. -/
def ofValue (s : Sharing) : Value → Sharing
  | .list l items | .tuple l items | .set l items =>
    if s.has l then s.meet l else ofItems (s.meet l) items
  | .map l entries => if s.has l then s.meet l else ofEntries (s.meet l) entries
  | .date l _ | .timestamp l _ | .again l _ => s.meet l
  | _ => s

/-- The objects of items. -/
def ofItems (s : Sharing) : List Value → Sharing
  | [] => s
  | v :: vs => ofItems (ofValue s v) vs

/-- The objects of entries. -/
def ofEntries (s : Sharing) : List (Value × Value) → Sharing
  | [] => s
  | (k, v) :: es => ofEntries (ofValue (ofValue s k) v) es

end

/-- The position of a shared object among the shared ones. -/
def position? (s : Sharing) (l : Label) : Option Nat :=
  if l = .none then none else s.shared.findIdx? (· = l)

end Sharing

end ApiDoc.Yaml
