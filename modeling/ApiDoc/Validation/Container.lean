import ApiDoc.Validation.Scalar

/-!
# Checking lists, mappings and models

A list can be given as a tuple or a set. A model is checked field by field in the order of its
declaration. A field is found under any of its names, of which the first one present counts; a name
that is not used is an extra key.

**Keys.** A mapping from texts takes a byte string as a key for the text that it is. Two keys that
become one are one entry, at the place of the first and with the value of the last. An extra key of
a model has to be a text.
-/

namespace ApiDoc.Checked

variable {α : Type}

/-- The items of a list from position `n` on, each under its position. -/
def itemsFrom (read : Value → Checked α) (n : Nat) : List Value → Checked (List α)
  | [] => valid []
  | v :: vs => List.cons <$> (read v).under (.index n) <*> itemsFrom read (n + 1) vs

def listOf (read : Value → Checked α) (v : Value) : Checked (List α) :=
  match v.items? with
  | some items => itemsFrom read 0 items
  | none => issue .listType v

/-- A key that has to be a text, seen from the mapping. -/
def textKey (key : Value) : Checked String := ((text key).under (.name "[key]")).under (.ofKey key)

/-- Checks the entries of a mapping from texts. -/
def namedEntries (read : Value → Checked α) : List (Value × Value) → Checked (List (String × α))
  | [] => valid []
  | (k, v) :: es =>
    (fun key value rest => (key, value) :: rest) <$> textKey k <*> (read v).under (.ofKey k)
      <*> namedEntries read es

def mappingOf (read : Value → Checked α) (v : Value) : Checked (List (String × α)) :=
  match v.entries? with
  | some entries =>
    (·.foldl (fun found (name, a) => putNamed name a found) []) <$> namedEntries read entries
  | none => issue .mappingType v

/-- The first of several names that is a key, with its value. -/
def lookup (entries : Entries) : List String → Option (String × Value)
  | [] => none
  | name :: names =>
    match entries.get? name with
    | some v => some (name, v)
    | none => lookup entries names

/-- A field that may be left out. -/
def fieldOr (default : α) (entries : Entries) (names : List String) (read : Value → Checked α) :
    Checked α :=
  match lookup entries names with
  | some (name, v) => (read v).under (.name name)
  | none => valid default

/-- A field that has to be there. -/
def field (entries : Entries) (whole : Value) (names : List String) (read : Value → Checked α) :
    Checked α :=
  match lookup entries names with
  | some (name, v) => (read v).under (.name name)
  | none => invalid ⟨[.name (names.headD "")], .missing, whole⟩ []

/-- The names under which fields were found. -/
def usedNames (entries : Entries) (fields : List (List String)) : List String :=
  fields.filterMap fun names => (lookup entries names).map (·.1)

/-- The entries whose keys are no fields. A key that is no text is an issue. -/
def extras (used : List String) : List (Value × Value) → Checked (List (String × Value))
  | [] => valid []
  | (k, v) :: es =>
    match k with
    | .str s => if s ∈ used then extras used es else ((s, v) :: ·) <$> extras used es
    | _ =>
      (fun (_ : Unit) rest => rest) <$> (issue .invalidKey k).under (.ofKey k) <*> extras used es

/-- No entry may have a key that is no field. -/
def noExtras (used : List String) : List (Value × Value) → Checked Unit
  | [] => valid ()
  | (k, v) :: es =>
    match k with
    | .str s =>
      if s ∈ used then noExtras used es
      else (fun (_ _ : Unit) => ()) <$> (issue .extraForbidden v).under (.name s) <*>
        noExtras used es
    | _ => (fun (_ _ : Unit) => ()) <$> (issue .invalidKey k).under (.ofKey k) <*> noExtras used es

end ApiDoc.Checked
