import ApiDoc.OpenApi.Finding
import ApiDoc.Schema.Simple
import ApiDoc.Text.Quoted
import ApiDoc.Value.Order

/-!
# Rules for values

A rule lists what it finds wrong with a value. Rules are built from a few forms: tests of scalars,
lists, closed records with extensions, mappings from names, and choices between rules. A record
makes its demands in an order of its own, which decides what is found first.

**Extensions.** A record accepts any entry whose name begins with `x-`. To find these, it compares
every name that it does not know with a pattern, which a key that is no text does not survive.

**Choices.** A choice tries its rules in order. It does not say what is wrong with a branch, but an
obstacle in a branch is one of the choice.
-/

namespace ApiDoc.OpenApi

/-- What is wrong with a value. -/
abbrev Rule := Value → List Finding

namespace Rule

/-- The rule that a test passes. -/
def test (p : Value → Bool) : Rule := fun v => if p v then [] else [.violation]

/-! ## Scalars -/

def anything : Rule := fun _ => []

/-- The characters of a text, with U+FFFD for each code that no character has. -/
def characters? : Value → Option (List Char)
  | .str s => some s.toList
  | .brokenText codes => some (codes.map fun n => (Text.charOf? n).getD '\uFFFD')
  | _ => none

/-- A text with a property. -/
def textWith (p : List Char → Bool) : Rule := test fun v => (characters? v).any p

def text : Rule := textWith fun _ => true

/-- One of a few texts. -/
def word (ws : List String) : Rule := test fun
  | .str s => s ∈ ws
  | _ => false

def flag : Rule := test fun
  | .bool _ => true
  | _ => false

/-- The truth value `true`. -/
def yes : Rule := test fun
  | .bool b => b
  | _ => false

def number : Rule := test fun
  | .number _ => true
  | _ => false

/-- A number that is not zero or less. -/
def positive : Rule := test fun
  | .number n => n.compare (.int 0) ∉ [some .lt, some .eq]
  | _ => false

/-- A count: an integer that is not negative. -/
def count : Rule := test fun
  | .number (.int n) => 0 ≤ n
  | _ => false

/-! ## Lists -/

/-- A list of values that follow a rule. -/
def listOf (item : Rule) (atLeast : Nat := 0) : Rule := fun v =>
  match v.listItems? with
  | some vs => (if vs.length < atLeast then [.violation] else []) ++ vs.flatMap item
  | none => [.violation]

/-- A list of different values that follow a rule. -/
def setOf (item : Rule) (atLeast : Nat := 0) : Rule := fun v =>
  match v.listItems? with
  | some vs => listOf item atLeast v ++ if Value.areDistinct vs then [] else [.violation]
  | none => [.violation]

/-! ## Mappings -/

/-- What is wrong with names that a mapping does not know: a name that no pattern fits is a
violation. -/
def unknownKeys (fits : String → Bool) (keys : List Value) : List Finding :=
  match keys.find? fun k => (characters? k).isNone with
  | some k => [.obstacle (.key k)]
  | none => Finding.require (keys.all fun k => (characters? k).any fun cs => fits (.ofList cs))

/-- The violations for required names that are missing. -/
def missingNames (required : List String) (entries : Entries) : List Finding :=
  required.flatMap fun name => if Entries.has entries name then [] else [.violation]

/-- What fields find wrong with entries. -/
def fieldFindings (fields : List (String × Rule)) (entries : Entries) : List Finding :=
  fields.flatMap fun (name, r) =>
    match Entries.get? entries name with
    | some v => r v
    | none => []

/-- The keys of entries that are none of the given names. -/
def keysBeyond (names : List String) (entries : Entries) : List Value :=
  (entries.map (·.1)).filter fun
    | .str s => s ∉ names
    | _ => true

/-- A demand on a record. -/
inductive Demand where
  /-- Names that have to be there. -/
  | names (required : List String)
  /-- No name beside the fields but extensions. -/
  | closed
  /-- The rules of the fields. -/
  | fields

/-- What a demand finds wrong with entries. -/
def Demand.findings (fields : List (String × Rule)) (entries : Entries) : Demand → List Finding
  | names required => missingNames required entries
  | closed => unknownKeys isExtension (keysBeyond (fields.map (·.1)) entries)
  | .fields => fieldFindings fields entries

/-- A mapping with some fields, for which demands hold in an order. -/
def record (demands : List Demand) (fields : List (String × Rule)) : Rule := fun v =>
  match v.entries? with
  | some es => demands.flatMap (·.findings fields es)
  | none => [.violation]

/-- A mapping from names to values that follow a rule. -/
def mapOf (value : Rule) : Rule := fun v =>
  match v.entries? with
  | some es => es.flatMap fun (_, v) => value v
  | none => [.violation]

/-- A mapping from the names with a property, and from extensions. -/
def namedBy (fits : String → Bool) (value : Rule) : Rule := fun v =>
  match v.entries? with
  | some es =>
    unknownKeys (fun s => fits s || isExtension s) (es.map (·.1))
      ++ es.flatMap fun
        | (.str s, v) => if fits s then value v else []
        | _ => []
  | none => [.violation]

/-- A mapping with at least one name that is no extension. -/
def notOnlyExtensions : Rule
  | .map _ es => if es.all fun | (.str s, _) => isExtension s | _ => false then [.violation] else []
  | _ => []

/-- What one rule finds, and then what another does. -/
def and (r s : Rule) : Rule := fun v => r v ++ s v

/-! ## Choices -/

/-- What is found after the first branch that accepts a value: a violation when there is one
more. -/
def furtherBranches (v : Value) : List Rule → List Finding
  | [] => []
  | r :: rs =>
    match r v with
    | [] => (furtherBranches v rs).filter (· matches .obstacle _) ++ [.violation]
    | .obstacle o :: _ => [.obstacle o]
    | .violation :: _ => furtherBranches v rs

/-- A value that exactly one rule accepts. -/
def oneOf (rules : List Rule) : Rule := fun v => go v rules
where
  /-- Tries the rules in order. -/
  go (v : Value) : List Rule → List Finding
    | [] => [.violation]
    | r :: rs =>
      let found := r v
      match firstObstacle? found with
      | some o => [.obstacle o]
      | none => if found.isEmpty then furtherBranches v rs else go v rs

/-- A value that some rule accepts. -/
def anyOf (rules : List Rule) : Rule := fun v => go v rules
where
  /-- Tries the rules in order. -/
  go (v : Value) : List Rule → List Finding
    | [] => [.violation]
    | r :: rs =>
      let found := r v
      match firstObstacle? found with
      | some o => [.obstacle o]
      | none => if found.isEmpty then [] else go v rs

end Rule

end ApiDoc.OpenApi
