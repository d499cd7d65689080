import ApiDoc.Pattern.Reader
import ApiDoc.Schema.Basic
import ApiDoc.Schema.Node
import ApiDoc.Schema.Traced

/-!
# From validation schemas to schema objects

`Node.translate` turns a node into a schema object. A node with a tag becomes what the resolver
makes of the tag; any other node is translated itself, by `Node.inline`, with its parts translated
in turn.

**Faults.** A node that is translated itself must have a known kind, bounds in order, a pattern
that is a regular expression, and the parts that its kind asks for. The first fault in depth-first
order, a node before its parts, is the error.

**Alternatives.** A schema object has no place for alternatives, so the first branch stands for all
of them, and all branches are listed under `x-alternatives`.
-/

namespace ApiDoc

/-- Why a node has no schema object. -/
inductive TranslationError where
  | unknownKind (kind : String)
  | boundsReversed (min max : Number)
  | badPattern (pattern : String) (error : Pattern.Error)
  | emptyEnum
  | missingItems
  | noBranches
  deriving DecidableEq, Repr

/-- The sentence for a fault of a node. Bounds that are too long for decimal digits cannot be
told. -/
def TranslationError.message : TranslationError → String
  | unknownKind kind => "Unknown schema kind " ++ Text.quoted kind
  | boundsReversed min max =>
    if min.hasText && max.hasText then s!"min ({min.text}) is greater than max ({max.text})"
    else Number.tooLong
  | badPattern pattern error =>
    let text := error.message pattern.toList
    match error with
    | .at .. | .whole _ => "Invalid pattern " ++ Text.quoted pattern ++ ": " ++ text
    | .refused _ => text
  | emptyEnum => "Enum constraint must list at least one value"
  | missingItems => "Array node is missing 'items'"
  | noBranches => "Alternatives node has no branches"

/-- A translation under way: the references met and the outcome. -/
abbrev Translation := Traced TranslationError

namespace Node

/-! ## A node without its parts -/

/-- The kind of a node, if it is a known one. -/
def kind? (n : Node) : Except TranslationError Kind :=
  match Kind.ofName? n.kind with
  | some k => .ok k
  | none => .error (.unknownKind n.kind)

/-- The lower bound may not exceed the upper one. -/
def checkBounds (n : Node) : Except TranslationError Unit :=
  match n.min, n.max with
  | some a, some b => if a.exceeds b then .error (.boundsReversed a b) else .ok ()
  | _, _ => .ok ()

/-- The pattern of a node has to be a regular expression. -/
def checkPattern (n : Node) : Except TranslationError Unit :=
  match n.pattern with
  | none => .ok ()
  | some p =>
    match Pattern.check p.toList with
    | .ok () => .ok ()
    | .error e => .error (.badPattern p e)

/-- The values that a node allows, which have to be some. -/
def enumKeyword (n : Node) : Except TranslationError (Option Keyword) :=
  match n.enum with
  | none => .ok none
  | some [] => .error .emptyEnum
  | some values => .ok (some (.enum values))

def stringSchema (n : Node) : Except TranslationError Schema := do
  n.checkPattern
  let enum ← n.enumKeyword
  return Schema.put? (Schema.put? (Schema.put? (Schema.put? (Schema.put? [.type .string]
    (n.min.map (.bound .minLength))) (n.max.map (.bound .maxLength)))
    (n.pattern.map .pattern)) (n.format.map .format)) enum

def numberSchema (type : SchemaType) (n : Node) : Except TranslationError Schema := do
  let enum ← n.enumKeyword
  return Schema.put? (Schema.put? (Schema.put? (Schema.put? [.type type]
    (n.format.map .format)) (n.min.map (.bound .minimum))) (n.max.map (.bound .maximum))) enum

/-- The schema of a date; the format may be narrowed. -/
def dateSchema (n : Node) : Schema :=
  let format := match n.format with
    | some f => if f.isEmpty then "date-time" else f
    | none => "date-time"
  [.type .string, .format format]

/-- The names of the parts that have to be there. -/
def requiredNames (parts : List (String × Node)) : List String :=
  (parts.filter (·.2.required)).map (·.1)

/-- The schema of an object whose parts have been translated. -/
def objectSchema (n : Node) (members : List (String × Schema)) : Schema :=
  let required := requiredNames (n.properties.getD [])
  Schema.put? (Schema.put? (Schema.put? [.type .object]
    (if members.isEmpty then none else some (.properties members)))
    (if required.isEmpty then none else some (.required required)))
    (n.additionalProperties.map .additionalProperties)

/-- The schema of an array whose items have been translated. -/
def arraySchema (n : Node) (items : Schema) : Schema :=
  Schema.put? (Schema.put? [.type .array, .items items]
    (n.min.map (.bound .minItems))) (n.max.map (.bound .maxItems))

/-- The schema of alternatives whose branches have been translated: what the first branch says,
with all branches. A reference stands apart, since what is beside it does not count. -/
def branchSchema (first : Schema) (rest : List Schema) : Schema :=
  let base : Schema := if Schema.isReference first then [.allOf [first]] else first
  Schema.put base (.branches (first :: rest))

/-- Adds what any node can say about itself. -/
def annotate (n : Node) (s : Schema) : Schema :=
  let default := match n.defaultValue with
    | .null => none
    | v => some (.defaultValue v)
  let sample := match n.exampleValue with
    | .null => none
    | v => some (.exampleValue v)
  Schema.put? (Schema.put? (Schema.put? s (n.description.map .description)) default) sample

/-- The schema of a node of a kind that has no parts. -/
def leafSchema (n : Node) : Kind → Except TranslationError Schema
  | .string => n.stringSchema
  | .number => n.numberSchema .number
  | .integer => n.numberSchema .integer
  | .boolean => .ok [.type .boolean]
  | .date => .ok n.dateSchema
  | _ => .ok []

/-! ## Translation -/

mutual

/-- Translates a node. A tag counts only when `tagged` holds. -/
def translateTagged (resolve : String → Schema) (tagged : Bool) : Node → Translation Schema
  | ⟨kind, description, required, min, max, pattern, enum, format, defaultValue, exampleValue,
      items, properties, alternatives, additionalProperties, ref⟩ =>
    let n : Node := ⟨kind, description, required, min, max, pattern, enum, format, defaultValue,
      exampleValue, items, properties, alternatives, additionalProperties, ref⟩
    match if tagged then n.tag? else none with
    | some r => .met r (resolve r)
    | none => do
      -- The kind counts before the bounds, and these before the parts.
      let kind ← .lift n.kind?
      .lift n.checkBounds
      let schema ← match kind with
        | .object => n.objectSchema <$> translateMembers resolve properties
        | .array => n.arraySchema <$> translateItems resolve items
        | .alternatives => translateBranches resolve alternatives
        | k => .lift (n.leafSchema k)
      return n.annotate schema

/-- Translates the items of an array, which have to be there. -/
def translateItems (resolve : String → Schema) : Option Node → Translation Schema
  | none => .fail .missingItems
  | some n => translateTagged resolve true n

/-- Translates the parts of an object. -/
def translateMembers (resolve : String → Schema) :
    Option (List (String × Node)) → Translation (List (String × Schema))
  | none => pure []
  | some parts => translateNamed resolve parts

def translateNamed (resolve : String → Schema) :
    List (String × Node) → Translation (List (String × Schema))
  | [] => pure []
  | (name, n) :: parts => do
    let s ← translateTagged resolve true n
    return (name, s) :: (← translateNamed resolve parts)

/-- Translates the branches of alternatives, of which there has to be one. -/
def translateBranches (resolve : String → Schema) : Option (List Node) → Translation Schema
  | none => .fail .noBranches
  | some [] => .fail .noBranches
  | some (n :: ns) => do
    let first ← translateTagged resolve true n
    return branchSchema first (← translateList resolve ns)

def translateList (resolve : String → Schema) : List Node → Translation (List Schema)
  | [] => pure []
  | n :: ns => do
    let s ← translateTagged resolve true n
    return s :: (← translateList resolve ns)

end

/-- Translates a node: its tag, if it has one, or else the node itself. -/
def translate (resolve : String → Schema) (n : Node) : Translation Schema :=
  translateTagged resolve true n

/-- Translates a node itself, whether it has a tag or not. -/
def inline (resolve : String → Schema) (n : Node) : Translation Schema :=
  translateTagged resolve false n

end Node

end ApiDoc
