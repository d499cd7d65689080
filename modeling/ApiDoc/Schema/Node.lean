import ApiDoc.Value.Basic

/-!
# Validation schemas

A `Node` describes one value that a route accepts: its kind, its constraints and its parts. The
kind is kept as the text it was given as; only translation asks whether it is a known one.
-/

namespace ApiDoc

/-- The kinds of values that schemas can describe. -/
inductive Kind where
  | string
  | number
  | integer
  | boolean
  | date
  | object
  | array
  | alternatives
  | any
  deriving DecidableEq, Repr

namespace Kind

def all : List Kind :=
  [string, number, integer, boolean, date, object, array, alternatives, any]

def name : Kind → String
  | string => "string"
  | number => "number"
  | integer => "integer"
  | boolean => "boolean"
  | date => "date"
  | object => "object"
  | array => "array"
  | alternatives => "alternatives"
  | any => "any"

def ofName? (s : String) : Option Kind := all.find? (·.name = s)

end Kind

/-- One node of a validation schema. What a node does not set is `none`, for a default or example
value `Value.null`. -/
structure Node where
  kind : String
  description : Option String := none
  required : Bool := false
  /-- The lower bound of a length, a number or a count, depending on the kind. -/
  min : Option Number := none
  /-- The upper bound of the same. -/
  max : Option Number := none
  pattern : Option String := none
  enum : Option (List Value) := none
  format : Option String := none
  defaultValue : Value := .null
  exampleValue : Value := .null
  /-- What the items of an array are. -/
  items : Option Node := none
  /-- The named parts of an object, in order. -/
  properties : Option (List (String × Node)) := none
  /-- The branches of which a value follows one. -/
  alternatives : Option (List Node) := none
  additionalProperties : Option Bool := none
  /-- The definition that stands for the node. -/
  ref : Option String := none

namespace Node

/-- The definition that stands for a node, unless its name is empty. -/
def tag? (n : Node) : Option String :=
  match n.ref with
  | some r => if r.isEmpty then none else some r
  | none => none

end Node

end ApiDoc
