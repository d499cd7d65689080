import ApiDoc.Text.Encoding
import ApiDoc.Value.Shown

/-!
# What validation finds

**Issues.** An `Issue` says where in the input something is wrong, what is wrong there and what the
input is at that place. Validation collects all issues of an input.

**Faults.** A `Fault` is an operation that the input's type does not have, such as going through
the items of a number. It ends the work at once, whatever issues were found before.
-/

namespace ApiDoc

/-- One step from a value to a part of it. -/
inductive Step where
  | name (s : String)
  | index (n : Int)
  deriving DecidableEq, Repr

namespace Step

/-- The characters that stand for a code: three replacement characters where it is no character, one
for each byte that it would take. -/
def charsOfCode (n : Nat) : List Char :=
  match Text.charOf? n with
  | some c => [c]
  | none => List.replicate 3 '\uFFFD'

/-- The step to the value at a key: text stands for itself, an integer of 64 bits is an index, any
other key is named by its shown form. -/
def ofKey (key : Value) : Step :=
  match key with
  | .str s => .name s
  | .brokenText codes => .name (.ofList (codes.flatMap charsOfCode))
  | .bool b => .index (if b then 1 else 0)
  | .number (.int n) => if Number.isWord n then .index n else .name (toString n)
  | v => .name v.shown

/-- The text of a step; a name with a point in it is set apart. -/
def text : Step → String
  | name s => if s.contains '.' then "`" ++ s ++ "`" else s
  | index n => toString n

end Step

/-- What is wrong with a part of an input. -/
inductive IssueKind where
  | missing
  | extraForbidden
  | invalidKey
  | stringType
  | stringUnicode
  | integerType
  | integerParsing
  | integerSize
  | numberType
  | numberParsing
  | boolType
  | boolParsing
  | mappingType
  | listType
  /-- The input is no mapping where the named model is expected. -/
  | modelType (model : String)
  /-- A container stands where it is read already. -/
  | recursionLoop
  /-- A rule of the model is broken; the message says which. -/
  | rule (message : String)
  deriving DecidableEq, Repr

namespace IssueKind

/-- The short name of a kind of issue. -/
def code : IssueKind → String
  | missing => "missing"
  | extraForbidden => "extra_forbidden"
  | invalidKey => "invalid_key"
  | stringType => "string_type"
  | stringUnicode => "string_unicode"
  | integerType => "int_type"
  | integerParsing => "int_parsing"
  | integerSize => "int_parsing_size"
  | numberType => "float_type"
  | numberParsing => "float_parsing"
  | boolType => "bool_type"
  | boolParsing => "bool_parsing"
  | mappingType => "dict_type"
  | listType => "list_type"
  | modelType _ => "model_type"
  | recursionLoop => "recursion_loop"
  | rule _ => "value_error"

/-- The sentence that says what is wrong. -/
def message : IssueKind → String
  | missing => "Field required"
  | extraForbidden => "Extra inputs are not permitted"
  | invalidKey => "Keys should be strings"
  | stringType => "Input should be a valid string"
  | stringUnicode => "Input should be a valid string, unable to parse raw data as a unicode string"
  | integerType => "Input should be a valid integer"
  | integerParsing => "Input should be a valid integer, unable to parse string as an integer"
  | integerSize => "Unable to parse input string as an integer, exceeded maximum size"
  | numberType => "Input should be a valid number"
  | numberParsing => "Input should be a valid number, unable to parse string as a number"
  | boolType => "Input should be a valid boolean"
  | boolParsing => "Input should be a valid boolean, unable to interpret input"
  | mappingType => "Input should be a valid dictionary"
  | listType => "Input should be a valid list"
  | modelType model => s!"Input should be a valid dictionary or instance of {model}"
  | recursionLoop => "Recursion error - cyclic reference detected"
  | rule message => "Value error, " ++ message

end IssueKind

/-- Something wrong at a place of an input. -/
structure Issue where
  /-- The steps from the whole input to the place. -/
  location : List Step
  kind : IssueKind
  /-- What the input is at that place. -/
  input : Value
  deriving Repr

/-- An operation that an input's type does not have. -/
inductive Fault where
  /-- Going through the items of something that has none. -/
  | notIterable (typeName : String)
  /-- Asking for a part that the type does not have. -/
  | noPart (typeName part : String)
  /-- Looking for a member in something that has none. -/
  | noMembership (typeName : String)
  /-- Joining texts one of which is none. -/
  | notText (position : Nat) (typeName : String)
  /-- Using a list, set or mapping as a key. -/
  | unhashable (typeName : String)
  /-- Telling a text with codes that are no characters. -/
  | encoding (e : Text.EncodingError)
  deriving DecidableEq, Repr

namespace Fault

/-- The sentence that says which operation failed. -/
def message : Fault → String
  | notIterable t => s!"'{t}' object is not iterable"
  | noPart t a => s!"'{t}' object has no attribute '{a}'"
  | noMembership t => s!"argument of type '{t}' is not iterable"
  | notText i t => s!"sequence item {i}: expected str instance, {t} found"
  | unhashable t => s!"unhashable type: '{t}'"
  | encoding e => e.message

end Fault

end ApiDoc
