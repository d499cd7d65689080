import ApiDoc.Yaml.Error

/-!
# Tokens of YAML

A text is first cut into tokens. The tokens of block collections are not written in the text: they
come from the indentation of lines, and the token before a simple key from the colon after it.
-/

namespace ApiDoc.Yaml

/-- A directive for the document that follows. -/
inductive Directive where
  | version (major minor : Nat)
  /-- A handle and what it stands for. -/
  | tag (handle expansion : String)
  | unknown
  deriving DecidableEq, Repr

/-- The smallest parts of a text that mean something. -/
inductive Token where
  | directive (d : Directive)
  | documentStart
  | documentEnd
  | streamEnd
  | blockSequence
  | blockMapping
  | blockEnd
  | flowSequence
  | flowSequenceEnd
  | flowMapping
  | flowMappingEnd
  /-- The hyphen before an item of a block sequence. -/
  | item
  /-- The comma between the entries of a flow collection. -/
  | comma
  | key
  | value
  | alias (name : String)
  | anchor (name : String)
  /-- A tag: a handle, if it has one, and the rest. -/
  | tag (handle : Option String) (suffix : String)
  /-- A scalar, which is plain when it is written without quotes or a block head. -/
  | scalar (plain : Bool) (text : String)
  /-- A scalar in double quotes with codes that no character has. -/
  | brokenScalar (codes : List Nat)
  deriving DecidableEq, Repr

/-- The tokens of a text, as far as they are known before what is wrong in it, if anything is. -/
structure Tokens where
  tokens : List Token
  error : Option Error := none

end ApiDoc.Yaml
