import ApiDoc.OpenApi.Template
import ApiDoc.Pattern.Error
import ApiDoc.Text.Encoding
import ApiDoc.Validation.Issue

/-!
# Findings of a check

A check lists what it finds, in order. A violation says that the document is not valid. An obstacle
ends the check without an answer; what would come after it is never looked at. So the first finding
decides.
-/

namespace ApiDoc.OpenApi

/-- Why a reference leads to nothing. -/
inductive ReferenceError where
  /-- A pointer leads to nothing in a document. -/
  | nowhere (pointer : String) (document : Value)
  /-- A document has no part that is called by a name. -/
  | noAnchor (name : String) (document : Value)
  /-- What should be such a name has a slash. -/
  | badAnchor (name : String)
  /-- A reference to another document. -/
  | elsewhere (reference : String)
  /-- A step into a list or a text is no position. -/
  | noPosition (step : String)
  /-- A step into a value that has no parts. -/
  | noParts (typeName : String)

/-- The sentence about a reference. -/
def ReferenceError.message : ReferenceError → String
  | nowhere pointer document =>
    Text.quoted pointer ++ " does not exist within " ++ document.shown
      ++ (if pointer = "/" then
        ". The pointer '/' is a valid JSON Pointer but it points to an empty string property ''. "
          ++ "If you intended to point to the entire resource, you should use '#'."
      else "")
  | noAnchor name document => Text.quoted name ++ " does not exist within " ++ document.shown
  | badAnchor name =>
    s!"'#{name}' is not a valid anchor, neither as a plain name anchor nor as a JSON Pointer. "
      ++ s!"You may have intended to use '#/{name}', as the slash is required *before each "
      ++ "segment* of a JSON pointer."
  | elsewhere reference => reference
  | noPosition step => "invalid literal for int() with base 10: " ++ Text.quoted step
  | noParts typeName => s!"'{typeName}' object is not subscriptable"

/-- What ends a check without an answer. -/
inductive Obstacle where
  /-- A key to compare with a pattern is no text. -/
  | key (k : Value)
  | fault (f : Fault)
  | template (e : TemplateError)
  /-- A reference cannot be followed. -/
  | reference (e : ReferenceError)
  /-- A text is no pattern. -/
  | pattern (text : List Char) (e : Pattern.Error)
  /-- A text is not in the encoding that its format asks for. -/
  | encoding (e : Text.EncodingError)
  /-- The document is of no known version. -/
  | version

/-- The sentence about an obstacle. -/
def Obstacle.message : Obstacle → String
  | key (.bytes _) => "cannot use a string pattern on a bytes-like object"
  | key k => s!"expected string or bytes-like object, got '{k.qualifiedTypeName}'"
  | fault f => f.message
  | template e => e.message
  | reference e => e.message
  | pattern text e => e.message text
  | encoding e => e.message
  | version => ""

/-- One finding of a check. -/
inductive Finding where
  | violation
  | obstacle (o : Obstacle)

/-- A violation unless a condition holds. -/
def Finding.require (holds : Bool) : List Finding := if holds then [] else [.violation]

/-- The first obstacle among findings. -/
def firstObstacle? (findings : List Finding) : Option Obstacle :=
  findings.findSome? fun
    | .obstacle o => some o
    | .violation => none

/-- The answer of a check. -/
inductive Verdict where
  | valid
  | invalid
  | stopped (o : Obstacle)

/-- The answer that findings give. -/
def Verdict.ofFindings : List Finding → Verdict
  | [] => .valid
  | .violation :: _ => .invalid
  | .obstacle o :: _ => .stopped o

end ApiDoc.OpenApi
