import ApiDoc.Schema.Translation
import ApiDoc.Validation.Report

/-!
# What can go wrong

Every failure of the library, with its message. The documented failures are those of the caller's
input: a configuration, a schema, a reference. A `fault` is an operation that some input's type
does not have; nobody promises anything about it.
-/

namespace ApiDoc

/-- The parts of the input that are validated as a whole. -/
inductive Section where
  | document
  | options
  | router
  deriving DecidableEq, Repr

namespace Section

/-- The name of the model that a part is read as. -/
def model : Section → String
  | document => "DocumentConfig"
  | options => "GeneratorConfig"
  | router => "RouterSource"

/-- The first line of the message about a part. -/
def headline : Section → String
  | document => "Invalid document configuration:"
  | options => "Invalid generator options:"
  | router => "Invalid router definition:"

end Section

/-- A failure. -/
inductive Error where
  /-- A part of the input has issues. -/
  | invalid (part : Section) (first : Issue) (rest : List Issue)
  /-- A response is declared for something that is no status. -/
  | badStatus (status : String)
  /-- A schema cannot be translated. -/
  | translation (e : TranslationError)
  /-- A pointer refers to a definition that is not there. -/
  | dangling (name pointer : String)
  | fault (f : Fault)

namespace Error

/-- The text about a pointer to a missing definition. -/
def danglingMessage (name pointer : String) : String :=
  "Reference " ++ Text.quoted pointer ++ " has no matching definition " ++ Text.quoted name

/-- The message of a failure. -/
def message : Error → String
  | invalid part first rest =>
    part.headline ++ "\n" ++ Issue.report part.model (first :: rest)
  | badStatus status => "Invalid response status code " ++ Text.quoted status
  | translation e => e.message
  | dangling name pointer => danglingMessage name pointer
  | fault f => f.message

/-- Whether a failure is one of the documented ones. -/
def isDocumented : Error → Bool
  | translation (.badPattern _ (.refused _)) => false
  | translation (.boundsReversed min max) => min.hasText && max.hasText
  | fault _ => false
  | _ => true

end Error

/-- The value of a validated part, or the failure. -/
def Checked.toExcept {α : Type} (part : Section) : Checked α → Except Error α
  | .valid a => .ok a
  | .invalid first rest => .error (.invalid part first rest)
  | .aborted f => .error (.fault f)

end ApiDoc
