import ApiDoc.Validation.Checked

/-!
# Reports of issues

The text that lists all issues of an input, for people to read.
-/

namespace ApiDoc

/-- The longest front of a text that takes at most `n` bytes. -/
def takeBytes (n : Nat) : List Char → List Char
  | [] => []
  | c :: cs => if c.utf8Size ≤ n then c :: takeBytes (n - c.utf8Size) cs else []

/-- The text of a value, with the middle left out when it takes more than fifty bytes. -/
def excerpt (s : String) : String :=
  if s.utf8ByteSize ≤ 50 then s
  else
    let cs := s.toList
    .ofList (takeBytes 25 cs ++ ['.', '.', '.'] ++ (takeBytes 24 cs.reverse).reverse)

namespace Issue

/-- The place, the sentence and the input of an issue. -/
def text (i : Issue) : String :=
  let place :=
    if i.location.isEmpty then "" else ".".intercalate (i.location.map Step.text) ++ "\n"
  let code := i.kind.code
  place ++ "  " ++ i.kind.message
    ++ s!" [type={code}, input_value={excerpt i.input.shown}, input_type={i.input.typeName}]\n"
    ++ "    For further information visit https://errors.pydantic.dev/2.14/v/" ++ code

/-- All issues of an input for a model. -/
def report (model : String) (issues : List Issue) : String :=
  let count := issues.length
  let errors := if count = 1 then "error" else "errors"
  "\n".intercalate (s!"{count} validation {errors} for {model}" :: issues.map text)

end Issue

end ApiDoc
