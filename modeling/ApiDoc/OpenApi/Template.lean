/-!
# Names in path templates

A path template has names in braces, `/pets/{petId}`. A brace that is written twice stands for
itself. After a colon or an exclamation mark a name has a format, which says nothing here. Square
brackets keep these marks inside a name.
-/

namespace ApiDoc.OpenApi

/-- Why a path is no template. -/
inductive TemplateError where
  | lone (brace : Char)
  | braceInName
  | openName
  | openConversion
  | badConversion
  | openFormat
  deriving DecidableEq, Repr

/-- The sentence about a path that is no template. -/
def TemplateError.message : TemplateError → String
  | lone brace => s!"Single '{brace}' encountered in format string"
  | braceInName => "unexpected '\x7b' in field name"
  | openName => "expected '\x7d' before end of string"
  | openConversion => "end of string while looking for conversion specifier"
  | badConversion => "expected ':' after conversion specifier"
  | openFormat => "unmatched '\x7b' in format spec"

namespace Template

/-- Where the reading of a template stands. A name that is being read is kept in reverse order. -/
inductive Mode where
  | text
  /-- After a brace. -/
  | brace (c : Char)
  | name (read : List Char)
  /-- In square brackets within a name. -/
  | bracket (read : List Char)
  /-- After an exclamation mark. -/
  | mark (name : List Char)
  /-- After the character that an exclamation mark asks for. -/
  | converted (name : List Char)
  /-- In a format, inside of a number of braces. -/
  | format (name : List Char) (depth : Nat)

/-- A step in a name: what to go on with, and the name when it is complete. -/
def nameStep (read : List Char) (c : Char) : Except TemplateError (Mode × Option (List Char)) :=
  if c = '\x7b' then .error .braceInName
  else if c = '\x7d' then .ok (.text, some read.reverse)
  else if c = '[' then .ok (.bracket (c :: read), none)
  else if c = ':' then .ok (.format read.reverse 1, none)
  else if c = '!' then .ok (.mark read.reverse, none)
  else .ok (.name (c :: read), none)

def formatStep (name : List Char) (depth : Nat) (c : Char) : Mode × Option (List Char) :=
  if c = '\x7b' then (.format name (depth + 1), none)
  else if c = '\x7d' then
    if depth ≤ 1 then (.text, some name) else (.format name (depth - 1), none)
  else (.format name depth, none)

def step (mode : Mode) (c : Char) : Except TemplateError (Mode × Option (List Char)) :=
  match mode with
  | .text => .ok (if c = '\x7b' || c = '\x7d' then .brace c else .text, none)
  | .brace b =>
    if c = b then .ok (.text, none)
    else if b = '\x7d' then .error (.lone b)
    else nameStep [] c
  | .name read => nameStep read c
  | .bracket read => .ok (if c = ']' then .name (c :: read) else .bracket (c :: read), none)
  | .mark name => .ok (.converted name, none)
  | .converted name =>
    if c = '\x7d' then .ok (.text, some name)
    else if c = ':' then .ok (.format name 1, none)
    else .error .badConversion
  | .format name depth => .ok (formatStep name depth c)

/-- What is wrong with a template that ends here. -/
def endError? : Mode → Option TemplateError
  | .text => none
  | .brace c => some (.lone c)
  | .name _ | .bracket _ => some .openName
  | .mark _ => some .openConversion
  | .converted _ | .format .. => some .openFormat

/-- The names in a template, from a mode on. -/
def scan (mode : Mode) : List Char → Except TemplateError (List (List Char))
  | [] =>
    match endError? mode with
    | some e => .error e
    | none => .ok []
  | c :: cs => do
    let (mode, found) ← step mode c
    return found.toList ++ (← scan mode cs)

/-- The names in a path, in order. Braces with nothing between them name nothing. -/
def names (path : String) : Except TemplateError (List String) := do
  let found ← scan .text path.toList
  return (found.filter (· ≠ [])).map .ofList

end Template

end ApiDoc.OpenApi
