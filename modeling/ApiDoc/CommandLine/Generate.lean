import ApiDoc.CommandLine.Console
import ApiDoc.OpenApi.Check
import ApiDoc.Yaml.Writer

/-!
# Generating a document

One run reads a route file, builds its document, checks it when asked to, and writes it to the
output file, as JSON when the name of that file ends in `.json` and otherwise as YAML. A text with
codes that are no characters is found only when the output file is open, which leaves the file
empty.
-/

namespace ApiDoc.CommandLine

/-- What is to be generated. -/
structure Request where
  /-- The route file. -/
  routes : FilePath
  /-- The output file. -/
  output : FilePath
  /-- The path that the routes are below, in place of each router's own. -/
  mount : Option String := none
  /-- Whether default responses are added. -/
  defaults : Bool := true
  /-- Whether the document is checked. -/
  check : Bool := false
  /-- Whether everything is reported. -/
  verbose : Bool := false

namespace Request

/-- The options of the generation. -/
def options (r : Request) : Options :=
  { defaultResponses := if r.defaults then none else some none }

/-- The text of a document in the output file. -/
def dump (r : Request) (document : Value) : Except Json.WriteError Json.Draft :=
  if r.output.ending = ".json" then Json.indented document
  else if document.hasLongInteger then .error .longInteger
  else .ok { text := Yaml.write document }

/-- Reads the route file and builds its document. -/
def build (r : Request) : Console Document := do
  Console.sayLine s!"Reading routes from {r.routes.text}..."
  match RouteFile.load (← get).disk r.routes with
  | .error f => Console.fail f
  | .ok file =>
    Console.log r.verbose (file.notices r.mount)
    let api := file.api r.mount
    Console.sayLine s!"Found {api.routes.length} routes."
    let (result, notices) := api.generate file.config r.options
    Console.log r.verbose notices
    match result with
    | .error e => Console.fail (.content e)
    | .ok document => return document

/-- Checks a document. What is wrong with it is not told, and the line stays open. -/
def checkDocument (check : Value → OpenApi.Verdict) (document : Value) : Console Unit := do
  match check document with
  | .valid => Console.sayLine "Document passed OpenAPI 2.0 validation."
  | .invalid =>
    Console.say "Error: Generated document is not valid OpenAPI 2.0: "
    throw .failed
  | .stopped o => throw (.escaped (.unchecked o))

/-- Writes the output file, in a directory that is made if need be. The file is emptied when it is
opened, before its text is put into bytes. -/
def save (r : Request) (document : Value) : Console Unit := do
  Console.change fun d => d.makeDirectories r.output.parent
  match r.dump document with
  | .error e => throw (.escaped (.unwritable e))
  | .ok draft =>
    Console.write r.output []
    match draft.flaw with
    | some e => throw (.escaped (.unencodable e))
    | none => Console.write r.output draft.text.toUTF8.toList

/-- Builds the document, and checks it by `check` when asked to. -/
def checked (check : Value → OpenApi.Verdict) (r : Request) : Console Value := do
  let document := (← r.build).toValue
  if r.check then checkDocument check document
  return document

def perform (check : Value → OpenApi.Verdict) (r : Request) : Console Unit := do
  r.save (← r.checked check)
  Console.sayLine s!"Spec saved to {r.output.text}"

end Request

end ApiDoc.CommandLine
