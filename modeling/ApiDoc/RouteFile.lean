import ApiDoc.Api
import ApiDoc.Files.Disk
import ApiDoc.Text.Utf8
import ApiDoc.Yaml.Reader

/-!
# Route files

A route file is a YAML text whose value is a mapping. Under `document` it has the configuration of
the document, and under `routers` the routers, in order; without routers it has none. JSON is read
in the same way, being YAML.
-/

namespace ApiDoc

/-- What a route file says. -/
structure RouteFile where
  config : DocumentConfig
  routers : List Router

/-- Why there is no document for a route file. -/
inductive Failure where
  /-- The file cannot be read or the output cannot be written. -/
  | file (e : FileError)
  /-- The file is not text. -/
  | decoding (e : Text.DecodeError)
  /-- The text is not YAML. -/
  | unparsed (path : String)
  /-- A scalar of the text has no value. -/
  | scalar (e : Yaml.ScalarError)
  | noMapping (path : String)
  | noDocument (path : String)
  /-- The content of the file is at fault. -/
  | content (e : Error)

namespace Failure

def message : Failure → String
  | file e => e.message
  | decoding e => e.message
  | unparsed path => "Cannot parse " ++ path
  | scalar e => e.message
  | noMapping path => path ++ " must contain a mapping at the top level"
  | noDocument path => path ++ " has no 'document' section"
  | content e => e.message

/-- Whether a failure is one of the documented ones. -/
def isDocumented : Failure → Bool
  | unparsed _ | noMapping _ | noDocument _ => true
  | content e => e.isDocumented
  | file _ | decoding _ | scalar _ => false

end Failure

namespace RouteFile

def readRouters (v : Value) : Except Error (List Router) :=
  if v.isFalsy then .ok []
  else
    match v.iterate? with
    | .error f => .error (.fault f)
    | .ok items => items.mapM Router.ofValue

/-- Reads the value of the file at a path. -/
def ofValue (path : String) (v : Value) : Except Failure RouteFile :=
  match v.entries? with
  | some entries =>
    match Entries.get? entries "document" with
    | none => .error (.noDocument path)
    | some document => Except.mapError .content do
      let config ← DocumentConfig.ofValue document
      let routers ← readRouters ((Entries.get? entries "routers").getD .null)
      return { config, routers }
  | none => .error (.noMapping path)

/-- Reads the text of the file at a path. -/
def ofText (path : String) (text : List Char) : Except Failure RouteFile :=
  match Yaml.read text with
  | .ok v => ofValue path v
  | .error (.malformed _) => .error (.unparsed path)
  | .error (.scalar e) => .error (.scalar e)

/-- Reads the bytes of the file at a path. -/
def ofBytes (path : String) (bytes : List UInt8) : Except Failure RouteFile :=
  match Text.decode bytes with
  | .error e => .error (.decoding e)
  | .ok text => ofText path (Text.unifyLines text)

/-- Reads a file of a disk. -/
def load (disk : Disk) (path : FilePath) : Except Failure RouteFile :=
  match disk.read path with
  | .error e => .error (.file e)
  | .ok bytes => ofBytes path.text bytes

/-- The routes of all routers, in order, below a given path or else each router's own. -/
def api (f : RouteFile) (mount : Option String) : Api :=
  f.routers.foldl (fun api r => api.addRouter r mount) {}

/-- What collecting these routes reports. -/
def notices (f : RouteFile) (mount : Option String) : List Notice :=
  f.routers.flatMap (·.notices mount)

end RouteFile

end ApiDoc
