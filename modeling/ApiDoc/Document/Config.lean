import ApiDoc.Router.Reader

/-!
# Configuration

What the caller says about a document as a whole, and about how it is generated.
-/

namespace ApiDoc

open Checked (valid issue)

/-- What the caller says about a document. -/
structure DocumentConfig where
  info : List (String × Value)
  basePath : String
  swagger : String := "2.0"
  definitions : List (String × Node) := []
  tags : List (List (String × Value)) := []
  /-- Fields of the document that are copied as they are, in order. -/
  extra : List (String × Value) := []

namespace DocumentConfig

/-- A tag that is only a name, as a mapping. -/
def expandTag : Value → Value
  | .str s => .object [("name", .str s)]
  | v => v

/-- The list of tags with every tag a mapping. -/
def expandTags (v : Value) : Value :=
  match v.listItems? with
  | some items => .listOf (items.map expandTag)
  | none => v

def readTags (v : Value) : Checked (List (List (String × Value))) :=
  Checked.listOf (Checked.mappingOf Checked.any) (expandTags v)

def fieldNames : List (List String) :=
  [["info"], ["basePath", "base_path"], ["swagger"], ["definitions"], ["tags"]]

def read (v : Value) : Checked DocumentConfig :=
  match v.entries? with
  | some es =>
    (fun info basePath swagger definitions tags extra =>
      { info, basePath, swagger, definitions, tags, extra : DocumentConfig })
    <$> Checked.field es v ["info"] (Checked.mappingOf Checked.any)
    <*> Checked.field es v ["basePath", "base_path"] Checked.text
    <*> Checked.fieldOr "2.0" es ["swagger"] Checked.text
    <*> Checked.fieldOr [] es ["definitions"] (Checked.mappingOf Node.read)
    <*> Checked.fieldOr [] es ["tags"] readTags
    <*> Checked.extras (Checked.usedNames es fieldNames) es
  | none => issue (.modelType "DocumentConfig") v

end DocumentConfig

/-- Options of one generation. The default responses are the built-in one when they are not set,
none when they are set to nothing, or those that are given. -/
structure Options where
  defaultResponses : Option (Option (List (String × Output))) := none

namespace Options

/-- The response that is added when nothing is set. -/
def builtInResponses : List (String × Output) := [("200", { description := some "Success" })]

/-- The default responses that count. -/
def effectiveResponses (o : Options) : List (String × Output) :=
  match o.defaultResponses with
  | none => builtInResponses
  | some given => given.getD []

def fieldNames : List (List String) := [["defaultResponses", "default_responses"]]

/-- Reads options. Nothing at all stands for options that are not set. -/
def read (v : Value) : Checked Options :=
  match v, v.entries? with
  | .null, _ => valid {}
  | _, some es =>
    (fun defaultResponses (_ : Unit) => { defaultResponses : Options })
    <$> Checked.fieldOr none es ["defaultResponses", "default_responses"]
      (fun v => some <$> Checked.optional Output.readNamed v)
    <*> Checked.noExtras (Checked.usedNames es fieldNames) es
  | _, none => issue (.modelType "GeneratorConfig") v

end Options

end ApiDoc
