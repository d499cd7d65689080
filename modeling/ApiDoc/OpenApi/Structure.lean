import ApiDoc.OpenApi.Rule
import ApiDoc.Text.Property.Digit

/-!
# The structure of OpenAPI 2.0 documents

The rules that the parts of a document follow, from the scalars up to the whole document. Schemas
and the items of parameters contain others of their kind; their rules take the number of levels to
look at.
-/

namespace ApiDoc.OpenApi.Structure

open Rule

/-! ## Scalars and lists of them -/

/-- A list of media types. -/
def mediaTypes : Rule := setOf text

/-- The ways to reach a server. -/
def schemes : Rule := setOf (word ["http", "https", "ws", "wss"])

/-- The ways to write a list as one text. -/
def listFormats : List String := ["csv", "ssv", "tsv", "pipes"]

/-- Text without one newline at its end. -/
def withoutNewline (cs : List Char) : List Char :=
  if cs.getLast? = some '\n' then cs.dropLast else cs

/-- Whether text is the name of a host, with or without a number after a colon. -/
def isHost (cs : List Char) : Bool :=
  let inName (c : Char) : Bool := c ∉ ['\x7b', '\x7d', '/', ' ', ':', '\\']
  let number (ds : List Char) : Bool := ds ≠ [] && ds.all Text.isDecimal
  cs.takeWhile inName ≠ [] &&
    match cs.dropWhile inName with
    | [] => true
    | c :: ds => c = ':' && number (withoutNewline ds)

/-- Whether text begins with a slash. -/
def isRooted (cs : List Char) : Bool := cs.head? = some '/'

/-- Whether text is `default` or three digits. -/
def isStatus (cs : List Char) : Bool :=
  let cs := withoutNewline cs
  cs = "default".toList || cs.length = 3 && cs.all Char.isDigit

/-! ## Metadata -/

/-- Who to ask about an interface. -/
def contact : Rule := record [.closed, .fields] [("name", text), ("url", text), ("email", text)]

/-- The terms that an interface may be used on. -/
def license : Rule := record [.names ["name"], .closed, .fields] [("name", text), ("url", text)]

/-- What a document is about. -/
def info : Rule :=
  record [.names ["version", "title"], .closed, .fields]
    [("title", text), ("version", text), ("description", text), ("termsOfService", text),
      ("contact", contact), ("license", license)]

/-- Further documentation. -/
def externalDocs : Rule :=
  record [.closed, .names ["url"], .fields] [("description", text), ("url", text)]

/-- A tag with its description. -/
def tag : Rule :=
  record [.closed, .names ["name"], .fields]
    [("name", text), ("description", text), ("externalDocs", externalDocs)]

/-! ## Schemas -/

/-- How a value is written in XML. -/
def xml : Rule :=
  record [.closed, .fields]
    [("name", text), ("namespace", text), ("prefix", text), ("attribute", flag),
      ("wrapped", flag)]

def typeNames : List String :=
  ["array", "boolean", "integer", "null", "number", "object", "string"]

/-- One type or several ones. -/
def types : Rule := anyOf [word typeNames, setOf (word typeNames) 1]

/-- A list of different values, at least one. -/
def choices : Rule := setOf anything 1

/-- The constraints of numbers, and of the lengths of texts and lists. -/
def limits : List (String × Rule) :=
  [("maximum", number), ("exclusiveMaximum", flag), ("minimum", number),
    ("exclusiveMinimum", flag), ("maxLength", count), ("minLength", count), ("pattern", text),
    ("maxItems", count), ("minItems", count), ("uniqueItems", flag)]

/-- The constraints of values outside of a body. -/
def constraints : List (String × Rule) := limits ++ [("enum", choices), ("multipleOf", positive)]

/-- A schema of at most a number of levels. -/
def schema : Nat → Rule
  | 0, _ => []
  | n + 1, v =>
    record [.closed, .fields]
      ([("$ref", text), ("format", text), ("title", text), ("description", text),
        ("default", anything), ("multipleOf", positive)]
      ++ limits
      ++ [("maxProperties", count), ("minProperties", count), ("required", setOf text 1),
        ("enum", choices), ("additionalProperties", anyOf [schema n, flag]), ("type", types),
        ("items", anyOf [schema n, listOf (schema n) 1]), ("allOf", listOf (schema n) 1),
        ("properties", mapOf (schema n)), ("discriminator", text), ("readOnly", flag),
        ("xml", xml), ("externalDocs", externalDocs), ("example", anything)]) v

def fileSchema : Rule :=
  record [.closed, .names ["type"], .fields]
    [("format", text), ("title", text), ("description", text), ("default", anything),
      ("required", setOf text 1), ("type", word ["file"]), ("readOnly", flag),
      ("externalDocs", externalDocs), ("example", anything)]

/-! ## Parameters and headers -/

/-- The types of values outside of a body. -/
def simpleTypes : List String := ["string", "number", "integer", "boolean", "array"]

/-- The items of a list outside of a body. -/
def simpleItems : Nat → Rule
  | 0, _ => []
  | n + 1, v =>
    record [.closed, .fields]
      ([("type", word simpleTypes), ("format", text), ("items", simpleItems n),
        ("collectionFormat", word listFormats), ("default", anything)] ++ constraints) v

/-- The fields of a value outside of a body. -/
def simpleFields (depth : Nat) (types formats : List String) : List (String × Rule) :=
  [("type", word types), ("format", text), ("items", simpleItems depth),
    ("collectionFormat", word formats), ("default", anything)] ++ constraints

/-- A header of a response. -/
def header (depth : Nat) : Rule :=
  record [.closed, .names ["type"], .fields]
    (simpleFields depth simpleTypes listFormats ++ [("description", text)])

/-- The body of a request. -/
def bodyParameter (depth : Nat) : Rule :=
  record [.names ["name", "in", "schema"], .closed, .fields]
    [("description", text), ("name", text), ("in", word ["body"]), ("required", flag),
      ("schema", schema depth)]

/-- The fields of a parameter outside of the body. -/
def parameterFields (location : String) : List (String × Rule) :=
  [("in", word [location]), ("description", text), ("name", text)]

def headerParameter (depth : Nat) : Rule :=
  record [.closed, .fields]
    (("required", flag) :: parameterFields "header" ++ simpleFields depth simpleTypes listFormats)

def queryParameter (depth : Nat) : Rule :=
  record [.closed, .fields]
    ([("required", flag), ("allowEmptyValue", flag)] ++ parameterFields "query"
      ++ simpleFields depth simpleTypes (listFormats ++ ["multi"]))

def formParameter (depth : Nat) : Rule :=
  record [.closed, .fields]
    ([("required", flag), ("allowEmptyValue", flag)] ++ parameterFields "formData"
      ++ simpleFields depth (simpleTypes ++ ["file"]) (listFormats ++ ["multi"]))

def pathParameter (depth : Nat) : Rule :=
  record [.closed, .names ["required"], .fields]
    (("required", yes) :: parameterFields "path" ++ simpleFields depth simpleTypes listFormats)

/-- A mapping that has some names. -/
def having (required : List String) : Rule := record [.names required] []

def parameter (depth : Nat) : Rule :=
  oneOf
    [bodyParameter depth,
      (having ["name", "in", "type"]).and
        (oneOf [headerParameter depth, formParameter depth, queryParameter depth,
          pathParameter depth])]

/-- A reference, and nothing beside it. -/
def reference : Rule := test fun
  | .map _ [(.str "$ref", .str _)] => true
  | _ => false

def parameters (depth : Nat) : Rule := setOf (oneOf [parameter depth, reference])

/-! ## Operations and paths -/

def response (depth : Nat) : Rule :=
  record [.names ["description"], .fields, .closed]
    [("description", text), ("schema", oneOf [schema depth, fileSchema]),
      ("headers", mapOf (header depth)), ("examples", mapOf anything)]

/-- The responses of an operation: there is at least one. -/
def responses (depth : Nat) : Rule :=
  (namedBy (fun s => isStatus s.toList) (oneOf [response depth, reference])).and
    notOnlyExtensions

/-- What a caller has to show. -/
def security : Rule := setOf (mapOf (setOf text))

def operation (depth : Nat) : Rule :=
  record [.names ["responses"], .closed, .fields]
    [("tags", setOf text), ("summary", text), ("description", text),
      ("externalDocs", externalDocs), ("operationId", text), ("produces", mediaTypes),
      ("consumes", mediaTypes), ("parameters", parameters depth), ("responses", responses depth),
      ("schemes", schemes), ("deprecated", flag), ("security", security)]

/-- The methods that a path can have. -/
def methods : List String := ["get", "put", "post", "delete", "options", "head", "patch"]

/-- The operations of a path. -/
def pathItem (depth : Nat) : Rule :=
  record [.closed, .fields]
    (("$ref", text) :: methods.map (fun m => (m, operation depth))
      ++ [("parameters", parameters depth)])

/-- The paths of a document. -/
def paths (depth : Nat) : Rule := namedBy (fun s => isRooted s.toList) (pathItem depth)

/-! ## Security -/

/-- A scheme of a type, with further required fields of which each is one of a few texts or, without
any, any text. -/
def securityScheme (type : String) (fields : List (String × List String))
    (more : List (String × Rule) := []) : Rule :=
  record [.closed, .names ("type" :: fields.map (·.1)), .fields]
    ([("type", word [type]), ("description", text)]
      ++ fields.map (fun (name, ws) => (name, if ws.isEmpty then text else word ws)) ++ more)

/-- The access rights that a caller can ask for. -/
def scopes : List (String × Rule) := [("scopes", mapOf text)]

/-- The ways to show who is calling. -/
def securityDefinition : Rule :=
  oneOf
    [securityScheme "basic" [],
      securityScheme "apiKey" [("name", []), ("in", ["header", "query"])],
      securityScheme "oauth2" [("flow", ["implicit"]), ("authorizationUrl", [])] scopes,
      securityScheme "oauth2" [("flow", ["password"]), ("tokenUrl", [])] scopes,
      securityScheme "oauth2" [("flow", ["application"]), ("tokenUrl", [])] scopes,
      securityScheme "oauth2" [("flow", ["accessCode"]), ("authorizationUrl", []), ("tokenUrl", [])]
        scopes]

/-! ## Documents -/

/-- A document of at most a number of levels. -/
def document (depth : Nat) : Rule :=
  record [.names ["swagger", "info", "paths"], .closed, .fields]
    [("swagger", word ["2.0"]), ("info", info), ("host", textWith isHost),
      ("basePath", textWith isRooted), ("schemes", schemes), ("consumes", mediaTypes),
      ("produces", mediaTypes), ("paths", paths depth), ("definitions", mapOf (schema depth)),
      ("parameters", mapOf (parameter depth)), ("responses", mapOf (response depth)),
      ("security", security), ("securityDefinitions", mapOf securityDefinition),
      ("tags", setOf tag), ("externalDocs", externalDocs)]

end ApiDoc.OpenApi.Structure
