import ApiDoc.Router.Basic
import ApiDoc.Schema.NodeReader
import ApiDoc.Text.Property.Lowercase
import ApiDoc.Value.Order

/-!
# Reading routers

Routers are read from mappings. The names of responses can be of any type and become text; methods
can be a single one and in any letter case; the information about a route can stand one level
further in, under `swagger`.
-/

namespace ApiDoc

open Checked (valid issue)

/-- The items that going through a value gives. -/
def Value.iterate? (v : Value) : Except Fault (List Value) :=
  match v.items?, v with
  | some items, _ => .ok items
  | none, .map _ entries => .ok (entries.map (·.1))
  | none, .str s => .ok (s.toList.map fun c => .str (.ofList [c]))
  | none, .brokenText codes =>
    .ok (codes.map fun n =>
      ((Text.charOf? n).map fun c => .str (.ofList [c])).getD (.brokenText [n]))
  | none, .bytes bs => .ok (bs.map fun b => .int b.toNat)
  | none, v => .error (.notIterable v.qualifiedTypeName)

/-- The mapping with its keys made into text. -/
def Value.withTextKeys (v : Value) : Value :=
  match v.entries? with
  | some entries =>
    let textKey : Value → Value
      | .brokenText codes => .brokenText codes
      | k => .str k.plain
    .map .none (Entries.ofList (entries.map fun (k, v) => (textKey k, v)))
  | none => v

/-- The value that a mapping has in its place: the mapping under `swagger`, if there is one. -/
def RouteInfo.unwrap (v : Value) : Value :=
  match v.entries?.bind fun entries => Entries.get? entries "swagger" with
  | some (.map l es) => .map l es
  | _ => v

/-- Reads the information about a route. -/
def RouteInfo.read (v : Value) : Checked RouteInfo :=
  let v := RouteInfo.unwrap v
  match v.entries? with
  | some es =>
    (fun summary description tags operationId deprecated ignore =>
      { summary, description, tags, operationId, deprecated, ignore : RouteInfo })
    <$> Checked.fieldOr none es ["summary"] (Checked.optional Checked.text)
    <*> Checked.fieldOr none es ["description"] (Checked.optional Checked.text)
    <*> Checked.fieldOr [] es ["tags"] (Checked.listOf Checked.text)
    <*> Checked.fieldOr none es ["operationId", "operation_id"] (Checked.optional Checked.text)
    <*> Checked.fieldOr none es ["deprecated"] (Checked.optional Checked.bool)
    <*> Checked.fieldOr false es ["ignore"] Checked.bool
  | none => issue (.modelType "RouteMeta") v

def Output.read (v : Value) : Checked Output :=
  match v.entries? with
  | some es =>
    (fun body ref description headers => { body, ref, description, headers : Output })
    <$> Checked.fieldOr none es ["body"] (Checked.optional Node.read)
    <*> Checked.fieldOr none es ["ref"] (Checked.optional Checked.text)
    <*> Checked.fieldOr none es ["description"] (Checked.optional Checked.text)
    <*> Checked.fieldOr none es ["headers"] (Checked.optional Node.read)
  | none => issue (.modelType "OutputSpec") v

def Output.readNamed (v : Value) : Checked (List (String × Output)) :=
  Checked.mappingOf Output.read v.withTextKeys

/-- Reads a content type by its short name. -/
def ContentType.read (v : Value) : Checked ContentType :=
  (Checked.text v).andThen fun s =>
    match ContentType.ofName? s with
    | some t => valid t
    | none =>
      issue (.rule ("type must be one of ['form', 'json', 'multipart'], got " ++ Text.quoted s)) v

/-- Reads what a request has to look like. -/
def RequestSpec.read (v : Value) : Checked RequestSpec :=
  match v.entries? with
  | some es =>
    (fun contentType body query params headers ref output =>
      { contentType, body, query, params, headers, ref, output : RequestSpec })
    <$> Checked.fieldOr none es ["type"] (Checked.optional ContentType.read)
    <*> Checked.fieldOr none es ["body"] (Checked.optional Node.read)
    <*> Checked.fieldOr none es ["query"] (Checked.optional Node.read)
    <*> Checked.fieldOr none es ["params"] (Checked.optional Node.read)
    <*> Checked.fieldOr none es ["headers"] (Checked.optional Node.read)
    <*> Checked.fieldOr none es ["ref"] (Checked.optional Checked.text)
    <*> Checked.fieldOr [] es ["output"] Output.readNamed
  | none => issue (.modelType "ValidateBlock") v

namespace Method

/-- The lower-case form of a name; a byte string is let through. -/
def lowerName (v : Value) : Except Fault Value :=
  match v with
  | .str s => .ok (.str (Text.lower s))
  | .brokenText codes =>
    .ok (.brokenText (codes.map fun n => ((Text.charOf? n).map (Text.lowerChar · |>.toNat)).getD n))
  | .bytes bs => .ok (.bytes bs)
  | v => .error (.noPart v.qualifiedTypeName "lower")

/-- The method that a value names. -/
def ofValue? : Value → Option Method
  | .str s => ofName? s
  | _ => none

/-- The codes of unknown names. -/
def namesInCodes (position : Nat) : List Value → Except Fault (List (List Nat))
  | [] => .ok []
  | v :: vs =>
    match v.codes? with
    | some codes => (codes :: ·) <$> namesInCodes (position + 1) vs
    | none => .error (.notText position v.typeName)

/-- The issue of unknown names. -/
def unknownNames {α : Type} (v : Value) (names : List (List Nat)) : Checked α :=
  let toCodes (s : String) : List Nat := s.toList.map Char.toNat
  let message :=
    toCodes "Unsupported HTTP method(s): " ++ (names.intersperse (toCodes ", ")).flatten
  match Text.EncodingError.find? .utf8 message with
  | some e => .aborted (.encoding e)
  | none => issue (.rule (.ofList (message.map Char.ofNat))) v

/-- The lower-case forms of the names that a value holds: a text is one name. -/
def lowerNames (v : Value) : Except Fault (List Value) :=
  match v.codes? with
  | some _ => [v].mapM lowerName
  | none => do (← v.iterate?).mapM lowerName

/-- Reads methods: one name, or all names that a value holds. -/
def readAll (v : Value) : Checked (List Method) :=
  match lowerNames v with
  | .error f => .aborted f
  | .ok names =>
    match names.filter fun n => (ofValue? n).isNone with
    | [] =>
      if names.isEmpty then issue (.rule "At least one HTTP method is required") v
      else valid (names.filterMap ofValue?)
    | unknown =>
      -- The message joins the names, so it fails for one that is no text.
      match namesInCodes 0 unknown with
      | .error f => .aborted f
      | .ok names => unknownNames v names

end Method

def RouteRecord.read (v : Value) : Checked RouteRecord :=
  match v.entries? with
  | some es =>
    (fun methods path info request output => { methods, path, info, request, output : RouteRecord })
    <$> Checked.field es v ["method"] Method.readAll
    <*> Checked.field es v ["path"] Checked.text
    <*> Checked.fieldOr {} es ["meta"] RouteInfo.read
    <*> Checked.fieldOr none es ["validate", "validate_"] (Checked.optional RequestSpec.read)
    <*> Checked.fieldOr [] es ["output"] Output.readNamed
  | none => issue (.modelType "RouteRecord") v

def Router.read (v : Value) : Checked Router :=
  match v.entries? with
  | some es =>
    (fun mount records => { mount, records : Router })
    <$> Checked.fieldOr none es ["prefix"] (Checked.optional Checked.text)
    <*> Checked.fieldOr [] es ["routes"] (Checked.listOf RouteRecord.read)
  | none => issue (.modelType "RouterSource") v

end ApiDoc
