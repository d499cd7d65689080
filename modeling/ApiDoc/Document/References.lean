import ApiDoc.Error
import ApiDoc.Schema.Simple

/-!
# Checking references

A document is searched for references, which have to point to definitions of the document.

**Search.** In a mapping of keywords, a text under `$ref` is a reference; what is under `default`,
`example`, `enum` or an extension is data. In a mapping from names the keys are chosen by people and
mean nothing. The sections `paths` and `definitions` are mappings from names, and so is what a
mapping of keywords has under `properties`, `definitions`, `responses` or `headers`.

Keywords are texts. A key that is no text, in a mapping of keywords, would make the search itself
fail. No document that is built has such a key where the search looks, so this failure is not
modelled: what is under the key is searched like the value of any other keyword.
-/

namespace ApiDoc.References

/-- The keywords whose values are data. -/
def dataKeywords : List String := ["example", "default", "enum"]

/-- The keywords whose values are mappings from names. -/
def nameMaps : List String := ["properties", "definitions", "responses", "headers"]

/-- Whether the value of a keyword is data. -/
def isData (key : String) : Bool := key ∈ dataKeywords || isExtension key

mutual

/-- The references in a value, in order. `names` says that a mapping is one from names. -/
def inValue (names : Bool) : Value → List String
  | .map _ entries => inEntries names entries
  | .list _ items => inItems items
  | _ => []

def inItems : List Value → List String
  | [] => []
  | v :: vs => inValue false v ++ inItems vs

/-- The references in the entries of a mapping. -/
def inEntries (names : Bool) : List (Value × Value) → List String
  | [] => []
  | (k, v) :: es =>
    (match k with
      | .str key =>
        if names then inValue false v
        else if isData key then []
        else if key = "$ref" then
          match v with
          | .str pointer => [pointer]
          | v => inValue false v
        else inValue (key ∈ nameMaps) v
      | _ => inValue false v) ++ inEntries names es

end

def isInfix (part text : List Char) : Bool :=
  part.isPrefixOf text || match text with
    | [] => false
    | _ :: cs => isInfix part cs

/-- Whether a definition has a name, whatever the definitions are. -/
def hasMember (definitions : Value) (name : String) : Except Fault Bool :=
  match definitions with
  | .map _ entries => .ok (Entries.has entries name)
  | .list _ items => .ok (items.any fun v => v.sameKey (.str name))
  | .str s => .ok (isInfix name.toList s.toList)
  | v => .error (.noMembership v.qualifiedTypeName)

/-- The beginning of a pointer to a definition. -/
def definitionsPrefix : List Char := "#/definitions/".toList

/-- What a pointer within the document refers to: the name of a definition, or something else. -/
def target (pointer : List Char) : Except String String :=
  if definitionsPrefix.isPrefixOf pointer then
    .ok (.ofList ((pointer.drop definitionsPrefix.length).takeWhile (· ≠ '/')))
  else .error (.ofList (pointer.drop 2))

/-- Checks one pointer. A pointer out of the document is not looked at. -/
def checkPointer (definitions : Value) (pointer : String) : Except Error Unit :=
  -- A pointer into another document is not checked.
  if pointer.toList.head? ≠ some '#' then .ok ()
  else
    match target pointer.toList with
    | .error rest => .error (.dangling rest pointer)
    | .ok name =>
      match hasMember definitions name with
      | .error f => .error (.fault f)
      | .ok true => .ok ()
      | .ok false => .error (.dangling name pointer)

/-- A section of a document; a missing one is empty. -/
def sectionOf (entries : Entries) (name : String) : Value :=
  (entries.get? name).getD (.map .none [])

/-- The references of a document, in order. -/
def inDocument (entries : Entries) : List String :=
  inValue true (sectionOf entries "paths") ++ inValue true (sectionOf entries "definitions")

/-- Checks the references of a document, and further pointers after them. -/
def check (document : Value) (pointers : List String) : Except Error Unit :=
  match document with
  | .map _ entries =>
    (inDocument entries ++ pointers).forM (checkPointer (sectionOf entries "definitions"))
  | v => .error (.fault (.noPart v.qualifiedTypeName "get"))

end ApiDoc.References
