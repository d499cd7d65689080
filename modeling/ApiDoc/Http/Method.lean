/-!
# Methods and content types

The request methods and the body encodings that an operation can have.
-/

namespace ApiDoc

/-- A request method. -/
inductive Method where
  | get
  | put
  | post
  | delete
  | options
  | head
  | patch
  deriving DecidableEq, Repr

namespace Method

def all : List Method := [get, put, post, delete, options, head, patch]

/-- The name of a method, in lower case. -/
def name : Method → String
  | get => "get"
  | put => "put"
  | post => "post"
  | delete => "delete"
  | options => "options"
  | head => "head"
  | patch => "patch"

/-- The name of a method as it stands in requests. -/
def upperName : Method → String
  | get => "GET"
  | put => "PUT"
  | post => "POST"
  | delete => "DELETE"
  | options => "OPTIONS"
  | head => "HEAD"
  | patch => "PATCH"

def ofName? (s : String) : Option Method := all.find? (·.name = s)

end Method

/-- How the body of a request is encoded. -/
inductive ContentType where
  | json
  | form
  | multipart
  deriving DecidableEq, Repr

namespace ContentType

def all : List ContentType := [json, form, multipart]

/-- The short name of a content type. -/
def name : ContentType → String
  | json => "json"
  | form => "form"
  | multipart => "multipart"

def mediaType : ContentType → String
  | json => "application/json"
  | form => "application/x-www-form-urlencoded"
  | multipart => "multipart/form-data"

/-- The content type that has a short name. -/
def ofName? (s : String) : Option ContentType := all.find? (·.name = s)

end ContentType

end ApiDoc
