import RestFlow.Body.Tree
import RestFlow.Directive.Basic
import RestFlow.Failure.Basic

/-!
# Descriptions of requests

What an interface says about a request, and what cannot be said about one.
-/

namespace RestFlow

/-!
## Request parameters

A path, query or header parameter has a name, a schema tree and possibly a declared serialization.
Only two of the serialization styles can be expressed in requests.
-/

/-- How the value of a parameter is written into a request. -/
inductive SerializationStyle where
  | form
  | simple
  | matrix
  | label
  | spaceDelimited
  | pipeDelimited
  | deepObject
  deriving DecidableEq, Repr, Inhabited

namespace SerializationStyle

/-- All styles. -/
def all : List SerializationStyle :=
  [form, simple, matrix, label, spaceDelimited, pipeDelimited, deepObject]

/-- The word that names the style in documents. -/
def word : SerializationStyle → String
  | form => "form"
  | simple => "simple"
  | matrix => "matrix"
  | label => "label"
  | spaceDelimited => "spaceDelimited"
  | pipeDelimited => "pipeDelimited"
  | deepObject => "deepObject"

/-- The styles that requests can be written in. -/
def isSupported : SerializationStyle → Bool
  | form | simple => true
  | _ => false

end SerializationStyle

/-- A declared serialization. -/
structure Serialization where
  style : SerializationStyle
  explode : Bool
  deriving DecidableEq, Repr

/-- A path, query or header parameter. -/
structure Parameter where
  name : String
  payload : Tree
  serialization : Option Serialization
  deriving BEq, Repr

/-!
## Descriptions of requests

What is known about every request of an interface: its parameters, the schema trees of its body and
of its response, and the directives declared on it.
-/

/-- The description of one request. -/
structure RequestData where
  pathParameters : List Parameter := []
  queryParameters : List Parameter := []
  headerParameters : List Parameter := []
  body : Option Tree := none
  responseBody : Option Tree := none
  responseHeaders : List Parameter := []
  /-- Directives declared on the request, which is their consumer. -/
  localDirectives : List Directive := []
  /-- Directives that follow from response links. -/
  linkDirectives : List Directive := []
  deriving BEq, Repr, Inhabited

/-- A request and its description. -/
structure RequestEntry where
  id : RequestId
  data : RequestData
  deriving BEq, Repr

/-- The requests of an interface. -/
structure Interface where
  requests : List RequestEntry := []
  deriving BEq, Repr, Inhabited

namespace RequestEntry

/-- The directives declared on a request and on its response links. -/
def directives (e : RequestEntry) : List Directive :=
  e.data.localDirectives ++ e.data.linkDirectives

end RequestEntry

/-!
## Descriptions that requests cannot be made of

Every path, query and header parameter needs a serialization that requests can be written in, and no
path parameter may be an array.
-/

namespace Parameter

/-- The failure of a parameter whose serialization is not supported. -/
def serializationFault? (p : Parameter) (request : RequestId) : Option Failure :=
  match p.serialization with
  | some s =>
    if s.style.isSupported then none
    else some (.unsupportedSerialization request.endpoint p.name s.style.word)
  | none => none

/-- The failure of a path parameter that is an array. -/
def arrayFault? (p : Parameter) (request : RequestId) : Option Failure :=
  if p.payload.isArray then some (.arrayPathParameter request.endpoint p.name) else none

end Parameter

namespace RequestEntry

/-- The first failure of a request: serializations are looked at before arrays. -/
def fault? (e : RequestEntry) : Option Failure :=
  (e.data.pathParameters ++ e.data.queryParameters ++ e.data.headerParameters).findSome?
      (·.serializationFault? e.id) <|>
    e.data.pathParameters.findSome? (·.arrayFault? e.id)

/-- Requests can be made of the description. -/
def validate (e : RequestEntry) : Except Failure Unit :=
  match e.fault? with
  | some f => .error f
  | none => .ok ()

end RequestEntry

end RestFlow
