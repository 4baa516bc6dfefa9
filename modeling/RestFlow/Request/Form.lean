import RestFlow.Directive.Form
import RestFlow.Body.Form
import RestFlow.Request.Description

/-!
# The written form of requests

How identities, parameters and descriptions of requests are read from documents and written to them.
-/

namespace RestFlow

namespace Method

/-- Read a method, which has to be in capitals. -/
def decode : Decoder Method :=
  .word (all.map fun m => (m.name, m))

/-- Write a method. -/
def encode (m : Method) : Json :=
  .string m.name

end Method

namespace RequestId

/-- The fields of an identity. -/
def record : Record RequestId :=
  RequestId.mk <$> .required "endpoint" .string
    <*> .required "method" Method.decode
    <*> .optional "alternate_path" .string

/-- Read an identity. -/
def decode : Decoder RequestId :=
  record.decoder

/-- Write an identity. -/
def encode (r : RequestId) : Json :=
  .ofPresent [("endpoint", some (.string r.endpoint)), ("method", some r.method.encode),
    ("alternate_path", r.alternatePath.map .string)]

end RequestId

namespace Serialization

/-- Read a serialization. -/
def decode : Decoder Serialization :=
  Record.decoder <|
    Serialization.mk
      <$> .required "style" (.word (SerializationStyle.all.map fun s => (s.word, s)))
      <*> .defaulted "explode" false .bool

/-- Write a serialization. -/
def encode (s : Serialization) : Json :=
  .object [("style", .string s.style.word), ("explode", .bool s.explode)]

end Serialization

namespace Parameter

/-- Read a parameter. -/
def decode : Decoder Parameter :=
  Record.decoder <|
    Parameter.mk <$> .required "name" .string
      <*> .required "payload" Tree.decode
      <*> .optional "serialization" Serialization.decode

/-- Write a parameter. -/
def encode (p : Parameter) : Json :=
  .ofPresent [("name", some (.string p.name)), ("payload", some p.payload.encode),
    ("serialization", p.serialization.map Serialization.encode)]

end Parameter

namespace RequestData

/-- Read a description. -/
def decode : Decoder RequestData :=
  Record.decoder <|
    RequestData.mk <$> .defaulted "path_parameters" [] (.list Parameter.decode)
      <*> .defaulted "query_parameters" [] (.list Parameter.decode)
      <*> .defaulted "header_parameters" [] (.list Parameter.decode)
      <*> .optional "body" Tree.decode
      <*> .optional "response_body" Tree.decode
      <*> .defaulted "response_headers" [] (.list Parameter.decode)
      <*> .defaulted "local_annotations" [] (.list Directive.decode)
      <*> .defaulted "link_annotations" [] (.list Directive.decode)

/-- Write a description. -/
def encode (d : RequestData) : Json :=
  let parameters (ps : List Parameter) : Json := .array (ps.map Parameter.encode)
  let directives (as : List Directive) : Json := .array (as.map Directive.encode)
  .ofPresent [
    ("path_parameters", some (parameters d.pathParameters)),
    ("query_parameters", some (parameters d.queryParameters)),
    ("header_parameters", some (parameters d.headerParameters)),
    ("body", d.body.map Tree.encode),
    ("response_body", d.responseBody.map Tree.encode),
    ("response_headers", some (parameters d.responseHeaders)),
    ("local_annotations", some (directives d.localDirectives)),
    ("link_annotations", some (directives d.linkDirectives))]

end RequestData

namespace RequestEntry

/-- Read a request. -/
def decode : Decoder RequestEntry :=
  Record.decoder <|
    RequestEntry.mk <$> .required "id" RequestId.decode <*> .required "data" RequestData.decode

/-- Write a request. -/
def encode (e : RequestEntry) : Json :=
  .object [("id", e.id.encode), ("data", e.data.encode)]

end RequestEntry

namespace Interface

/-- Read an interface. -/
def decode : Decoder Interface :=
  Record.decoder <| Interface.mk <$> .defaulted "requests" [] (.list RequestEntry.decode)

/-- Write an interface. -/
def encode (i : Interface) : Json :=
  .object [("requests", .array (i.requests.map RequestEntry.encode))]

end Interface

end RestFlow
