import RestFlow.Body.Form
import RestFlow.Config.Basic
import RestFlow.Dictionary.Form
import RestFlow.Flow.Dependency
import RestFlow.Request.Form
import RestFlow.Resource.Basic

/-!
# The written form of resources and dependencies

How resources, and all that is made of them, are written.
-/

namespace RestFlow

/-!
## The written form of resources

Resources are written with everything that was inferred about them.
-/

namespace Reference

/-- The kinds of reference and their fields. -/
def records : List (String × Record Reference) := [
  ("path", path <$> .required "name" .string <*> .required "path_to_parameter" (.list .string)),
  ("query", query <$> .required "name" .string),
  ("header", header <$> .required "name" .string),
  ("body", body <$> .required "name" .string <*> .required "full_path" AccessPath.decode)]

/-- Read a reference. -/
def decode (numbered : Bool) : Decoder Reference :=
  .tagged "kind" numbered records

/-- Write a reference. -/
def encode : Reference → Json
  | path name segments =>
    .object [("kind", .string "path"), ("name", .string name),
      ("path_to_parameter", .strings segments)]
  | query name => .object [("kind", .string "query"), ("name", .string name)]
  | header name => .object [("kind", .string "header"), ("name", .string name)]
  | body name place =>
    .object [("kind", .string "body"), ("name", .string name), ("full_path", place.encode)]

end Reference

namespace Resource

/-- Read a resource. -/
def decode (numbered : Bool) : Decoder Resource :=
  Record.decoder <|
    Resource.mk <$> .required "request_id" RequestId.decode
      <*> .required "reference" (Reference.decode numbered)
      <*> .required "naming_convention" Convention.decode
      <*> .required "primitive_type" PrimitiveType.decode
      <*> .nullable "container_name" .string
      <*> .nullable "body_container_name" .string
      <*> .required "candidate_type_names" (.list .string)
      <*> .required "producer_parameter_name" .string
      <*> .required "is_nested_body_resource" .bool

/-- A text, or null in its absence. -/
def textOrNull (text : Option String) : Json :=
  .ofOption (text.map .string)

/-- Write a resource. -/
def encode (r : Resource) : Json :=
  .object [
    ("request_id", r.request.encode),
    ("reference", r.reference.encode),
    ("naming_convention", r.convention.encode),
    ("primitive_type", r.type.encode),
    ("container_name", textOrNull r.container),
    ("body_container_name", textOrNull r.bodyContainer),
    ("candidate_type_names", .strings r.candidateTypes),
    ("producer_parameter_name", .string r.producerParameter),
    ("is_nested_body_resource", .bool r.isNested)]

end Resource

namespace ParameterKind

/-- Read a kind of parameter. -/
def decode : Decoder ParameterKind :=
  .word (all.map fun k => (k.word, k))

/-- Write a kind of parameter. -/
def encode (k : ParameterKind) : Json :=
  .string k.word

end ParameterKind

namespace MatchedDirective

/-- Read a directive with its scope. -/
def decode : Decoder MatchedDirective :=
  Record.decoder <|
    MatchedDirective.mk
      <$> .required "source" (.word (DirectiveScope.all.map fun s => (s.word, s)))
      <*> .required "annotation" Directive.decode

/-- Write a directive with its scope. -/
def encode (m : MatchedDirective) : Json :=
  .object [("source", .string m.scope.word), ("annotation", m.directive.encode)]

end MatchedDirective

namespace Consumer

/-- Read a consumer. -/
def decode : Decoder Consumer :=
  Record.decoder <|
    Consumer.mk <$> .required "resource" (Resource.decode false)
      <*> .required "kind" ParameterKind.decode
      <*> .optional "annotation" MatchedDirective.decode

/-- Write a consumer. -/
def encode (c : Consumer) : Json :=
  .ofPresent [("resource", some c.resource.encode), ("kind", some c.kind.encode),
    ("annotation", c.directive.map MatchedDirective.encode)]

end Consumer

namespace ConsumerKey

/-- Read a key. -/
def decode : Decoder ConsumerKey :=
  Record.decoder <|
    ConsumerKey.mk <$> .required "request_id" RequestId.decode
      <*> .required "kind" ParameterKind.decode
      <*> .required "name" .string
      <*> .required "access_path" .string

/-- Write a key. -/
def encode (k : ConsumerKey) : Json :=
  .object [("request_id", k.request.encode), ("kind", k.kind.encode), ("name", .string k.name),
    ("access_path", .string k.mapKey)]

end ConsumerKey

namespace OrderingConstraint

/-- Read a constraint. -/
def decode : Decoder OrderingConstraint :=
  Record.decoder <|
    OrderingConstraint.mk <$> .required "source" RequestId.decode
      <*> .required "target" RequestId.decode

/-- Write a constraint. -/
def encode (c : OrderingConstraint) : Json :=
  .object [("source", c.source.encode), ("target", c.target.encode)]

end OrderingConstraint

namespace DynamicObject

/-- Write a placeholder. -/
def encode (d : DynamicObject) : Json :=
  .object [("name", .string d.name), ("primitive_type", d.type.encode),
    ("is_writer", .bool d.isWriter)]

end DynamicObject

namespace Producer

/-- The kinds of producer and their fields. -/
def records : List (String × Record Producer) :=
  let resource : Record Resource := .required "resource" (Resource.decode true)
  let origin : Decoder InputOrigin := .word [("annotation", .directive), ("writer", .writer)]
  [("response", response <$> resource),
    ("same_body", sameBody <$> resource),
    ("input_only", inputOnly <$> resource <*> .required "origin" origin),
    ("dictionary", dictionary <$> .required "payload" DictionaryPayload.decode),
    ("ordering_constraint", ordering <$> .required "constraint" OrderingConstraint.decode)]

/-- Read a producer. -/
def decode : Decoder Producer :=
  .tagged "producer" false records

/-- Write a producer. -/
def encode (p : Producer) : Json :=
  let tagged (fields : List (String × Json)) : Json :=
    .object (("producer", .string p.label) :: fields)
  match p with
  | response r => tagged [("resource", r.encode)]
  | sameBody r => tagged [("resource", r.encode)]
  | inputOnly r origin => tagged [("resource", r.encode), ("origin", .string origin.word)]
  | dictionary payload => tagged [("payload", payload.encode)]
  | ordering c => tagged [("constraint", c.encode)]

end Producer

namespace Dependency

/-- Read a dependency. -/
def decode : Decoder Dependency :=
  Record.decoder <|
    Dependency.mk <$> .required "consumer" Consumer.decode
      <*> .nullable "producer" Producer.decode

/-- Write a dependency. -/
def encode (d : Dependency) : Json :=
  .object [("consumer", d.consumer.encode), ("producer", .ofOption (d.producer.map Producer.encode))]

end Dependency

end RestFlow
