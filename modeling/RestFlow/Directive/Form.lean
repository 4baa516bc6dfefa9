import RestFlow.Directive.Basic
import RestFlow.Json.Decode

/-!
# The written form of directives

Documents spell a directive out in plain texts. `DirectiveForm.directive` gives a form its
meaning and `Directive.form` writes one; methods may be written in any case and are written in
capitals.
-/

namespace RestFlow

/-- The written form of a request that a directive does not apply to. -/
structure ExceptionForm where
  endpoint : String
  method : String
  deriving DecidableEq, Repr

/-- The written form of a directive. -/
structure DirectiveForm where
  producerEndpoint : String
  producerMethod : String
  producerResource : Option String
  consumerEndpoint : Option String
  consumerMethod : Option String
  consumerParameter : Option String
  exceptions : List ExceptionForm
  deriving DecidableEq, Repr

/-- What may be wrong with the written form of a directive. -/
inductive DirectiveFault where
  /-- A word that names no method, given in lower case. -/
  | unknownMethod (word : String)
  /-- Only one of the consumer's endpoint and method is given. -/
  | halfConsumer (producer : RequestId)
  deriving Repr

/-- The complaint about a word that names no method. -/
def unknownMethodMessage (word : String) : String :=
  "unknown HTTP method '" ++ word ++ "'"

namespace DirectiveFault

/-- The text of a fault. -/
def message : DirectiveFault → String
  | unknownMethod word => unknownMethodMessage word
  | halfConsumer producer =>
    "annotation for producer " ++ producer.text ++
      " must give both consumer_endpoint and consumer_method"

end DirectiveFault

/-- The request with this endpoint and a method given by its name. -/
def requestOfNames (endpoint method : String) : Except DirectiveFault RequestId :=
  match Method.ofName? method with
  | some m => .ok ⟨endpoint, m, none⟩
  | none => .error (.unknownMethod (Text.lowerAscii method))

namespace DirectiveForm

/-- The consumer of a form: both its endpoint and its method are given, or neither. -/
def consumerOf (f : DirectiveForm) (producer : RequestId) :
    Except DirectiveFault (Option RequestId) :=
  match f.consumerEndpoint, f.consumerMethod with
  | some endpoint, some method => some <$> requestOfNames endpoint method
  | none, none => .ok none
  | _, _ => .error (.halfConsumer producer)

/-- The meaning of a form. The producer is looked at first, then the consumer, then the exceptions
in order. -/
def directive (f : DirectiveForm) : Except DirectiveFault Directive := do
  let producer ← requestOfNames f.producerEndpoint f.producerMethod
  let consumer ← f.consumerOf producer
  let exceptions ← f.exceptions.mapM fun e => requestOfNames e.endpoint e.method
  return {
    producer, consumer, exceptions
    producerParameter := f.producerResource.map .ofText
    consumerParameter := f.consumerParameter.map .ofText }

/-- The fields of an exception. -/
def exceptionRecord : Record ExceptionForm :=
  ExceptionForm.mk <$> .required "consumer_endpoint" .string
    <*> .required "consumer_method" .string

/-- The fields of a form. -/
def record : Record DirectiveForm :=
  DirectiveForm.mk <$> .required "producer_endpoint" .string
    <*> .required "producer_method" .string
    <*> .optional "producer_resource_name" .string
    <*> .optional "consumer_endpoint" .string
    <*> .optional "consumer_method" .string
    <*> .optional "consumer_param" .string
    <*> .defaulted "except" [] (.list exceptionRecord.decoder)

end DirectiveForm

namespace Directive

/-- The written form of a directive. -/
def form (a : Directive) : DirectiveForm where
  producerEndpoint := a.producer.endpoint
  producerMethod := a.producer.method.name
  producerResource := a.producerParameter.map ParameterRef.text
  consumerEndpoint := a.consumer.map RequestId.endpoint
  consumerMethod := a.consumer.map fun c => c.method.name
  consumerParameter := a.consumerParameter.map ParameterRef.text
  exceptions := a.exceptions.map fun e => ⟨e.endpoint, e.method.name⟩

/-- Read a directive. -/
def decode : Decoder Directive :=
  .refine DirectiveForm.record.decoder fun f => f.directive.mapError DirectiveFault.message

/-- Write a directive; what is absent or empty is left out. -/
def encode (a : Directive) : Json :=
  let f := a.form
  let exception (e : ExceptionForm) : Json :=
    .object [("consumer_endpoint", .string e.endpoint), ("consumer_method", .string e.method)]
  Json.ofPresent [
    ("producer_endpoint", some (.string f.producerEndpoint)),
    ("producer_method", some (.string f.producerMethod)),
    ("producer_resource_name", f.producerResource.map .string),
    ("consumer_endpoint", f.consumerEndpoint.map .string),
    ("consumer_method", f.consumerMethod.map .string),
    ("consumer_param", f.consumerParameter.map .string),
    ("except",
      if f.exceptions.isEmpty then none else some (.array (f.exceptions.map exception)))]

end Directive

namespace DirectiveFile

/-- The member of a directive file that lists the directives. -/
def listKey : String := "x-restler-global-annotations"

/-- The directives of a file. -/
def decode : Decoder (List Directive) :=
  (Record.defaulted listKey [] (.list Directive.decode)).decoder

end DirectiveFile

end RestFlow
