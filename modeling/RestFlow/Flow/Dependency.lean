import RestFlow.Dictionary.Basic
import RestFlow.Directive.Basic
import RestFlow.Failure.Basic
import RestFlow.Order.Sorting
import RestFlow.Resource.Basic

/-!
# Consumers and producers

Who needs a value, where values come from, which need is met by which source, and what is reported
about it.
-/

namespace RestFlow

/-!
## Consumers

A consumer is an input of a request that may take its value from a producer. Some consumers are
writers: the request assigns their value rather than reading one that exists.
-/

/-- An input of a request. -/
structure Consumer where
  resource : Resource
  kind : ParameterKind
  directive : Option MatchedDirective := none
  deriving BEq, Repr, Inhabited

/-- The key under which a consumer can have one producer only. -/
structure ConsumerKey where
  request : RequestId
  kind : ParameterKind
  name : String
  mapKey : String
  deriving BEq, Repr

namespace ConsumerKey

/-- The key on one line. -/
def text (k : ConsumerKey) : String :=
  k.request.text ++ " " ++ k.kind.word ++ " " ++ k.name ++ " " ++ k.mapKey

end ConsumerKey

namespace Consumer

/-- The request that the input belongs to. -/
def request (c : Consumer) : RequestId :=
  c.resource.request

/-- The name of the input. -/
def name (c : Consumer) : String :=
  c.resource.name

/-- The input is the path parameter that ends the endpoint. -/
def isTrailing (c : Consumer) : Bool :=
  c.kind = .path && c.request.segments.getLast? == some (Endpoint.marker c.name)

/-- The request assigns the input: the trailing path parameter of a PUT, or a property in the body
of a PUT or POST. -/
def isWriter (c : Consumer) : Bool :=
  match c.kind with
  | .path => c.request.method = .put && c.isTrailing
  | .body => c.request.method = .put || c.request.method = .post
  | .query | .header => false

/-- The key of the consumer. -/
def key (c : Consumer) : ConsumerKey :=
  ⟨c.request, c.kind, c.name, c.resource.mapKey⟩

/-- What listings of consumers are sorted by. -/
structure ListingKey where
  rank : Nat
  kind : ParameterKind
  mapKey : String
  request : RequestId
  name : String

instance : Ord ListingKey := ⟨fun a b =>
  (compare a.rank b.rank).then <| (compare a.kind b.kind).then <|
    (compare a.mapKey b.mapKey).then <| (compare a.request b.request).then (compare a.name b.name)⟩

/-- The listing key of a consumer: methods that create come first, then the kind, the key of the
resource, the request and the name decide. -/
def listingKey (c : Consumer) : ListingKey :=
  ⟨c.request.method.rank, c.kind, c.resource.mapKey, c.request, c.name⟩

/-- Consumers in the order of listings. -/
def listed (consumers : List Consumer) : List Consumer :=
  sortOn listingKey consumers

end Consumer

/-!
## Producers

What an input may take its value from: a response, another property of the same body, an input of
another request, or an entry of the dictionary. Constraints that only put requests in order are
listed among the producers, but carry no value.
-/

/-- Why an input of a request produces values. -/
inductive InputOrigin where
  /-- A directive names it, and no response has it. -/
  | directive
  /-- It is a path parameter to which a PUT assigns a fresh value. -/
  | writer
  deriving DecidableEq, Repr, Inhabited

namespace InputOrigin

/-- The word that names the origin. -/
def word : InputOrigin → String
  | directive => "annotation"
  | writer => "writer"

end InputOrigin

/-- One request has to run before another. -/
structure OrderingConstraint where
  /-- The request that runs first. -/
  source : RequestId
  /-- The request that runs afterwards. -/
  target : RequestId
  deriving BEq, Repr

namespace OrderingConstraint

/-- The constraint on one line. -/
def text (c : OrderingConstraint) : String :=
  c.source.text ++ " -> " ++ c.target.text

end OrderingConstraint

/-- A placeholder in the requests that are sent, filled in from a producer. -/
structure DynamicObject where
  name : String
  type : PrimitiveType
  /-- The value is assigned while sending, not read from a response. -/
  isWriter : Bool
  deriving DecidableEq, Repr

namespace DynamicObject

/-- A letter or digit of ASCII. -/
def isNameChar (c : Char) : Bool :=
  c.isAlphanum

/-- The text of a resource whose letters and digits make up the name of its placeholder. -/
def rawName (r : Resource) : String :=
  r.request.endpoint ++ "_" ++ r.request.method.lowerName ++ "_" ++ r.mapKey

/-- The letters and digits of a text, where an underscore stands for whatever separates them. The
flag `pending` says that a separator has been met since the last of them. -/
def squeeze (pending : Bool) : List Char → List Char
  | [] => []
  | c :: rest =>
    if isNameChar c then (if pending then ['_', c] else [c]) ++ squeeze false rest
    else squeeze true rest

/-- The placeholder of a resource: an underscore before the runs of letters and digits. -/
def ofResource (r : Resource) (isWriter : Bool) : DynamicObject where
  name := String.ofList
    ('_' :: squeeze false ((rawName r).toList.dropWhile fun c => !isNameChar c))
  type := r.type
  isWriter := isWriter

end DynamicObject

/-- What a value is taken from. -/
inductive Producer where
  /-- A property or header of a response. -/
  | response (resource : Resource)
  /-- Another property of the same body. -/
  | sameBody (resource : Resource)
  /-- An input whose value is assigned when its request is sent. -/
  | inputOnly (resource : Resource) (origin : InputOrigin)
  /-- An entry of the dictionary. -/
  | dictionary (payload : DictionaryPayload)
  /-- No value, only an order. -/
  | ordering (constraint : OrderingConstraint)
  deriving BEq, Repr, Inhabited

namespace Producer

/-- The resource that has the value. -/
def resource? : Producer → Option Resource
  | response r | sameBody r | inputOnly r _ => some r
  | _ => none

/-- The request that has the value, or that runs first. -/
def request? : Producer → Option RequestId
  | ordering c => some c.source
  | p => p.resource?.map Resource.request

/-- The placeholder for the value. -/
def dynamicObject? : Producer → Option DynamicObject
  | response r => some (.ofResource r false)
  | sameBody r | inputOnly r _ => some (.ofResource r true)
  | _ => none

/-- The word that names the kind of producer. -/
def label : Producer → String
  | response _ => "response"
  | sameBody _ => "same_body"
  | inputOnly .. => "input_only"
  | dictionary _ => "dictionary"
  | ordering _ => "ordering_constraint"

/-- The producer on one line. -/
def text : Producer → String
  | dictionary p => "dictionary " ++ p.kind.title ++ " '" ++ p.name ++ "'"
  | ordering c => "ordering " ++ c.text
  | response r => "response " ++ r.text
  | sameBody r => "same_body " ++ r.text
  | inputOnly r _ => "input_only " ++ r.text

end Producer

/-!
## Dependencies

A dependency is a consumer with the producer that was found for it, if any.
-/

/-- A consumer and what its value is taken from. -/
structure Dependency where
  consumer : Consumer
  producer : Option Producer
  deriving BEq, Repr

namespace Dependency

/-- A producer was found. -/
def isResolved (d : Dependency) : Bool :=
  d.producer.isSome

end Dependency

/-!
## Warnings

What a run reports without giving up.
-/

/-- Something a run reports. -/
inductive Warning where
  /-- A request was described more than once. -/
  | duplicateRequest (request : RequestId)
  /-- A directive names no value and no input of its producer. -/
  | idleDirective (directive : Directive)
  /-- A directive applies to a parameter but leads to no producer. -/
  | emptyDirective (directive : Directive) (resource : Resource)
  /-- Several endpoints produce values of the type that a parameter needs. -/
  | ambiguousProducers (resource : Resource) (type : String) (endpoints : List String)
  /-- Something that would be a failure elsewhere. -/
  | tolerated (failure : Failure)
  deriving BEq, Repr

namespace Warning

/-- The text of a warning. -/
def text : Warning → String
  | duplicateRequest request => "Duplicate request " ++ request.text ++ " ignored"
  | idleDirective directive =>
    "Annotation " ++ directive.text ++ " names no response value or input of its producer"
  | emptyDirective directive resource =>
    "Annotation " ++ directive.text ++ " matched " ++ resource.text ++
      " but names no producer; falling back to inference"
  | ambiguousProducers resource type endpoints =>
    "Ambiguous producers for " ++ resource.text ++ " with type '" ++ type ++ "': " ++
      ", ".intercalate endpoints
  | tolerated failure => failure.message

end Warning

end RestFlow
