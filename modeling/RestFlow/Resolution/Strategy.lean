import RestFlow.Dictionary.Basic
import RestFlow.Flow.Dependency
import RestFlow.Request.Id
import RestFlow.Resolution.Index

/-!
# Searching for producers

Who may feed whom, where the producer of a consumer is looked for, and which properties of a body
mirror each other.
-/

namespace RestFlow

/-!
## Which requests may feed which

Values are produced by requests that create or update, and on demand by requests that read. A request
does not feed itself, nor one that has to run before it at the same endpoint, nor one at an endpoint
above its own.
-/

namespace Method

/-- Whether a request with method `producer` may feed one with method `consumer` at the same
endpoint. -/
def feedsAtSameEndpoint (producer consumer : Method) : Bool :=
  match producer with
  | post | put => consumer != post
  | patch => consumer != post && consumer != put
  | get => consumer != post && consumer != put && consumer != patch
  | _ => false

/-- Whether requests with this method produce values. -/
def produces (allowGet : Bool) : Method → Bool
  | put | post => true
  | get => allowGet
  | _ => false

end Method

namespace RequestId

/-- Whether `producer` may supply values to `consumer`. -/
def mayFeed (producer consumer : RequestId) (allowGet : Bool) : Bool :=
  producer.method.produces allowGet && producer != consumer &&
    if producer.place == consumer.place then
      producer.method.feedsAtSameEndpoint consumer.method
    else !Endpoint.isStrictAncestor consumer.endpoint producer.endpoint

end RequestId

/-!
## Strategies for finding a producer

Six strategies look for the producer of a single consumer. They are tried in a fixed order and the
first one that decides settles the matter, possibly by giving up: a directive, a dictionary entry,
a response of the exact type above the consumer's endpoint, a response of a less specific type, the
PUT that creates the resource itself, and a response of the type of an enclosing object.

No strategy changes anything. When one asks for a fresh value, `resolve` adds a uuid suffix to the
dictionary.
-/

/-- A way of finding a producer. -/
inductive Strategy where
  | directive
  | dictionary
  | exactType
  | approximateType
  | createOrUpdate
  | nestedObject
  deriving DecidableEq, Repr, Inhabited

namespace Strategy

/-- All strategies, in the order in which they are tried. -/
def all : List Strategy :=
  [directive, dictionary, exactType, approximateType, createOrUpdate, nestedObject]

/-- The word that names the strategy. -/
def word : Strategy → String
  | directive => "annotation"
  | dictionary => "dictionary"
  | exactType => "exact_type"
  | approximateType => "approximate_type"
  | createOrUpdate => "create_or_update"
  | nestedObject => "nested_object"

end Strategy

/-- What the strategies look at besides the consumer and the dictionary. -/
structure Surroundings where
  index : ProducerIndex
  endpointDictionaries : EndpointDictionaries
  /-- Requests that only read may produce values. -/
  allowGet : Bool

/-- What a strategy makes of a consumer. -/
inductive Outcome where
  /-- The next strategy is to be tried. -/
  | undecided
  | resolved (producer : Producer)
  /-- Producers at several endpoints fit; none is taken. -/
  | ambiguous
  /-- The consumer is to have a fresh value of its own. -/
  | freshSuffix
  deriving BEq, Repr

/-- The outcome of a strategy and what it reports. -/
structure Finding where
  outcome : Outcome
  warnings : List Warning := []
  deriving BEq, Repr

namespace Finding

/-- No opinion. -/
def undecided : Finding := ⟨.undecided, []⟩

/-- A producer was found. -/
def found (p : Producer) : Finding := ⟨.resolved p, []⟩

end Finding

namespace Consumer

/-- Whether a resource of another request may supply the consumer's value. -/
def accepts (c : Consumer) (around : Surroundings) (r : Resource) : Bool :=
  r.request != c.request && r.request.mayFeed c.request around.allowGet

/-- The endpoint that the value is scoped to: the part up to a path parameter, or all of it. -/
def anchor (c : Consumer) : String :=
  c.resource.reference.scope?.getD c.request.place

/-- The dictionaries that apply to the consumer, its endpoint's own one first. -/
def dictionaries (c : Consumer) (around : Surroundings) (d : Dictionary) : List Dictionary :=
  (around.endpointDictionaries.at? c.request.endpoint).toList ++ [d]

/-- The part of a dictionary that belongs to consumers of this kind alone. -/
def customKind (c : Consumer) : Option CustomKind :=
  match c.kind with
  | .header => some .header
  | .query => some .query
  | .path | .body => none

end Consumer

namespace Strategy

/-- The different endpoints of some resources, in order. -/
def places (rs : List Resource) : List String :=
  dropRepeats (sortBy compare (rs.map fun r => r.request.place))

/-- The first of the responses that a directive names, else the first of the inputs. -/
def byDirective (c : Consumer) (around : Surroundings) : Finding :=
  match c.directive with
  | none => .undecided
  | some matched =>
    let a := matched.directive
    match a.takenParameter with
    | none => .undecided
    | some parameter =>
      let (name, place) : Option String × Option AccessPath :=
        match parameter with
        | .name n => (some n, none)
        | .path p => (none, some p)
      match (around.index.responsesOf a.producer name place).find? (· != c.resource) with
      | some r => .found (.response r)
      | none =>
        let key := (name <|> place.bind AccessPath.lastName?).getD ""
        let input := (around.index.inputsNamed key).find? fun i =>
          i.1.request == a.producer && parameter.refersTo i.1.name i.1.place? && i.1 != c.resource
        match input with
        | some (r, origin) => .found (.inputOnly r origin)
        | none => ⟨.undecided, [.emptyDirective a c.resource]⟩

/-- The entry of one dictionary for a consumer: the payload for its place, the payload for its name,
or for a writer the uuid suffix under its name. -/
def entryIn (c : Consumer) (d : Dictionary) : Option DictionaryPayload :=
  let payload (key : String) := d.findPayload c.customKind key c.resource.type
  (c.resource.place?.bind fun p => payload p.pointer) <|> payload c.name <|>
    if c.isWriter then d.findSuffix c.name c.resource.type else none

/-- The entry of the first dictionary that has one. -/
def byDictionary (c : Consumer) (around : Surroundings) (d : Dictionary) : Finding :=
  match (c.dictionaries around d).findSome? (entryIn c) with
  | some payload => .found (.dictionary payload)
  | none => .undecided

/-- The proper ancestors of an endpoint, from the root on. -/
def properAncestors (endpoint : String) : List String :=
  let parts := Endpoint.segments endpoint
  (List.range parts.length).map fun n => Endpoint.ofSegments (parts.take n)

/-- The responses above the consumer's anchor that have its expected name and its type. -/
def ancestorResponses (c : Consumer) (around : Surroundings) (type : String) : List Resource :=
  ((properAncestors c.anchor).flatMap fun ancestor =>
    around.index.responsesNamed c.resource.producerParameter ancestor).filter fun r =>
      (r.primaryType?.any fun t => Naming.sameType t type) && c.accepts around r

/-- The first response above the consumer's anchor. -/
def fromAncestors (c : Consumer) (around : Surroundings) : Option Producer := do
  let type ← c.resource.primaryType?
  let first ← (sortOn Resource.sortKey (ancestorResponses c around type)).head?
  return .response first

/-- The first input of the consumer's name at the endpoint that ends with its path parameter. -/
def fromInputs (c : Consumer) (around : Surroundings) : Option Producer := do
  let scope ← c.resource.reference.scope?
  let (r, origin) ← (around.index.inputsNamed c.name).find? fun i =>
    i.1.request.place == Endpoint.normalize scope && c.accepts around i.1
  return .inputOnly r origin

/-- The responses of a type, at any endpoint, that have the expected name. -/
def responsesAnywhere (c : Consumer) (around : Surroundings) (type : String) : List Resource :=
  (around.index.responsesOfType type).filter fun r =>
    r.name == c.resource.producerParameter && c.accepts around r

/-- The first of some candidates, provided that all of them are at one endpoint. -/
def atSingleEndpoint (c : Consumer) (type : String) (candidates : List Resource) : Finding :=
  match candidates with
  | [] => .undecided
  | first :: _ =>
    let endpoints := places candidates
    if endpoints.length > 1 then
      ⟨.ambiguous, [.ambiguousProducers c.resource type endpoints]⟩
    else .found (.response first)

/-- A response of the exact type above the consumer, an input at its own endpoint or, when the type
was read off the consumer's own name, a response anywhere. -/
def byExactType (c : Consumer) (around : Surroundings) : Finding :=
  match fromAncestors c around <|> fromInputs c around with
  | some p => .found p
  | none =>
    match c.resource.primaryType? with
    | some type =>
      if c.kind != .path && c.resource.container.isNone then
        atSingleEndpoint c type (responsesAnywhere c around type)
      else .undecided
    | none => .undecided

/-- The first type of a list for which a response decides. -/
def byTypes (c : Consumer) (around : Surroundings) : List String → Finding
  | [] => .undecided
  | type :: rest =>
    let finding := atSingleEndpoint c type (responsesAnywhere c around type)
    if finding.outcome == .undecided then byTypes c around rest else finding

/-- A response of one of the less specific types. -/
def byApproximateType (c : Consumer) (around : Surroundings) : Finding :=
  byTypes c around c.resource.candidateTypes.tail

/-- For the trailing parameter of a PUT: the response of another PUT at an endpoint of the same
shape, or a fresh value. -/
def byCreation (c : Consumer) (around : Surroundings) : Finding :=
  if c.request.method = .put && c.isTrailing then
    let shape := Endpoint.shape c.request.endpoint
    let sibling := c.resource.primaryType?.bind fun type =>
      (around.index.responsesOfType type).find? fun r =>
        r.request.method = .put && r.name == c.resource.producerParameter &&
          Endpoint.shape r.request.endpoint == shape && r.request != c.request
    match sibling with
    | some r => .found (.response r)
    | none => ⟨.freshSuffix, []⟩
  else .undecided

/-- The responses of creating requests at other endpoints whose type is that of the object around
the consumer. -/
def containerResponses (c : Consumer) (around : Surroundings) (type : String) : List Resource :=
  (around.index.responsesOfType type).filter fun r =>
    (r.request.method = .put || r.request.method = .post) && r.request.place != c.request.place &&
      r.name == c.resource.producerParameter && c.accepts around r

/-- A response whose type is that of the object around a body property. -/
def byNestedObject (c : Consumer) (around : Surroundings) : Finding :=
  match c.resource.primaryType? with
  | some type =>
    if c.kind = .body && c.resource.bodyContainer.isSome then
      match containerResponses c around type with
      | [] => .undecided
      | first :: rest =>
        if (places (first :: rest)).length = 1 then .found (.response first) else ⟨.ambiguous, []⟩
    else .undecided
  | none => .undecided

/-- Apply a strategy to a consumer. -/
def run (s : Strategy) (c : Consumer) (around : Surroundings) (d : Dictionary) : Finding :=
  match s with
  | directive => byDirective c around
  | dictionary => byDictionary c around d
  | exactType => byExactType c around
  | approximateType => byApproximateType c around
  | createOrUpdate => byCreation c around
  | nestedObject => byNestedObject c around

end Strategy

/-- What was found for a consumer. -/
structure Resolution where
  producer : Option Producer
  /-- The strategy that decided. -/
  strategy : Option Strategy
  ambiguous : Bool
  warnings : List Warning
  deriving BEq, Repr

namespace Consumer

/-- The first of some strategies that decides, with its outcome and with all that was reported. -/
def decision (c : Consumer) (around : Surroundings) (d : Dictionary) :
    List Strategy → Option (Strategy × Outcome) × List Warning
  | [] => (none, [])
  | s :: rest =>
    let finding := s.run c around d
    if finding.outcome == .undecided then
      let (decided, warnings) := decision c around d rest
      (decided, finding.warnings ++ warnings)
    else (some (s, finding.outcome), finding.warnings)

/-- Find the producer of a consumer. The dictionary gains a uuid suffix if the value is to be
fresh. -/
def resolve (c : Consumer) (around : Surroundings) (d : Dictionary) : Resolution × Dictionary :=
  match c.decision around d Strategy.all with
  | (none, warnings) => (⟨none, none, false, warnings⟩, d)
  | (some (s, .resolved p), warnings) => (⟨some p, some s, false, warnings⟩, d)
  | (some (s, .freshSuffix), warnings) =>
    (⟨some (.dictionary (Dictionary.suffixPayload c.name c.resource.type)), some s, false,
      warnings⟩, d.withSuffix c.name)
  | (some (s, _), warnings) => (⟨none, some s, true, warnings⟩, d)

end Consumer

/-!
## Properties that mirror each other in one body

A body property may take its value from another property of the same body: one whose name is the
alias of its own. Of several such properties the one closest to the consumer is taken. Both then
share a fresh value.
-/

/-- A property to mirror, and the dictionary entry that both properties share. -/
structure SameBodyMatch where
  producer : Resource
  payload : DictionaryPayload
  deriving BEq, Repr

namespace Consumer

/-- What candidates are sorted by: how little they share with the consumer's path, then how deep
they lie. -/
structure Remoteness where
  shared : Nat
  depth : Nat

instance : Ord Remoteness := ⟨fun a b =>
  (compare b.shared a.shared).then (compare a.depth b.depth)⟩

/-- How remote a resource is from a place in the same body. -/
def remoteness (place : AccessPath) (r : Resource) : Remoteness :=
  let segments := (r.place?.getD .root).segments
  ⟨AccessPath.sharedLength segments place.segments, segments.length⟩

/-- The properties of the consumer's own body that have a given name and neither are nor enclose the
consumer. -/
def mirrors (c : Consumer) (index : ProducerIndex) (name : String) (place : AccessPath) :
    List Resource :=
  (index.sameBodyNamed name).filter fun r =>
    r.request == c.request && r.place?.any fun p => p != place && !p.isAncestorOf place

/-- The closest property to mirror. -/
def mirror? (c : Consumer) (index : ProducerIndex) (aliases : SortedMap String) :
    Option Resource := do
  guard (c.kind = .body)
  let name ← aliases.get? c.name
  let place ← c.resource.place?
  (sortOn (remoteness place) (c.mirrors index name place)).head?

/-- Find a property of the same body to mirror. The dictionary gains a uuid suffix under its name.
-/
def resolveSameBody (c : Consumer) (index : ProducerIndex) (aliases : SortedMap String)
    (d : Dictionary) : Option SameBodyMatch × Dictionary :=
  match c.mirror? index aliases with
  | some r => (some ⟨r, Dictionary.suffixPayload r.name r.type⟩, d.withSuffix r.name)
  | none => (none, d)

end Consumer

end RestFlow
