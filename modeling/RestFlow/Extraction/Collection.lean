import RestFlow.Config.Basic
import RestFlow.Dictionary.Basic
import RestFlow.Flow.Dependency
import RestFlow.Request.Description

/-!
# What requests consume and produce

The first pass of a run goes through the requests once. Every input whose value may be chosen
becomes a consumer; the leaves of responses and their headers become producers, and so does every
named node of a request body, for its neighbours in the same body.
-/

namespace RestFlow

/-- What does not change during a run. -/
structure Setup where
  config : Config := {}
  /-- Directives for the whole interface. -/
  directives : List Directive := []
  endpointDictionaries : EndpointDictionaries := .empty
  deriving Inhabited

/-- The consumers and producers of some requests. -/
structure Collection where
  consumers : List Consumer := []
  responses : List Resource := []
  sameBody : List Resource := []
  deriving Inhabited

namespace Collection

/-- What two parts of an interface consume and produce. -/
def append (a b : Collection) : Collection where
  consumers := a.consumers ++ b.consumers
  responses := a.responses ++ b.responses
  sameBody := a.sameBody ++ b.sameBody

end Collection

namespace Leaf

/-- The value may be chosen, and it is not marked as readonly. -/
def isOpen (leaf : Leaf) : Bool :=
  leaf.payload.isFuzzable && !leaf.isReadonly

/-- The name of a leaf of a parameter: its own or, for lack of one, the parameter's. -/
def nameIn (leaf : Leaf) (p : Parameter) : String :=
  if leaf.name.isEmpty then p.name else leaf.name

end Leaf

namespace Setup

/-- Situate a reference under the naming policy of the run. -/
def situate (s : Setup) (side : Side) (request : RequestId) (r : Reference) (type : PrimitiveType) :
    Except Failure Resource :=
  Resource.situate side request r (s.config.convention.getD (Convention.infer r.name)) type

/-- A consumer of some kind. -/
def consumer (s : Setup) (request : RequestId) (kind : ParameterKind) (r : Reference)
    (type : PrimitiveType) : Except Failure Consumer := do
  return { resource := ← s.situate .input request r type, kind }

/-- The leaf that a path parameter consists of, if its value may be chosen. -/
def openPathLeaf? (p : Parameter) : Option Leaf :=
  match p.payload with
  | .leaf leaf => if leaf.isOpen then some leaf else none
  | .internal .. => none

/-- The path parameters whose value may be chosen. -/
def pathConsumers (s : Setup) (e : RequestEntry) : Except Failure (List Consumer) :=
  (e.data.pathParameters.filterMap fun p => (openPathLeaf? p).map (p, ·)).mapM fun (p, leaf) =>
    s.consumer e.id .path (.ofPathParameter p.name e.id.endpoint) leaf.payload.type

/-- The leaves of some parameters, each with its parameter. -/
def leavesOf (ps : List Parameter) : List (Parameter × Leaf) :=
  ps.flatMap fun p => p.payload.leaves.map fun l => (p, l.2)

/-- The query or header inputs whose value may be chosen. -/
def parameterConsumers (s : Setup) (e : RequestEntry) (kind : ParameterKind)
    (reference : String → Reference) (ps : List Parameter) : Except Failure (List Consumer) :=
  ((leavesOf ps).filter fun (_, leaf) => leaf.isOpen).mapM fun (p, leaf) =>
    s.consumer e.id kind (reference (leaf.nameIn p)) leaf.payload.type

/-- The leaves below the root of a body. -/
def placedLeaves (body : Option Tree) : List (AccessPath × Leaf) :=
  match body with
  | some tree => tree.leaves.filter fun l => !l.1.isRoot
  | none => []

/-- The body properties whose value may be chosen. -/
def bodyConsumers (s : Setup) (e : RequestEntry) : Except Failure (List Consumer) :=
  ((placedLeaves e.data.body).filter fun l => l.2.isOpen).mapM fun (place, leaf) =>
    s.consumer e.id .body (.ofPlace place) leaf.payload.type

/-- The consumers of a request: path parameters, then whatever else the configuration asks for. -/
def consumers (s : Setup) (e : RequestEntry) : Except Failure (List Consumer) := do
  let paths ← s.pathConsumers e
  let queries ← if s.config.resolveQuery then
    s.parameterConsumers e .query .query e.data.queryParameters else pure []
  let headers ← if s.config.resolveHeaders then
    s.parameterConsumers e .header .header e.data.headerParameters else pure []
  let bodies ← if s.config.resolveBody then s.bodyConsumers e else pure []
  return paths ++ queries ++ headers ++ bodies

/-- Attach to a consumer of a request the first directive that applies to it. -/
def annotate (s : Setup) (e : RequestEntry) (c : Consumer) : Consumer :=
  let sets : DirectiveSets := ⟨e.data.localDirectives, s.directives, e.data.linkDirectives⟩
  { c with directive := sets.find? c.request c.name c.resource.place? }

/-- The leaves of the response and of its headers. -/
def responses (s : Setup) (e : RequestEntry) : Except Failure (List Resource) := do
  let properties ← (placedLeaves e.data.responseBody).mapM fun (place, leaf) =>
    s.situate .output e.id (.ofPlace place) leaf.payload.type
  let headers ← (leavesOf e.data.responseHeaders).mapM fun (p, leaf) =>
    s.situate .output e.id (.header (leaf.nameIn p)) leaf.payload.type
  return properties ++ headers

/-- The place ends with the name of a property. -/
def isNamedPlace (place : AccessPath) : Bool :=
  place.lastName?.isSome && place.segments.getLast? != some AccessPath.arrayMarker

/-- The type under which a node of a body is known. -/
def nodeType : Node → PrimitiveType
  | .leaf leaf => leaf.payload.type
  | .internal .. => .object

/-- The named nodes of the request body, internal ones included. -/
def sameBody (s : Setup) (e : RequestEntry) : Except Failure (List Resource) :=
  match e.data.body with
  | some tree =>
    ((tree.visits .root).filter fun v => isNamedPlace v.1).mapM fun (place, node) =>
      s.situate .input e.id (.ofPlace place) (nodeType node)
  | none => pure []

/-- What one request consumes and produces. -/
def collectEntry (s : Setup) (e : RequestEntry) : Except Failure Collection := do
  e.validate
  let consumers ← s.consumers e
  return {
    consumers := consumers.map (s.annotate e)
    responses := ← s.responses e
    sameBody := ← s.sameBody e }

/-- What some requests consume and produce, where a request that was seen before is passed over with
a warning. -/
def collectFrom (s : Setup) (seen : List RequestId) :
    List RequestEntry → List Warning × Except Failure Collection
  | [] => ([], .ok {})
  | e :: rest =>
    if seen.contains e.id then
      let (warnings, collected) := collectFrom s seen rest
      (.duplicateRequest e.id :: warnings, collected)
    else match s.collectEntry e with
      | .error f => ([], .error f)
      | .ok first =>
        let (warnings, collected) := collectFrom s (e.id :: seen) rest
        (warnings, first.append <$> collected)

/-- What an interface consumes and produces, the consumers in the order of listings. -/
def collect (s : Setup) (i : Interface) : List Warning × Except Failure Collection :=
  let (warnings, collected) := s.collectFrom [] i.requests
  (warnings, (fun c => { c with consumers := Consumer.listed c.consumers }) <$> collected)

/-- The directives of an interface: those on requests and links, then those for all of it. -/
def declaredDirectives (s : Setup) (i : Interface) : List Directive :=
  i.requests.flatMap RequestEntry.directives ++ s.directives

end Setup

namespace Directive

/-- What the producing side of a directive leads to. -/
inductive Source where
  /-- Nothing has to be added: no parameter is named, or a response has it. -/
  | known
  /-- An input of the producing request. -/
  | input (resource : Resource)
  /-- Neither a response nor an input has the parameter. -/
  | missing
  deriving Repr

/-- Look for the producing side of a directive among responses, then among inputs. -/
def source (a : Directive) (c : Collection) : Source :=
  match a.producerParameter with
  | none => .known
  | some parameter =>
    if c.responses.any fun r => r.request == a.producer && parameter.refersTo r.name r.place? then
      .known
    else
      let input := c.consumers.find? fun i =>
        i.request == a.producer && parameter.refersTo i.name i.resource.place?
      match input with
      | some i => .input i.resource
      | none => .missing

/-- The inputs that directives make producers. -/
def inputs (as : List Directive) (c : Collection) : List Resource :=
  as.filterMap fun a =>
    match a.source c with
    | .input r => some r
    | _ => none

/-- The warnings about directives that lead to nothing. -/
def idleWarnings (as : List Directive) (c : Collection) : List Warning :=
  as.filterMap fun a =>
    match a.source c with
    | .missing => some (.idleDirective a)
    | _ => none

end Directive

end RestFlow
