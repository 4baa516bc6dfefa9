import RestFlow.Failure.Basic
import RestFlow.Flow.Dependency
import RestFlow.Order.Sorting
import RestFlow.Request.Id

/-!
# Sequences of requests

Which requests have to run before others, and whether any order does them justice.
-/

namespace RestFlow

/-!
## The graph of requests that wait for each other

An edge from one request to another says that the first runs after the second. `findCycle` searches
the graph depth first, from request to request in their order, and gives the first cycle it meets.
-/

/-- Requests, in the order in which they were added, and who waits for whom. -/
structure RequestGraph where
  nodes : List RequestId := []
  edges : List (RequestId × RequestId) := []
  deriving Inhabited

namespace RequestGraph

/-- Add a request unless it is there already. -/
def addNode (g : RequestGraph) (r : RequestId) : RequestGraph :=
  if g.nodes.contains r then g else { g with nodes := g.nodes ++ [r] }

/-- Record that `later` runs after `earlier`. -/
def addEdge (g : RequestGraph) (later earlier : RequestId) : RequestGraph :=
  let g := (g.addNode later).addNode earlier
  { g with edges := g.edges ++ [(later, earlier)] }

/-- The graph of a list of pairs, the later request first. -/
def ofPairs (pairs : List (RequestId × RequestId)) : RequestGraph :=
  pairs.foldl (fun g p => g.addEdge p.1 p.2) {}

/-- The number of requests. -/
def size (g : RequestGraph) : Nat :=
  g.nodes.length

/-- An edge leads from one request to another. -/
def hasEdge (g : RequestGraph) (later earlier : RequestId) : Bool :=
  g.edges.any fun e => e.1 == later && e.2 == earlier

/-- The requests in their order. -/
def sortedNodes (g : RequestGraph) : List RequestId :=
  sortBy compare g.nodes

/-- The requests that a request waits for, in their order. -/
def awaited (g : RequestGraph) (r : RequestId) : List RequestId :=
  g.sortedNodes.filter fun n => g.hasEdge r n

/-- Where a search stands: at a cycle, or with some requests finished that are on no cycle. -/
inductive Search where
  | cycle (chain : List RequestId)
  | finished (requests : List RequestId)

/-- Search from several requests in turn, until a cycle is met. -/
def searchEach (visit : List RequestId → RequestId → Search) :
    List RequestId → List RequestId → Search
  | finished, [] => .finished finished
  | finished, r :: rest =>
    match visit finished r with
    | .cycle chain => .cycle chain
    | .finished more => searchEach visit more rest

/-- The part of a path from a request on. -/
def pathFrom (r : RequestId) (path : List RequestId) : List RequestId :=
  path.dropWhile (· != r)

/-- Search from a request that was reached along `path`. A path holds every request once, so `fuel`
need not exceed the number of requests. -/
def search (g : RequestGraph) (path : List RequestId) :
    Nat → List RequestId → RequestId → Search
  | 0, finished, _ => .finished finished
  | fuel + 1, finished, r =>
    if path.contains r then .cycle (pathFrom r path ++ [r])
    else if finished.contains r then .finished finished
    else
      match searchEach (search g (path ++ [r]) fuel) finished (g.awaited r) with
      | .cycle chain => .cycle chain
      | .finished more => .finished (r :: more)

/-- The first cycle that the search meets: a chain that ends where it starts. -/
def findCycle (g : RequestGraph) : Option (List RequestId) :=
  match searchEach (g.search [] (g.size + 1)) [] g.sortedNodes with
  | .cycle chain => some chain
  | .finished _ => none

/-- The text of a chain of requests. -/
def chainText (chain : List RequestId) : String :=
  " → ".intercalate (chain.map RequestId.text)

/-- The failure that a cycle in the graph amounts to. -/
def cycleFailure? (g : RequestGraph) : Option Failure :=
  g.findCycle.map fun chain => .circularDependency (chainText chain)

end RequestGraph

/-!
## Ordering and equality constraints

Requests are put in order by directives without parameters, and by inputs that serve as producers:
whoever reads such an input runs after its request. An input that only a directive made a producer
has its value from somewhere else; `aliasInputs` gives that source to everyone who reads the input.
-/

namespace OrderingConstraint

/-- The constraints are ordered by their sources, then by their targets. -/
instance : Ord OrderingConstraint :=
  ⟨fun a b => (compare a.source b.source).then (compare a.target b.target)⟩

/-- The constraint of a directive without parameters; the request that carries the directive is
the target when the directive names none. -/
def ofDirective? (a : Directive) (owner : Option RequestId) : Option OrderingConstraint :=
  if a.isOrderingOnly then (a.consumer <|> owner).map fun target => ⟨a.producer, target⟩ else none

/-- The constraints of directives, each with the request that carries it. -/
def ofDirectives (directives : List (Directive × Option RequestId)) :
    List OrderingConstraint :=
  directives.filterMap fun (a, owner) => ofDirective? a owner

/-- The request whose response supplies an input, if one does. -/
def supplier? (dependencies : List Dependency) (input : Resource) : Option RequestId :=
  dependencies.findSome? fun d =>
    match d.producer with
    | some (.response r) => if d.consumer.resource == input then some r.request else none
    | _ => none

/-- The constraints that one dependency implies: a reader of an input runs after the input's
request, and this one after whoever supplies the input. -/
def impliedBy (dependencies : List Dependency) (d : Dependency) : List OrderingConstraint :=
  match d.producer with
  | some (.inputOnly input _) =>
    if input.request == d.consumer.request then []
    else ⟨input.request, d.consumer.request⟩ ::
      match supplier? dependencies input with
      | some source => if source == input.request then [] else [⟨source, input.request⟩]
      | none => []
  | _ => []

/-- The constraints that dependencies on inputs imply. -/
def implied (dependencies : List Dependency) : List OrderingConstraint :=
  dependencies.flatMap (impliedBy dependencies)

/-- The different constraints between different requests, in order. Of several spellings of one
constraint the last is kept. -/
def settled (constraints : List OrderingConstraint) : List OrderingConstraint :=
  dropRepeats (sortBy compare (constraints.filter fun c => c.source != c.target).reverse)

/-- The graph of constraints. -/
def graph (constraints : List OrderingConstraint) : RequestGraph :=
  .ofPairs (constraints.map fun c => (c.target, c.source))

/-- The warning about a cycle among constraints. -/
def cycleWarnings (constraints : List OrderingConstraint) : List Warning :=
  (graph constraints).cycleFailure?.toList.map .tolerated

/-- The constraints as producers. -/
def producers (constraints : List OrderingConstraint) : List Producer :=
  constraints.map .ordering

end OrderingConstraint

namespace Producer

/-- Whether several consumers may have the producer: a fresh value belongs to one writer only. -/
def isShareable : Producer → Bool
  | response _ => true
  | dictionary p => p.kind != .uuidSuffix
  | _ => false

end Producer

namespace Dependency

/-- The kinds of parameter in which the source of an input is looked for. -/
def sourceKinds : List ParameterKind := [.body, .path, .query, .header]

/-- The producer of the last resolved consumer with this request, kind and name. -/
def producerOf? (dependencies : List Dependency) (request : RequestId) (kind : ParameterKind)
    (name : String) : Option Producer :=
  dependencies.reverse.findSome? fun d =>
    if d.consumer.request == request && d.consumer.kind == kind && d.consumer.name == name then
      d.producer
    else none

/-- The source of an input: the producer of the parameter of its request that has its name. -/
def source? (dependencies : List Dependency) (input : Resource) : Option Producer :=
  sourceKinds.findSome? fun kind => producerOf? dependencies input.request kind input.name

/-- The producer to put in place of an input that a directive named. -/
def alias? (dependencies : List Dependency) (d : Dependency) : Option Producer :=
  match d.producer with
  | some (.inputOnly input .directive) =>
    (source? dependencies input).filter Producer.isShareable
  | _ => none

/-- Put the sources of inputs in place of the inputs that directives named. -/
def aliasInputs (dependencies : List Dependency) : List Dependency :=
  dependencies.map fun d =>
    match alias? dependencies d with
    | some p => { d with producer := some p }
    | none => d

/-- The number of consumers that `aliasInputs` gives another producer. -/
def aliasCount (dependencies : List Dependency) : Nat :=
  dependencies.countP fun d => (alias? dependencies d).isSome

end Dependency

end RestFlow
