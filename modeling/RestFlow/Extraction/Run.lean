import RestFlow.Extraction.Collection
import RestFlow.Extraction.Result
import RestFlow.Resolution.Strategy
import RestFlow.Sequence.Constraints

/-!
# Runs

A run takes an interface and a dictionary through a sequence of passes:

1. consumers and producers are collected;
2. the path parameters to which a PUT assigns a fresh value become producers (`writerPass`);
3. the strategies look for a producer of every consumer (`mainPass`);
4. body properties without a producer try to mirror a neighbour (`sameBodyPass`);
5. constraints are derived, and inputs named by directives give way to their sources;
6. the dependencies are grouped.

The dictionary is handed from pass to pass and only ever grows. Consumers are taken in the order of
listings and every look-up is sorted, so the result does not depend on chance.
-/

namespace RestFlow

namespace Setup

/-- What the strategies look at, given an index. -/
def surroundings (s : Setup) (index : ProducerIndex) : Surroundings :=
  ⟨index, s.endpointDictionaries, s.config.allowGetProducers⟩

/-- The producers that are known before the strategies are applied. -/
def initialPool (s : Setup) (i : Interface) (c : Collection) : ProducerPool :=
  let found : ProducerPool := { responses := c.responses, sameBody := c.sameBody }
  (Directive.inputs (s.declaredDirectives i) c).foldl
    (fun pool r => pool.addInput r .directive) found

end Setup

/-- Where the pass over writers stands. -/
structure WriterState where
  pool : ProducerPool
  dictionary : Dictionary
  warnings : List Warning := []
  /-- The number of writers that were given a uuid suffix. -/
  count : Nat := 0

namespace Consumer

/-- The consumer is a path parameter that its request assigns. -/
def isPathWriter (c : Consumer) : Bool :=
  c.kind = .path && c.isWriter

end Consumer

namespace Resolution

/-- The producer is a uuid suffix. -/
def isSuffix (r : Resolution) : Bool :=
  match r.producer with
  | some (.dictionary payload) => payload.kind = .uuidSuffix
  | _ => false

end Resolution

namespace Setup

/-- Resolve one writer; if its value is made unique by a uuid suffix, it becomes a producer. -/
def writerStep (around : Surroundings) (st : WriterState) (c : Consumer) : WriterState :=
  let (resolution, dictionary) := c.resolve around st.dictionary
  { pool := if resolution.isSuffix then st.pool.addInput c.resource .writer else st.pool
    dictionary
    warnings := st.warnings ++ resolution.warnings
    count := if resolution.isSuffix then st.count + 1 else st.count }

/-- Resolve the writers among the path parameters. -/
def writerPass (s : Setup) (pool : ProducerPool) (consumers : List Consumer) (d : Dictionary) :
    WriterState :=
  let around := s.surroundings pool.index
  (consumers.filter Consumer.isPathWriter).foldl (writerStep around) ⟨pool, d, [], 0⟩

end Setup

/-- Where the pass over all consumers stands. -/
structure MainState where
  dictionary : Dictionary
  /-- The consumers with what was found for them. -/
  resolutions : List (Consumer × Resolution) := []

namespace MainState

/-- The dependencies found. -/
def dependencies (st : MainState) : List Dependency :=
  st.resolutions.map fun (c, r) => ⟨c, r.producer⟩

/-- What the strategies reported. -/
def warnings (st : MainState) : List Warning :=
  st.resolutions.flatMap fun (_, r) => r.warnings

/-- The number of consumers for which producers at several endpoints were found. -/
def ambiguousCount (st : MainState) : Nat :=
  st.resolutions.countP fun (_, r) => r.ambiguous

/-- The strategy that found a producer. -/
def successful? (r : Resolution) : Option Strategy :=
  if r.producer.isSome then r.strategy else none

/-- The number of producers found by each strategy. -/
def strategyCounts (st : MainState) : SortedMap Nat :=
  (st.resolutions.filterMap fun (_, r) => successful? r).foldl (fun m s => m.count s.word) .empty

end MainState

namespace Setup

/-- Resolve one consumer. -/
def mainStep (around : Surroundings) (st : MainState) (c : Consumer) : MainState :=
  let (resolution, dictionary) := c.resolve around st.dictionary
  ⟨dictionary, st.resolutions ++ [(c, resolution)]⟩

/-- Resolve every consumer. -/
def mainPass (s : Setup) (index : ProducerIndex) (consumers : List Consumer) (d : Dictionary) :
    MainState :=
  consumers.foldl (mainStep (s.surroundings index)) ⟨d, []⟩

end Setup

/-- Where the pass over mirrored properties stands. -/
structure SameBodyState where
  dependencies : List Dependency
  dictionary : Dictionary
  /-- The number of properties that mirror another one. -/
  count : Nat := 0

namespace SameBodyState

/-- Give a producer to the dependency at a position. -/
def bind (dependencies : List Dependency) (position : Nat) (p : Producer) : List Dependency :=
  dependencies.modify position fun d => { d with producer := some p }

/-- Give a producer to the first dependency without one whose consumer is the given resource. -/
def bindFirst (dependencies : List Dependency) (r : Resource) (p : Producer) : List Dependency :=
  match dependencies.findIdx? fun d => d.producer.isNone && d.consumer.resource == r with
  | some position => bind dependencies position p
  | none => dependencies

/-- Let the consumer at a position mirror a property, unless it has a producer. The mirrored
property is bound to the uuid suffix that both share, if it is a consumer without a producer itself.
-/
def step (index : ProducerIndex) (aliases : SortedMap String) (st : SameBodyState)
    (position : Nat) : SameBodyState :=
  match st.dependencies[position]? with
  | some ⟨consumer, none⟩ =>
    let (found, dictionary) := consumer.resolveSameBody index aliases st.dictionary
    match found with
    | some m =>
      let backed := bindFirst st.dependencies m.producer (.dictionary m.payload)
      ⟨bind backed position (.sameBody m.producer), dictionary, st.count + 1⟩
    | none => { st with dictionary }
  | _ => st

end SameBodyState

namespace Setup

/-- Let consumers without a producer mirror properties of the same body. -/
def sameBodyPass (s : Setup) (index : ProducerIndex) (dependencies : List Dependency)
    (d : Dictionary) : SameBodyState :=
  (List.range dependencies.length).foldl (SameBodyState.step index s.config.aliases)
    ⟨dependencies, d, 0⟩

/-- The directives of an interface with the requests that carry them. -/
def ownedDirectives (s : Setup) (i : Interface) : List (Directive × Option RequestId) :=
  (i.requests.flatMap fun e => e.directives.map (·, some e.id)) ++ s.directives.map (·, none)

/-- The constraints of directives, then those that dependencies imply. -/
def constraints (s : Setup) (i : Interface) (dependencies : List Dependency) :
    List OrderingConstraint :=
  OrderingConstraint.settled <|
    OrderingConstraint.ofDirectives (s.ownedDirectives i) ++ OrderingConstraint.implied dependencies

/-- The passes that follow the collection. -/
def resolve (s : Setup) (i : Interface) (c : Collection) (d : Dictionary) :
    List Warning × Except Failure Extraction :=
  let writers := s.writerPass (s.initialPool i c) c.consumers d
  let index := writers.pool.index
  let main := s.mainPass index c.consumers writers.dictionary
  let mirrored := s.sameBodyPass index main.dependencies main.dictionary
  let constraints := s.constraints i mirrored.dependencies
  let warnings := Directive.idleWarnings (s.declaredDirectives i) c ++ writers.warnings ++
    main.warnings ++ OrderingConstraint.cycleWarnings constraints
  (warnings, do
    let groups ← DependencyGroups.ofList (Dependency.aliasInputs mirrored.dependencies)
    return {
      dependencies := groups
      orderingConstraints := constraints
      dictionary := mirrored.dictionary
      endpointDictionaries := s.endpointDictionaries
      consumers := c.consumers
      producers := index.producers ++ OrderingConstraint.producers constraints
      statistics := {
        consumers := c.consumers.length
        resolved := groups.resolvedCount
        unresolved := c.consumers.length - groups.resolvedCount
        ambiguous := main.ambiguousCount
        byStrategy := main.strategyCounts
        sameBody := mirrored.count
        equalityAliases := Dependency.aliasCount mirrored.dependencies
        writerProducers := writers.count
        uuidSuffixes := mirrored.dictionary.uuidSuffixes.size } })

/-- Find the dependencies of an interface, with what is reported on the way. -/
def extract (s : Setup) (i : Interface) (d : Dictionary) :
    List Warning × Except Failure Extraction :=
  match s.collect i with
  | (warnings, .error f) => (warnings, .error f)
  | (warnings, .ok c) =>
    let (more, result) := s.resolve i c d
    (warnings ++ more, result)

end Setup

end RestFlow
