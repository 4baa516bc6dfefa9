import RestFlow.Dictionary.Basic
import RestFlow.Flow.Dependency

/-!
# Results

What a run found, in full and in a few lines.
-/

namespace RestFlow

/-!
## Results of a run

The dependencies that were found, grouped by the key under which their consumers are listed, with
everything that belongs to them.
-/

/-- What a run counts. -/
structure Statistics where
  consumers : Nat := 0
  resolved : Nat := 0
  unresolved : Nat := 0
  /-- Consumers for which producers at several endpoints were found. -/
  ambiguous : Nat := 0
  /-- The number of producers found by each strategy. -/
  byStrategy : SortedMap Nat := .empty
  sameBody : Nat := 0
  equalityAliases : Nat := 0
  writerProducers : Nat := 0
  uuidSuffixes : Nat := 0
  deriving BEq, Inhabited

/-- Dependencies by the listing key of their consumer. -/
abbrev DependencyGroups := SortedMap (List Dependency)

namespace DependencyGroups

/-- The dependencies of all groups, in the order of listings. -/
def all (groups : DependencyGroups) : List Dependency :=
  sortOn (fun d => d.consumer.listingKey) (SortedMap.values groups).flatten

/-- The number of dependencies with a producer. -/
def resolvedCount (groups : DependencyGroups) : Nat :=
  (SortedMap.values groups).flatten.countP Dependency.isResolved

/-- The failure of giving a consumer a second, different producer. -/
def conflict? (bound : List (ConsumerKey × Producer)) (key : ConsumerKey) (p : Producer) :
    Option Failure :=
  match bound.find? fun b => b.1 == key with
  | some (_, existing) =>
    if existing == p then none
    else some (.resolutionConflict key.text existing.text p.text)
  | none => none

/-- Add dependencies to groups, given the producers that consumers are bound to already. -/
def group (bound : List (ConsumerKey × Producer)) (groups : DependencyGroups) :
    List Dependency → Except Failure DependencyGroups
  | [] => .ok groups
  | d :: rest =>
    let groups' := SortedMap.append groups d.consumer.resource.mapKey d
    match d.producer with
    | none => group bound groups' rest
    | some p =>
      match conflict? bound d.consumer.key p with
      | some f => .error f
      | none => group (bound ++ [(d.consumer.key, p)]) groups' rest

/-- Group dependencies; consumers with one key need to have one producer. -/
def ofList (dependencies : List Dependency) : Except Failure DependencyGroups :=
  group [] SortedMap.empty dependencies

end DependencyGroups

/-- What a run finds. -/
structure Extraction where
  dependencies : DependencyGroups
  orderingConstraints : List OrderingConstraint
  /-- The dictionary with every uuid suffix that was added. -/
  dictionary : Dictionary
  endpointDictionaries : EndpointDictionaries
  /-- The consumers, in the order of listings. -/
  consumers : List Consumer
  /-- The producers of the index, then the ordering constraints. -/
  producers : List Producer
  statistics : Statistics
  deriving Inhabited

namespace Extraction

/-- The dependencies in the order of listings. -/
def all (x : Extraction) : List Dependency :=
  x.dependencies.all

/-- The dependencies without a producer. -/
def unresolved (x : Extraction) : List Dependency :=
  x.all.filter fun d => !d.isResolved

/-- The dependency of the first consumer of a request with this name. -/
def dependencyFor (x : Extraction) (request : RequestId) (name : String) : Option Dependency :=
  x.all.find? fun d => d.consumer.request == request && d.consumer.name == name

/-- The producer of the first consumer of a request with this name. -/
def producerFor (x : Extraction) (request : RequestId) (name : String) : Option Producer :=
  (x.dependencyFor request name).bind Dependency.producer

end Extraction

end RestFlow

namespace RestFlow.Extraction

/-!
## Summaries of runs

What a run found, in a few lines. Counts of nothing are left out, but for the first one.
-/

/-- A line about a number of things, if there are any. -/
def countLine (before : String) (n : Nat) (after : String) : List String :=
  if n = 0 then [] else [before ++ toString n ++ after]

/-- What a run found, in lines. -/
def summary (x : Extraction) : List String :=
  let s := x.statistics
  ("✓ Resolved " ++ toString s.resolved ++ "/" ++ toString s.consumers ++ " consumers") ::
    s.byStrategy.entries.map (fun e => "  " ++ e.1 ++ ": " ++ toString e.2) ++
    countLine "  same_body: " s.sameBody "" ++
    countLine "  equality aliases: " s.equalityAliases "" ++
    countLine "  ordering constraints: " x.orderingConstraints.length "" ++
    countLine "⚠ " s.unresolved " unresolved consumers" ++
    countLine "⚠ " s.ambiguous " ambiguous matches left unresolved"

end RestFlow.Extraction
