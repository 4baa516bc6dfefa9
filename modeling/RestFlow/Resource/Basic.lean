import RestFlow.Body.Tree
import RestFlow.Failure.Basic
import RestFlow.Naming.TypeName
import RestFlow.Request.Id
import RestFlow.Resource.Reference

/-!
# Resources

A resource is a reference situated in a request, together with what is inferred from its name and
its container: the type names it may have and the name that a producer is expected to give it.
-/

namespace RestFlow

/-- A reference situated in a request. -/
structure Resource where
  request : RequestId
  reference : Reference
  convention : Convention
  type : PrimitiveType
  container : Option String
  bodyContainer : Option String
  /-- The type names that the resource may have, most specific first. -/
  candidateTypes : List String
  /-- The name that a producer of the resource is expected to carry. -/
  producerParameter : String
  isNested : Bool
  deriving BEq, Repr, Inhabited

/-- Which side of a request a resource is on. -/
inductive Side where
  | input
  | output
  deriving DecidableEq, Repr

namespace Resource

/-- What is wrong with a reference: a place in a body has to lead somewhere, and every reference
needs a name. -/
def fault? (r : Reference) : Option String :=
  if r.place?.any AccessPath.isRoot then
    some ("body resource '" ++ r.name ++ "' has no access path")
  else if r.name.isEmpty then some ("empty " ++ r.kind.word ++ " resource name")
  else none

/-- The container of a reference. A property at the root of a response describes what the endpoint
returns, so the endpoint's container is its own. -/
def containerOn (side : Side) (request : RequestId) (r : Reference) : Option String :=
  match r.container? request.segments with
  | some container => some container
  | none =>
    if side = .output && r.place?.isSome then Endpoint.container request.segments else none

/-- The resource of a sound reference. -/
def situated (side : Side) (request : RequestId) (r : Reference) (convention : Convention)
    (type : PrimitiveType) : Resource :=
  let container := containerOn side request r
  let bodyContainer := r.bodyContainer?
  let types := Naming.candidateTypes container convention bodyContainer.isSome
    (convention.split r.name)
  { request, reference := r, convention, type, container, bodyContainer
    candidateTypes := types
    producerParameter := Naming.producerParameter r.name convention types
    isNested := bodyContainer.isSome }

/-- Situate a reference in a request. -/
def situate (side : Side) (request : RequestId) (r : Reference) (convention : Convention)
    (type : PrimitiveType) : Except Failure Resource :=
  match fault? r with
  | some reason => .error (.malformedResource request.text reason)
  | none => .ok (situated side request r convention type)

/-- The name of the parameter or property. -/
def name (r : Resource) : String :=
  r.reference.name

/-- The place in a body. -/
def place? (r : Resource) : Option AccessPath :=
  r.reference.place?

/-- The most specific type name. -/
def primaryType? (r : Resource) : Option String :=
  r.candidateTypes.head?

/-- The key under which listings show the resource: the pointer to its place, or its name. -/
def mapKey (r : Resource) : String :=
  match r.place? with
  | some place => place.pointer
  | none => r.name

/-- The resource on one line. -/
def text (r : Resource) : String :=
  r.request.text ++ " " ++ r.reference.kind.word ++ " " ++ r.mapKey

/-- What resources are sorted by. -/
structure SortKey where
  place : String
  method : Method
  mapKey : String
  name : String
  kind : String

instance : Ord SortKey := ⟨fun a b =>
  (compare a.place b.place).then <| (compare a.method b.method).then <|
    (compare a.mapKey b.mapKey).then <| (compare a.name b.name).then (compare a.kind b.kind)⟩

/-- The key of a resource: its request, its listing key, its name and its kind. -/
def sortKey (r : Resource) : SortKey :=
  ⟨r.request.place, r.request.method, r.mapKey, r.name, r.reference.kind.word⟩

end Resource

end RestFlow
