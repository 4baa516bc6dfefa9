import RestFlow.Flow.Dependency
import RestFlow.Order.Sorting

/-!
# The producer index

Producers are gathered in a `ProducerPool` and then frozen into a `ProducerIndex`, whose lists are
sorted by request, place and name. A look-up selects from these lists, so that its answers come in
that order too; of equal resources that come one after the other it gives only the first.
-/

namespace RestFlow

/-- Producers in the order in which they were found. -/
structure ProducerPool where
  responses : List Resource := []
  sameBody : List Resource := []
  inputs : List (Resource × InputOrigin) := []
  deriving Inhabited

namespace ProducerPool

/-- Add a value of a response. -/
def addResponse (pool : ProducerPool) (r : Resource) : ProducerPool :=
  { pool with responses := pool.responses ++ [r] }

/-- Add a property of a request body. -/
def addSameBody (pool : ProducerPool) (r : Resource) : ProducerPool :=
  { pool with sameBody := pool.sameBody ++ [r] }

/-- Add an input of a request; an input that was added before keeps its origin. -/
def addInput (pool : ProducerPool) (r : Resource) (origin : InputOrigin) : ProducerPool :=
  if pool.inputs.any fun i => i.1 == r then pool
  else { pool with inputs := pool.inputs ++ [(r, origin)] }

end ProducerPool

/-- Producers in the order of look-ups. -/
structure ProducerIndex where
  responses : List Resource := []
  sameBody : List Resource := []
  inputs : List (Resource × InputOrigin) := []
  deriving Inhabited

/-- Freeze the producers of a pool. -/
def ProducerPool.index (pool : ProducerPool) : ProducerIndex where
  responses := sortOn Resource.sortKey pool.responses
  sameBody := sortOn Resource.sortKey pool.sameBody
  inputs := sortOn (fun i => i.1.sortKey) pool.inputs

namespace ProducerIndex

/-- The responses with this name at an endpoint. -/
def responsesNamed (index : ProducerIndex) (name endpoint : String) : List Resource :=
  let place := Endpoint.normalize endpoint
  dropRepeats (index.responses.filter fun r => r.name == name && r.request.place == place)

/-- The responses whose most specific type is the one of this name. -/
def responsesOfType (index : ProducerIndex) (type : String) : List Resource :=
  let key := Naming.typeKey type
  dropRepeats (index.responses.filter fun r => r.primaryType?.any fun t => Naming.typeKey t == key)

/-- The responses of a request, by name, that have the given name and place where these are given.
-/
def responsesOf (index : ProducerIndex) (request : RequestId) (name : Option String)
    (place : Option AccessPath) : List Resource :=
  (dropRepeats (sortOn Resource.name (index.responses.filter fun r => r.request == request))).filter
    fun r => name.all (r.name == ·) && place.all fun p => r.place? == some p

/-- The body properties of this name. -/
def sameBodyNamed (index : ProducerIndex) (name : String) : List Resource :=
  dropRepeats (index.sameBody.filter fun r => r.name == name)

/-- The inputs of this name. -/
def inputsNamed (index : ProducerIndex) (name : String) : List (Resource × InputOrigin) :=
  index.inputs.filter fun i => i.1.name == name

/-- All producers: the responses, the body properties and the inputs, each by name. -/
def producers (index : ProducerIndex) : List Producer :=
  (dropRepeats (sortOn Resource.name index.responses)).map .response ++
    (dropRepeats (sortOn Resource.name index.sameBody)).map .sameBody ++
    (sortOn (fun i => i.1.name) index.inputs).map fun i => .inputOnly i.1 i.2

end ProducerIndex

end RestFlow
