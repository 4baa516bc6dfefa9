import RestFlow.Body.AccessPath

/-!
# Schemas of bodies

Trees, and the payloads at their leaves.
-/

namespace RestFlow

/-!
## Payloads of leaves

What the schema says about the value at a leaf: its primitive type, and whether it is fixed, free or
bound to an entry of the dictionary.
-/

/-- The type of a primitive value. -/
inductive PrimitiveType where
  | string
  | object
  | number
  | int
  | bool
  | uuid
  | dateTime
  | date
  deriving DecidableEq, Repr, Inhabited

namespace PrimitiveType

/-- All primitive types. -/
def all : List PrimitiveType := [string, object, number, int, bool, uuid, dateTime, date]

/-- The word that names the type in documents. -/
def word : PrimitiveType → String
  | string => "string"
  | object => "object"
  | number => "number"
  | int => "int"
  | bool => "bool"
  | uuid => "uuid"
  | dateTime => "date_time"
  | date => "date"

end PrimitiveType

/-- The part of the dictionary that a value is taken from. -/
inductive CustomKind where
  | string
  /-- A value made unique by a generated ending. -/
  | uuidSuffix
  | header
  | query
  deriving DecidableEq, Repr, Inhabited

namespace CustomKind

/-- All kinds. -/
def all : List CustomKind := [string, uuidSuffix, header, query]

/-- The word that names the kind in documents. -/
def word : CustomKind → String
  | string => "string"
  | uuidSuffix => "uuid_suffix"
  | header => "header"
  | query => "query"

/-- The name of the kind in listings. -/
def title : CustomKind → String
  | string => "String"
  | uuidSuffix => "UuidSuffix"
  | header => "Header"
  | query => "Query"

end CustomKind

/-- The value that a leaf carries. -/
inductive Payload where
  /-- A value fixed by the schema. -/
  | constant (type : PrimitiveType) (value : String)
  /-- A value that may be chosen freely. -/
  | fuzzable (type : PrimitiveType) (default : Option String)
  /-- A value bound to an entry of the dictionary. -/
  | custom (kind : CustomKind) (type : PrimitiveType) (value : String) (isObject : Bool)
  deriving DecidableEq, Repr, Inhabited

namespace Payload

/-- The primitive type of the value. -/
def type : Payload → PrimitiveType
  | constant t _ => t
  | fuzzable t _ => t
  | custom _ t _ _ => t

/-- Whether the value may be chosen freely. -/
def isFuzzable : Payload → Bool
  | fuzzable .. => true
  | _ => false

end Payload

/-!
## Schema trees

Parameters and bodies are described by trees: leaves carry payloads, internal nodes are objects or
arrays. `Tree.visits` lists the nodes of a tree in document order, each with its access path.
-/

/-- The shape of an internal node. -/
inductive Nesting where
  | object
  | array
  deriving DecidableEq, Repr, Inhabited

namespace Nesting

/-- The word that names the shape in documents. -/
def word : Nesting → String
  | object => "object"
  | array => "array"

end Nesting

/-- A node without children. -/
structure Leaf where
  /-- The property name; empty for the elements of an array. -/
  name : String
  payload : Payload
  isRequired : Bool
  isReadonly : Bool
  deriving DecidableEq, Repr, Inhabited

/-- A schema tree. -/
inductive Tree where
  | leaf (node : Leaf)
  /-- An object or array; the name is empty for the body itself and for the elements of an array. -/
  | internal (name : String) (nesting : Nesting) (isRequired isReadonly : Bool)
    (children : List Tree)
  deriving BEq, Repr

/-- A node met on a walk, without its children. -/
inductive Node where
  | leaf (node : Leaf)
  | internal (nesting : Nesting) (isReadonly : Bool)
  deriving DecidableEq, Repr

namespace Node

/-- The node is marked as readonly. -/
def isReadonly : Node → Bool
  | leaf node => node.isReadonly
  | internal _ readonly => readonly

end Node

namespace Tree

instance : Inhabited Tree := ⟨leaf default⟩

/-- The name of the node at the top. -/
def name : Tree → String
  | leaf node => node.name
  | internal name .. => name

/-- The node at the top is an array. -/
def isArray : Tree → Bool
  | internal _ .array .. => true
  | _ => false

/-- The path of a node below `base`: nodes without a name stay where they are. -/
def step (base : AccessPath) (name : String) : AccessPath :=
  if name.isEmpty then base else base.child name

/-- The path of the children of a node at `path`. -/
def inside (path : AccessPath) : Nesting → AccessPath
  | .object => path
  | .array => path.child AccessPath.arrayMarker

mutual

/-- The nodes of a tree below `base`, in document order and with their paths. An internal node at
the root itself is not listed. -/
def visits (base : AccessPath) : Tree → List (AccessPath × Node)
  | leaf node => [(step base node.name, .leaf node)]
  | internal name nesting _ isReadonly children =>
    let path := step base name
    let below := visitsOfAll (inside path nesting) children
    if path.isRoot then below else (path, .internal nesting isReadonly) :: below

/-- The nodes of several trees below `base`. -/
def visitsOfAll (base : AccessPath) : List Tree → List (AccessPath × Node)
  | [] => []
  | tree :: rest => visits base tree ++ visitsOfAll base rest

end

/-- The leaves of a tree with their access paths, in document order. -/
def leaves (tree : Tree) : List (AccessPath × Leaf) :=
  (tree.visits AccessPath.root).filterMap fun
    | (path, .leaf node) => some (path, node)
    | _ => none

end Tree

end RestFlow
