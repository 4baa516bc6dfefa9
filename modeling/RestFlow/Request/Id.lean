import RestFlow.Digest.Sha256
import RestFlow.Text.Basic

/-!
# Requests

Endpoints, methods, and the identities that are made of them.
-/

namespace RestFlow.Endpoint

/-!
## Endpoint templates

An endpoint is a template such as `/stores/{storeId}/orders`: literal segments name containers,
segments in braces are path parameters. Only the non-empty segments count, so endpoints that differ
in repeated or trailing slashes are one endpoint.
-/

/-- The non-empty segments of an endpoint. -/
def segments (endpoint : String) : List String :=
  Text.piecesOf '/' endpoint

/-- The endpoint made of some segments. -/
def ofSegments (parts : List String) : String :=
  "/" ++ "/".intercalate parts

/-- The one spelling of an endpoint without empty segments. -/
def normalize (endpoint : String) : String :=
  ofSegments (segments endpoint)

/-- A segment is a path parameter when it is a name in braces. -/
def isParameter (segment : String) : Bool :=
  let cs := segment.toList
  cs.length > 2 && cs.head? == some '\x7b' && cs.getLast? == some '\x7d'

/-- The segment that stands for the parameter of a given name. -/
def marker (name : String) : String :=
  "\x7b" ++ name ++ "\x7d"

/-- Whether `ancestor` is a proper initial part of `descendant`, segment by segment. -/
def isStrictAncestor (ancestor descendant : String) : Bool :=
  let a := segments ancestor
  let d := segments descendant
  a.length < d.length && a.isPrefixOf d

/-- The container of the parameter that ends a list of segments: the literal segment right before
it. -/
def parameterContainer (parts : List String) : Option String :=
  match parts.dropLast.getLast? with
  | some container => if isParameter container then none else some container
  | none => none

/-- The container that a whole endpoint speaks of: its last segment if that is literal, or else the
literal segment before it. -/
def container (parts : List String) : Option String :=
  match parts.getLast? with
  | some last => if isParameter last then parameterContainer parts else some last
  | none => none

/-- The segments up to and including the parameter of a given name, or all of them when there is no
such parameter. -/
def upToParameter (name endpoint : String) : List String :=
  let parts := segments endpoint
  match parts.findIdx? (· == marker name) with
  | some i => parts.take (i + 1)
  | none => parts

/-- The segments with the names of parameters erased. -/
def shape (endpoint : String) : List String :=
  (segments endpoint).map fun part => if isParameter part then "\x7b\x7d" else part

end RestFlow.Endpoint

namespace RestFlow

/-!
## Request methods

The methods in their natural order, which is that of their declaration, and the rank by which
listings put creating methods first.
-/

/-- The method of a request. -/
inductive Method where
  | get
  | post
  | put
  | patch
  | delete
  | head
  | options
  | trace
  deriving DecidableEq, Repr, Inhabited

namespace Method

/-- All methods, in their order. -/
def all : List Method := [get, post, put, patch, delete, head, options, trace]

/-- The place of a method in their order. -/
def index : Method → Nat
  | get => 0
  | post => 1
  | put => 2
  | patch => 3
  | delete => 4
  | head => 5
  | options => 6
  | trace => 7

instance : Ord Method := ⟨fun a b => compare a.index b.index⟩

/-- The place of a method in listings, where requests that create come before those that read. -/
def rank : Method → Nat
  | post => 0
  | put => 1
  | patch => 2
  | get => 3
  | delete => 4
  | head => 5
  | options => 6
  | trace => 7

/-- The method in small letters. -/
def lowerName : Method → String
  | get => "get"
  | post => "post"
  | put => "put"
  | patch => "patch"
  | delete => "delete"
  | head => "head"
  | options => "options"
  | trace => "trace"

/-- The method in capitals, as requests write it. -/
def name : Method → String
  | get => "GET"
  | post => "POST"
  | put => "PUT"
  | patch => "PATCH"
  | delete => "DELETE"
  | head => "HEAD"
  | options => "OPTIONS"
  | trace => "TRACE"

/-- The method that a word names in any mixture of cases. -/
def ofName? (text : String) : Option Method :=
  all.find? fun m => m.lowerName == Text.lowerAscii text

@[simp] theorem ofName?_name (m : Method) : ofName? m.name = some m := by
  cases m <;> decide

end Method

/-!
## Identities of requests

A request is identified by its endpoint and its method. The spelling of the endpoint and a second
path under which the request is known are kept for output, but two identities are equal, and ordered,
by the normalized endpoint and the method alone.
-/

/-- The identity of a request. -/
structure RequestId where
  /-- The endpoint as it was written. -/
  endpoint : String
  method : Method
  /-- Another path under which the same request is declared. -/
  alternatePath : Option String := none
  deriving Repr, Inhabited

namespace RequestId

/-- The normalized endpoint. -/
def place (r : RequestId) : String :=
  Endpoint.normalize r.endpoint

/-- What decides equality and order. -/
def key (r : RequestId) : String × Method :=
  (r.place, r.method)

instance : BEq RequestId := ⟨fun a b => a.place == b.place && a.method == b.method⟩

instance : Ord RequestId :=
  ⟨fun a b => (compare a.place b.place).then (compare a.method b.method)⟩

/-- Requests are equal exactly when endpoint and method are, up to empty segments. -/
@[simp] theorem beq_iff {a b : RequestId} : (a == b) = true ↔ a.key = b.key := by
  show (a.place == b.place && a.method == b.method) = true ↔ _
  simp [key]

instance : EquivBEq RequestId where
  rfl := by simp
  symm h := by simp_all
  trans h k := by simp_all

/-- The segments of the endpoint. -/
def segments (r : RequestId) : List String :=
  Endpoint.segments r.endpoint

/-- The method and the endpoint as it was written. -/
def text (r : RequestId) : String :=
  r.method.name ++ " " ++ r.endpoint

/-- The text whose digest stands for the request: equal requests share it. -/
def canonicalText (r : RequestId) : String :=
  r.method.name ++ " " ++ r.place

/-- The digest that stands for the request, after the name of the algorithm. -/
def contentHash (r : RequestId) : String :=
  "sha256:" ++ Sha256.ofText r.canonicalText

end RequestId

end RestFlow
