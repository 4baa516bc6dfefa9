import RestFlow.Body.AccessPath
import RestFlow.Request.Id

/-!
# References to parameters and properties

Where a value is found in a request or response: in a path, query or header parameter, or at a place
in a body.
-/

namespace RestFlow

/-- The kind of place a reference is to. -/
inductive ParameterKind where
  | path
  | query
  | header
  | body
  deriving DecidableEq, Repr, Inhabited

namespace ParameterKind

/-- All kinds, in the order of listings. -/
def all : List ParameterKind := [path, query, header, body]

/-- The place of a kind in listings. -/
def index : ParameterKind → Nat
  | path => 0
  | query => 1
  | header => 2
  | body => 3

instance : Ord ParameterKind := ⟨fun a b => compare a.index b.index⟩

/-- The word that names the kind. -/
def word : ParameterKind → String
  | path => "path"
  | query => "query"
  | header => "header"
  | body => "body"

end ParameterKind

/-- Where a value is found. -/
inductive Reference where
  /-- In the path parameter that ends these segments of the endpoint. -/
  | path (name : String) (segments : List String)
  | query (name : String)
  | header (name : String)
  /-- At a place in a body. -/
  | body (name : String) (place : AccessPath)
  deriving DecidableEq, Repr, Inhabited

namespace Reference

/-- The reference to a path parameter of an endpoint. -/
def ofPathParameter (name endpoint : String) : Reference :=
  path name (Endpoint.upToParameter name endpoint)

/-- The reference to a place in a body, named after the last property on the way to it. -/
def ofPlace (place : AccessPath) : Reference :=
  body (place.lastName?.getD "") place

/-- The name of the parameter or property. -/
def name : Reference → String
  | path n _ | query n | header n | body n _ => n

/-- The kind of place. -/
def kind : Reference → ParameterKind
  | path .. => .path
  | query _ => .query
  | header _ => .header
  | body .. => .body

/-- The place in the body; only references into bodies have one. -/
def place? : Reference → Option AccessPath
  | body _ place => some place
  | _ => none

/-- The place of the object or array around a property. -/
def enclosingPlace? (r : Reference) : Option AccessPath :=
  r.place?.bind AccessPath.parent?

/-- The name of the property around a property. -/
def bodyContainer? (r : Reference) : Option String :=
  r.enclosingPlace?.bind AccessPath.lastName?

/-- The name of what contains the value, given the segments of the endpoint. A property at the root
of a body has no container. -/
def container? (r : Reference) (segments : List String) : Option String :=
  match r with
  | path _ upTo => Endpoint.parameterContainer upTo
  | query _ | header _ => Endpoint.container segments
  | body .. => r.bodyContainer?

/-- The part of the endpoint that ends with the path parameter. -/
def scope? : Reference → Option String
  | path _ upTo => some (Endpoint.ofSegments upTo)
  | _ => none

end Reference

end RestFlow
