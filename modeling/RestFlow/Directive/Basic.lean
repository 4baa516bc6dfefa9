import RestFlow.Body.AccessPath
import RestFlow.Request.Id

/-!
# Directives

A directive overrides inference: it names a request that produces a value and, optionally, the
value, the request that consumes it and the parameter that it feeds. A directive that names no
parameter on either side only puts two requests in order.

Directives stand on the consuming request, apply to the whole interface, or follow from response
links; `DirectiveSets.find?` looks for one in this order.
-/

namespace RestFlow

/-- A parameter named by a directive. -/
inductive ParameterRef where
  /-- By its name. -/
  | name (name : String)
  /-- By its place in a body. -/
  | path (path : AccessPath)
  deriving DecidableEq, Repr, Inhabited

namespace ParameterRef

/-- A text that starts with a slash is a path, any other one a name. -/
def ofText (text : String) : ParameterRef :=
  if text.toList.head? = some '/' then path (.ofPointer text) else name text

/-- The written form of the reference. -/
def text : ParameterRef → String
  | name n => n
  | path p => p.pointer

/-- Whether the reference is to the parameter with this name and, in a body, this place. -/
def refersTo (r : ParameterRef) (parameter : String) (place : Option AccessPath) : Bool :=
  match r with
  | name n => n == parameter
  | path p => place == some p

end ParameterRef

/-- A relation between the producer of a value and its consumer, as declared by the user. -/
structure Directive where
  producer : RequestId
  /-- The consuming request; absent when it is the request that carries the directive. -/
  consumer : Option RequestId
  producerParameter : Option ParameterRef
  consumerParameter : Option ParameterRef
  /-- Requests that the directive does not apply to. -/
  exceptions : List RequestId
  deriving BEq, Repr

namespace Directive

/-- No parameter is named on either side. -/
def isOrderingOnly (a : Directive) : Bool :=
  a.producerParameter.isNone && a.consumerParameter.isNone

/-- The parameter on the consuming side, by default the one on the producing side. -/
def fedParameter (a : Directive) : Option ParameterRef :=
  a.consumerParameter <|> a.producerParameter

/-- The parameter on the producing side, by default the one on the consuming side. -/
def takenParameter (a : Directive) : Option ParameterRef :=
  a.producerParameter <|> a.consumerParameter

/-- Whether the directive feeds the parameter of a request with this name and place. -/
def appliesTo (a : Directive) (request : RequestId) (parameter : String)
    (place : Option AccessPath) : Bool :=
  !a.isOrderingOnly && !a.exceptions.contains request &&
    a.consumer.all (· == request) && a.fedParameter.any fun r => r.refersTo parameter place

/-- The directive on one line. -/
def text (a : Directive) : String :=
  let bracketed (r : Option ParameterRef) : String :=
    match r with
    | some r => " [" ++ r.text ++ "]"
    | none => ""
  let arrow : String :=
    match a.consumer with
    | some c => " -> " ++ c.text
    | none => ""
  a.producer.text ++ bracketed a.producerParameter ++ arrow ++ bracketed a.consumerParameter

end Directive

/-- Where a directive was declared. -/
inductive DirectiveScope where
  /-- On the consuming request. -/
  | request
  /-- For the whole interface. -/
  | interface
  /-- On a response link. -/
  | link
  deriving DecidableEq, Repr, Inhabited

namespace DirectiveScope

/-- All scopes, in decreasing precedence. -/
def all : List DirectiveScope := [request, interface, link]

/-- The word that names the scope in documents. -/
def word : DirectiveScope → String
  | request => "local"
  | interface => "global"
  | link => "link"

end DirectiveScope

/-- A directive that applies to some parameter, with its scope. -/
structure MatchedDirective where
  scope : DirectiveScope
  directive : Directive
  deriving BEq, Repr

/-- The directives that are to be searched for a request, by scope. -/
structure DirectiveSets where
  onRequest : List Directive
  onInterface : List Directive
  onLinks : List Directive

namespace DirectiveSets

/-- The directives of a scope. -/
def inScope (sets : DirectiveSets) : DirectiveScope → List Directive
  | .request => sets.onRequest
  | .interface => sets.onInterface
  | .link => sets.onLinks

/-- The first directive that applies to a parameter, scope by scope. -/
def find? (sets : DirectiveSets) (request : RequestId) (parameter : String)
    (place : Option AccessPath) : Option MatchedDirective :=
  DirectiveScope.all.findSome? fun scope =>
    ((sets.inScope scope).find? fun a => a.appliesTo request parameter place).map fun a =>
      ⟨scope, a⟩

end DirectiveSets

end RestFlow
