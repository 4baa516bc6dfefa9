import RestFlow.Extraction.Collection
import RestFlow.Failure.Trouble
import RestFlow.Json.Printer

/-!
# Inspection

What can be said about inputs before a run, and how it is told.
-/

namespace RestFlow

/-!
## Inspecting inputs

Inputs can be inspected without resolving anything. An inspection goes on after a failure and lists
everything that is wrong: requests whose parameters are not supported, directives that name requests
which the interface does not have, repeated requests, and dictionaries of endpoints that do not
exist. The last two only deserve a warning.
-/

/-- What is suspicious in inputs without being wrong. -/
inductive Suspicion where
  /-- A request that was described before. -/
  | repeated (request : RequestId)
  /-- A dictionary for an endpoint that no request has. -/
  | unknownEndpoint (endpoint : String)
  deriving BEq, Repr

/-- The text of a suspicion. -/
def Suspicion.text : Suspicion → String
  | repeated request => "Duplicate request " ++ request.text ++ " will be ignored"
  | unknownEndpoint endpoint => "Per-endpoint dictionary names unknown endpoint " ++ endpoint

namespace Interface

/-- The requests described, each with whether it was described before. -/
def marked (seen : List RequestId) : List RequestEntry → List (RequestEntry × Bool)
  | [] => []
  | e :: rest => (e, seen.contains e.id) :: marked (e.id :: seen) rest

/-- The failures of the requests, where repeated ones are passed over. -/
def faults (i : Interface) : List Failure :=
  (marked [] i.requests).filterMap fun (e, repeated) => if repeated then none else e.fault?

/-- The repeated requests. -/
def repetitions (i : Interface) : List RequestId :=
  (marked [] i.requests).filterMap fun (e, repeated) => if repeated then some e.id else none

/-- The interface has a request. -/
def hasRequest (i : Interface) (request : RequestId) : Bool :=
  i.requests.any fun e => e.id == request

/-- Some request has this endpoint, which is given in normalized form. -/
def hasEndpoint (i : Interface) (endpoint : String) : Bool :=
  i.requests.any fun e => e.id.place == endpoint

end Interface

namespace Directive

/-- The requests that a directive names. -/
def namedRequests (a : Directive) : List RequestId :=
  a.producer :: a.consumer.toList ++ a.exceptions

end Directive

/-- The requests that directives name and that an interface does not have, in order and without
repetition; of several spellings the last one is kept. -/
def unknownRequests (i : Interface) (as : List Directive) : List RequestId :=
  dropRepeats (sortBy compare
    ((as.flatMap Directive.namedRequests).filter fun r => !i.hasRequest r).reverse)

/-- What an inspection finds. -/
structure Inspection where
  requestFaults : List Failure
  directiveFaults : List Failure
  suspicions : List Suspicion
  /-- The number of requests described. -/
  requests : Nat
  /-- The number of directives declared. -/
  directives : Nat

namespace Inspection

/-- Inspect an interface and what a run is set up with. -/
def of (s : Setup) (i : Interface) : Inspection where
  requestFaults := i.faults
  directiveFaults := (unknownRequests i (s.declaredDirectives i)).map fun r =>
    .unknownDirectiveRequest r.text
  suspicions := i.repetitions.map .repeated ++
    ((SortedMap.keys s.endpointDictionaries).filter fun e => !i.hasEndpoint e).map .unknownEndpoint
  requests := i.requests.length
  directives := (s.declaredDirectives i).length

/-- The failures, those of requests first. -/
def faults (x : Inspection) : List Failure :=
  x.requestFaults ++ x.directiveFaults

/-- Nothing is wrong; in strict mode nothing is suspicious either. -/
def isValid (x : Inspection) (strict : Bool) : Bool :=
  x.faults.isEmpty && (!strict || x.suspicions.isEmpty)

end Inspection

/-!
## Verdicts on inputs

The outcome of loading and inspecting inputs, as it is shown to users: in lines of text or as one
JSON document.
-/

/-- How a verdict is shown. -/
inductive VerdictFormat where
  | text
  | json
  deriving DecidableEq, Repr, Inhabited

namespace VerdictFormat

/-- All formats. -/
def all : List VerdictFormat := [text, json]

/-- The name of a format. -/
def word : VerdictFormat → String
  | text => "text"
  | json => "json"

/-- The format with a name. -/
def ofWord? (word : String) : Option VerdictFormat :=
  all.find? fun f => f.word == word

end VerdictFormat

/-- What is found out about inputs. -/
structure Verdict where
  valid : Bool := false
  /-- All files could be loaded. -/
  loaded : Bool := false
  requestsValid : Bool := false
  directivesValid : Bool := false
  requests : Nat := 0
  directives : Nat := 0
  errors : List String := []
  warnings : List String := []
  deriving DecidableEq, Repr, Inhabited

namespace Verdict

/-- The verdict on inputs that cannot be loaded. -/
def ofTrouble (t : Trouble) : Verdict :=
  { errors := [t.text] }

/-- The verdict on inputs that were inspected. -/
def ofInspection (x : Inspection) (strict : Bool) : Verdict where
  valid := x.isValid strict
  loaded := true
  requestsValid := x.requestFaults.isEmpty
  directivesValid := x.directiveFaults.isEmpty
  requests := x.requests
  directives := x.directives
  errors := x.faults.map Failure.message
  warnings := x.suspicions.map Suspicion.text

/-- The verdict as a JSON value. -/
def encode (v : Verdict) : Json :=
  .object [
    ("valid", .bool v.valid),
    ("inputs_loaded", .bool v.loaded),
    ("requests_valid", .bool v.requestsValid),
    ("annotations_valid", .bool v.directivesValid),
    ("requests", .ofNat v.requests),
    ("annotations", .ofNat v.directives),
    ("errors", .strings v.errors),
    ("warnings", .strings v.warnings)]

/-- The lines that close a verdict on inputs that could be loaded. -/
def closingLines (v : Verdict) : List String :=
  let counts := "✓ " ++ toString v.requests ++ " requests, " ++ toString v.directives ++ " annotations"
  if !v.loaded then []
  else if v.valid then [counts, "✓ Valid compilation input"]
  else [counts]

/-- The verdict in lines; quiet ones leave out what is not a complaint. -/
def lines (v : Verdict) (quiet : Bool) : List String :=
  v.errors.map ("✗ " ++ ·) ++ v.warnings.map ("⚠ Warning: " ++ ·) ++
    if quiet then [] else v.closingLines

/-- The verdict in a format. -/
def shown (v : Verdict) (format : VerdictFormat) (quiet : Bool) : List String :=
  match format with
  | .text => v.lines quiet
  | .json => [v.encode.pretty]

end Verdict

namespace Inspection

/-- The trouble that a command ends in: the first failure, or else the suspicions if they count. -/
def trouble? (x : Inspection) (strict : Bool) : Option Trouble :=
  match x.faults.head? with
  | some f => some { cause := .failure f }
  | none =>
    if x.isValid strict then none
    else some { cause := .plain ("Strict mode: validation failed with " ++
      toString x.suspicions.length ++ " warning(s)") }

end Inspection

end RestFlow
