import RestFlow.Body.Tree
import RestFlow.Failure.Basic
import RestFlow.Json.Basic
import RestFlow.Request.Id
import RestFlow.Text.Basic

/-!
# Values for parameters

The dictionary of an interface, and those of its single endpoints.
-/

namespace RestFlow

/-!
## Dictionaries

A dictionary holds the values that a fuzzer may put in place of parameters: plain values by primitive
type, custom payloads by the name or place of a parameter, and uuid suffixes, which are starts of
values that are made unique on every use. A run only ever adds uuid suffixes to a dictionary.
-/

/-- A value taken from a dictionary. -/
structure DictionaryPayload where
  kind : CustomKind
  type : PrimitiveType
  /-- The key under which the dictionary has the value. -/
  name : String
  isObject : Bool
  deriving DecidableEq, Repr, Inhabited

/-- Literal and generated values for parameters. -/
structure Dictionary where
  strings : List String := []
  unquotedStrings : List String := []
  datetimes : List String := []
  dates : List String := []
  uuids : List String := []
  ints : List String := []
  numbers : List String := []
  bools : List String := []
  objects : List String := []
  /-- Custom payloads written in quotes. -/
  payloads : SortedMap (List String) := .empty
  /-- Custom payloads written as they are. -/
  unquotedPayloads : SortedMap (List String) := .empty
  headerPayloads : SortedMap (List String) := .empty
  queryPayloads : SortedMap (List String) := .empty
  uuidSuffixes : SortedMap String := .empty
  /-- Values that the dictionary carries along. -/
  shadowValues : SortedMap Json := .empty
  deriving BEq, Inhabited

namespace Dictionary

/-- The dictionary that is used when none is given. -/
def standard : Dictionary where
  strings := ["fuzzstring"]
  datetimes := ["2019-06-26T20:20:39+00:00"]
  dates := ["2019-06-26"]
  uuids := ["566048da-ed19-4cd3-8e0a-b7e0e1ec4d72"]
  ints := ["0", "1"]
  numbers := ["0.1", "1.2"]
  bools := ["true"]
  objects := ["\x7b \"fuzz\": false \x7d"]

/-- The payloads that belong to parameters of one kind alone. -/
def specificPayloads (d : Dictionary) : Option CustomKind → SortedMap (List String)
  | some .header => d.headerPayloads
  | some .query => d.queryPayloads
  | _ => .empty

/-- The custom payload under a key. Payloads for one kind of parameter come before those for all. -/
def findPayload (d : Dictionary) (kind : Option CustomKind) (key : String) (type : PrimitiveType) :
    Option DictionaryPayload :=
  if (d.specificPayloads kind).contains key then some ⟨kind.getD .string, type, key, false⟩
  else if d.unquotedPayloads.contains key then some ⟨.string, type, key, true⟩
  else if d.payloads.contains key then some ⟨.string, type, key, false⟩
  else none

/-- The payload of the uuid suffix under a name. -/
def suffixPayload (name : String) (type : PrimitiveType) : DictionaryPayload :=
  ⟨.uuidSuffix, type, name, false⟩

/-- The uuid suffix under a name, if the dictionary has one. -/
def findSuffix (d : Dictionary) (name : String) (type : PrimitiveType) :
    Option DictionaryPayload :=
  if d.uuidSuffixes.contains name then some (suffixPayload name type) else none

/-- The greatest number of characters in a generated uuid suffix. -/
def suffixLength : Nat := 10

/-- The start of the unique values generated for a name: its letters in lower case, cut off after
ten characters, or the name itself when it has no letters. -/
def generatedSuffix (name : String) : String :=
  let letters := ((name.toList.filter Text.isAlphabetic).flatMap Text.lowerChar).take suffixLength
  if letters.isEmpty then name else String.ofList letters

/-- The dictionary with a uuid suffix under a name; one that is there already stays. -/
def withSuffix (d : Dictionary) (name : String) : Dictionary :=
  if d.uuidSuffixes.contains name then d
  else { d with uuidSuffixes := d.uuidSuffixes.insert name (generatedSuffix name) }

end Dictionary

/-!
## Dictionaries of single endpoints

Some endpoints may have a dictionary of their own. Several declarations may name one endpoint as long
as they agree on its dictionary.
-/

/-- The dictionaries of single endpoints, by normalized endpoint. -/
abbrev EndpointDictionaries := SortedMap Dictionary

namespace EndpointDictionaries

/-- Give a dictionary to an endpoint, which must not have a different one. -/
def declare (dictionaries : EndpointDictionaries) (endpoint : String) (d : Dictionary) :
    Except Failure EndpointDictionaries :=
  let place := Endpoint.normalize endpoint
  match SortedMap.get? dictionaries place with
  | none => .ok (SortedMap.insert dictionaries place d)
  | some existing =>
    if existing == d then .ok dictionaries else .error (.conflictingDictionaries place)

/-- The dictionaries of a list of declarations, each for several endpoints. -/
def build (declarations : List (List String × Dictionary)) : Except Failure EndpointDictionaries :=
  (declarations.flatMap fun (endpoints, d) => endpoints.map (·, d)).foldlM
    (fun dictionaries (endpoint, d) => declare dictionaries endpoint d) SortedMap.empty

/-- The dictionary of an endpoint. -/
def at? (dictionaries : EndpointDictionaries) (endpoint : String) : Option Dictionary :=
  SortedMap.get? dictionaries (Endpoint.normalize endpoint)

end EndpointDictionaries

end RestFlow
