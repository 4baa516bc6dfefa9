import RestFlow.Failure.Basic
import RestFlow.Json.Decode
import RestFlow.Naming.Convention
import RestFlow.Order.SortedMap

/-!
# Configurations

The settings of a run and how they are written.
-/

namespace RestFlow

/-!
## Configuration

The settings of a run: which requests may produce values, which parameters are resolved, which files
hold dictionaries and directives, and which properties of a body mirror each other.
-/

/-- A dictionary file and the endpoints it is for. -/
structure EndpointDictionaryFile where
  dictionary : String
  endpoints : List String
  deriving DecidableEq, Repr

/-- The aliases that are used when none are given: an `id` mirrors a `name`. -/
def standardAliases : SortedMap String :=
  .ofList [("id", "name")]

/-- The settings of a run. -/
structure Config where
  /-- Requests that only read may produce values. -/
  allowGetProducers : Bool := false
  resolveQuery : Bool := true
  resolveHeaders : Bool := false
  resolveBody : Bool := true
  /-- The convention of all names; by default every name is looked at. -/
  convention : Option Convention := none
  dictionary : Option String := none
  directives : Option String := none
  endpointDictionaries : List EndpointDictionaryFile := []
  /-- Body properties by the sibling property that they mirror. -/
  aliases : SortedMap String := standardAliases
  deriving Inhabited

namespace Config

/-- What is wrong with a dictionary file for endpoints. -/
def dictionaryFault (file : EndpointDictionaryFile) : Option Failure :=
  if file.endpoints.isEmpty then
    some (.configError ("per-endpoint dictionary " ++ file.dictionary ++ " lists no endpoints"))
  else none

/-- What is wrong with an alias. -/
def aliasFault (source target : String) : Option Failure :=
  if source.isEmpty || target.isEmpty || source == target then
    some (.configError ("invalid same-body alias '" ++ source ++ "' -> '" ++ target ++ "'"))
  else none

/-- The first contradiction in the settings. -/
def fault? (c : Config) : Option Failure :=
  c.endpointDictionaries.findSome? dictionaryFault <|>
    c.aliases.entries.findSome? fun e => aliasFault e.1 e.2

/-- The settings, provided they do not contradict themselves. -/
def validate (c : Config) : Except Failure Config :=
  match c.fault? with
  | some f => .error f
  | none => .ok c

end Config

/-!
## The written form of configurations

Every setting may be left out; a setting that is not known is refused.
-/

namespace Convention

/-- Read a convention. -/
def decode : Decoder Convention :=
  .word (all.map fun c => (c.word, c))

/-- Write a convention. -/
def encode (c : Convention) : Json :=
  .string c.word

end Convention

namespace EndpointDictionaryFile

/-- Read a dictionary file with its endpoints. -/
def decode : Decoder EndpointDictionaryFile :=
  Record.decoder <|
    EndpointDictionaryFile.mk <$> .required "dictionary" .string
      <*> .required "endpoints" (.list .string)

/-- Write a dictionary file with its endpoints. -/
def encode (f : EndpointDictionaryFile) : Json :=
  .object [("dictionary", .string f.dictionary), ("endpoints", .strings f.endpoints)]

end EndpointDictionaryFile

namespace Config

/-- Read the aliases, which have to be given where their section is. -/
def decodeAliases : Decoder (SortedMap String) :=
  (Record.required "aliases" (.map .string)).decoder

/-- Read a configuration. -/
def decode : Decoder Config :=
  Record.closedDecoder <|
    Config.mk <$> .defaulted "allow_get_producers" false .bool
      <*> .defaulted "resolve_query_dependencies" true .bool
      <*> .defaulted "resolve_header_dependencies" false .bool
      <*> .defaulted "resolve_body_dependencies" true .bool
      <*> .optional "naming_convention" Convention.decode
      <*> .optional "dictionary" .string
      <*> .optional "annotations" .string
      <*> .defaulted "per_endpoint_dictionaries" [] (.list EndpointDictionaryFile.decode)
      <*> .defaulted "same_body" standardAliases decodeAliases

/-- Write a configuration. -/
def encode (c : Config) : Json :=
  .ofPresent [
    ("allow_get_producers", some (.bool c.allowGetProducers)),
    ("resolve_query_dependencies", some (.bool c.resolveQuery)),
    ("resolve_header_dependencies", some (.bool c.resolveHeaders)),
    ("resolve_body_dependencies", some (.bool c.resolveBody)),
    ("naming_convention", c.convention.map Convention.encode),
    ("dictionary", c.dictionary.map .string),
    ("annotations", c.directives.map .string),
    ("per_endpoint_dictionaries",
      if c.endpointDictionaries.isEmpty then none
      else some (.array (c.endpointDictionaries.map EndpointDictionaryFile.encode))),
    ("same_body", some (.object [("aliases", .ofMap .string c.aliases)]))]

end Config

end RestFlow
