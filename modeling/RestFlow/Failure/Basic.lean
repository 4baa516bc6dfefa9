/-!
# Failures

The ways in which finding out dependencies fails. That a parameter has no producer is not among
them. `Failure.message` gives the one-line text of a failure.
-/

namespace RestFlow

/-- Why a run was given up. -/
inductive Failure where
  /-- A resource without a name, or a body resource without a place. -/
  | malformedResource (request reason : String)
  /-- A path parameter declared as an array. -/
  | arrayPathParameter (endpoint name : String)
  /-- A parameter with a serialization that requests cannot be written in. -/
  | unsupportedSerialization (endpoint parameter style : String)
  /-- Two different dictionaries for one endpoint. -/
  | conflictingDictionaries (endpoint : String)
  /-- Two different producers for one parameter. -/
  | resolutionConflict (key existing found : String)
  /-- Ordering constraints that form a cycle. -/
  | circularDependency (chain : String)
  /-- A directive that names a request the interface does not have. -/
  | unknownDirectiveRequest (request : String)
  /-- A configuration that contradicts itself. -/
  | configError (message : String)
  /-- A configuration file that is not there. -/
  | configNotFound (path : String)
  /-- A dictionary file that cannot be read. -/
  | dictionaryParseError (file reason : String)
  /-- A directive file that cannot be read. -/
  | directiveParseError (file reason : String)
  /-- An interface description that cannot be read. -/
  | inputParseError (file reason : String)
  /-- A file operation that failed. -/
  | ioError (message : String)
  /-- A document that is not the JSON that was expected. -/
  | jsonError (message : String)
  /-- A document that is not the TOML that was expected. -/
  | tomlError (message : String)
  /-- Any other failure. -/
  | other (message : String)
  deriving DecidableEq, Repr, Inhabited

namespace Failure

/-- The text of a failure on one line. -/
def message : Failure → String
  | malformedResource request reason => "Malformed resource in " ++ request ++ ": " ++ reason
  | arrayPathParameter endpoint name =>
    "Path parameter '" ++ name ++ "' of " ++ endpoint ++ " is an array"
  | unsupportedSerialization endpoint parameter style =>
    "Unsupported serialization style '" ++ style ++ "' for parameter '" ++ parameter ++ "' of " ++
      endpoint
  | conflictingDictionaries endpoint =>
    "Conflicting dictionaries declared for endpoint " ++ endpoint
  | resolutionConflict key existing found =>
    "Conflicting producers for consumer '" ++ key ++ "': " ++ existing ++ " and " ++ found
  | circularDependency chain => "Circular ordering constraint detected: " ++ chain
  | unknownDirectiveRequest request => "Annotation references unknown request " ++ request
  | configError message => "Configuration error: " ++ message
  | configNotFound path => "Configuration file not found: " ++ path
  | dictionaryParseError file _ => "Invalid dictionary file " ++ file
  | directiveParseError file _ => "Invalid annotation file " ++ file
  | inputParseError file _ => "Invalid compilation input " ++ file
  | ioError message => "IO error: " ++ message
  | jsonError message => "JSON error: " ++ message
  | tomlError message => "TOML parsing error: " ++ message
  | other message => message

end Failure

end RestFlow
