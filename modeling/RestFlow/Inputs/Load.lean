import RestFlow.Config.Basic
import RestFlow.Dictionary.Basic
import RestFlow.Dictionary.Form
import RestFlow.Extraction.Collection
import RestFlow.Files.Access
import RestFlow.Request.Form
import RestFlow.Toml.Reader

/-!
# Loading

The files that a run starts from.
-/

namespace RestFlow

/-!
## Configuration files

A configuration is written in TOML. The files that it names are looked for in the folder that it lies
in.
-/

namespace Config

/-- The configuration of a TOML text. -/
def ofToml (text : String) : Except FormatError Config :=
  match Toml.read text with
  | some table => decode table.toJson
  | none => .error .malformed

/-- The configuration with its file names as seen from a folder. -/
def rebase (folder : String) (c : Config) : Config :=
  { c with
    dictionary := c.dictionary.map (Path.join folder)
    directives := c.directives.map (Path.join folder)
    endpointDictionaries := c.endpointDictionaries.map fun f =>
      { f with dictionary := Path.join folder f.dictionary } }

variable {m : Type → Type} [Monad m] [FileAccess m]

/-- Load a configuration. -/
def load (path : String) : Attempt m Config := do
  if !(← (FileAccess.isPresent path : m _)) then
    throw { cause := .failure (.configNotFound path) }
  let text ← (Files.readText path).within ("Failed to read config file: " ++ path)
  match ofToml text with
  | .ok c => .ofResult ((c.rebase ((Path.parent? path).getD ".")).validate)
  | .error e => throw ⟨["Failed to parse config file: " ++ path], .toml e.text⟩

/-- Load a configuration, or take the standard one where no path is given. -/
def loadOrStandard : Option String → Attempt m Config
  | some path => load path
  | none => pure {}

end Config

/-!
## Loading the inputs of a run

A run needs a configuration, the description of an interface, a dictionary, directives for the whole
interface, and dictionaries of single endpoints. They are loaded in this order and the first trouble
ends the loading.
-/

section

variable {m : Type → Type} [Monad m] [FileAccess m]

/-- Load a dictionary. -/
def Dictionary.load (path : String) : Attempt m Dictionary := do
  let text ← (Files.readText path).within ("Failed to read dictionary: " ++ path)
  match decode.ofText text with
  | .ok d => pure d
  | .error e => throw { cause := .failure (.dictionaryParseError path e.text) }

/-- Load the directives for a whole interface. -/
def DirectiveFile.load (path : String) : Attempt m (List Directive) := do
  let text ← (Files.readText path).within ("Failed to read annotations: " ++ path)
  match decode.ofText text with
  | .ok as => pure as
  | .error e => throw { cause := .failure (.directiveParseError path e.text) }

/-- Load the description of an interface. -/
def Interface.load (path : String) : Attempt m Interface := do
  if !(← (FileAccess.isPresent path : m _)) then
    throw ⟨["Failed to read input: " ++ path], .file ⟨.missing, "input file not found"⟩⟩
  ExceptT.adapt (fun (t : Trouble) => { cause := .failure (.inputParseError path t.cause.text) })
    (Files.readJson decode path)

end

/-- The files that a command names. -/
structure InputFiles where
  interface : String
  dictionary : Option String := none
  directives : Option String := none
  deriving DecidableEq, Repr, Inhabited

/-- What a run is made with. -/
structure Inputs where
  interface : Interface
  setup : Setup
  dictionary : Dictionary

/-- The configuration file that is used if it is there and no other is named. -/
def standardConfigFile : String := "apichain.toml"

namespace Inputs

variable {m : Type → Type} [Monad m] [FileAccess m]

/-- The configuration file to use, if any. -/
def configFile (named : Option String) : m (Option String) := do
  match named with
  | some path => pure (some path)
  | none => return if ← FileAccess.isPresent standardConfigFile then some standardConfigFile else none

/-- Load the dictionary of some endpoints. -/
def loadEndpointDictionary (f : EndpointDictionaryFile) :
    Attempt m (List String × Dictionary) := do
  let d ← (Dictionary.load f.dictionary).within
    ("Failed to load per-endpoint dictionary: " ++ f.dictionary)
  return (f.endpoints, d)

/-- Load all inputs; a file that the command names replaces the one that the configuration names. -/
def load (files : InputFiles) (named : Option String) : Attempt m Inputs := do
  let config ← Config.loadOrStandard (← (configFile named : m _))
  let interface ← Interface.load files.interface
  let dictionary ← match files.dictionary <|> config.dictionary with
    | some path => Dictionary.load path
    | none => pure .standard
  let directives ← match files.directives <|> config.directives with
    | some path => DirectiveFile.load path
    | none => pure []
  let declarations ← config.endpointDictionaries.mapM loadEndpointDictionary
  let endpointDictionaries ← .ofResult (EndpointDictionaries.build declarations)
  return { interface, setup := { config, directives, endpointDictionaries }, dictionary }

end Inputs

end RestFlow
