import RestFlow.CommandLine.Run

/-!
# The program

`apichain resolve` finds the dependencies between the requests of an interface, `apichain validate`
inspects its inputs. Output goes to the standard output; troubles, warnings and refusals go to the
standard error.
-/

namespace RestFlow

/-- The fault that an error of the system stands for. -/
def faultOf : IO.Error → FileFault
  | .noFileOrDirectory .. | .noSuchThing .. => .missing
  | .permissionDenied .. => .denied
  | .alreadyExists .. => .present
  | .inappropriateType _ 20 _ => .notFolder
  | .inappropriateType _ 21 _ => .isFolder
  | e => ⟨.other, toString e⟩

/-- Carry out an operation and keep its error. -/
def keepFault {α : Type} (operation : IO α) : IO (Except FileFault α) := do
  match ← operation.toBaseIO with
  | .ok a => pure (.ok a)
  | .error e => pure (.error (faultOf e))

/-- The operation succeeds. -/
def succeeds {α : Type} (operation : IO α) : IO Bool := do
  match ← operation.toBaseIO with
  | .ok _ => pure true
  | .error _ => pure false

instance : FileAccess IO where
  isPresent path := succeeds (IO.FS.realPath path)
  isFolder path := succeeds (IO.FS.realPath (path ++ "/."))
  makeFolder path := keepFault (IO.FS.createDir path)
  read path := keepFault (IO.FS.readBinFile path)
  create path := keepFault (IO.FS.writeBinFile path .empty)
  fill path content := keepFault (IO.FS.writeBinFile path content)
  rename source target := keepFault (IO.FS.rename source target)

/-- How the program is called. -/
def usage : String :=
  "Usage: apichain [-v | -q] [-c FILE] <COMMAND>

Commands:
  resolve   Resolve dependencies and write diagnostics
              -i, --input FILE         the requests of the interface
              -o, --output-dir DIR     the folder for diagnostics (apichain-out)
                  --dictionary FILE    the dictionary
                  --annotations FILE   the annotations for the whole interface
  validate  Validate inputs without resolving
              -i, --input FILE         the requests of the interface
                  --dictionary FILE    the dictionary
                  --annotations FILE   the annotations for the whole interface
                  --format FORMAT      text or json
                  --strict             treat warnings as errors

Options:
  -v, --verbose      Enable verbose output
  -q, --quiet        Suppress all log output
  -c, --config FILE  The configuration file
  -h, --help         Print help
  -V, --version      Print version"

/-- The version of the program. -/
def version : String := "apichain 0.3.2"

/-- What is wrong with the arguments. -/
def Refusal.message : Refusal → String
  | .noArguments | .help => usage
  | .version => RestFlow.version
  | .noCommand => "error: a command is required"
  | .unknownCommand => "error: unrecognized command"
  | .unknownArgument => "error: unexpected argument"
  | .missingArgument => "error: --input <FILE> is required"
  | .invalidValue => "error: invalid or missing value"
  | .unexpectedValue => "error: unexpected value"
  | .conflict => "error: an argument cannot be used multiple times or with another one"

/-- The status that the program ends with when its arguments are refused. -/
def Refusal.status : Refusal → UInt32
  | .help | .version => 0
  | _ => 2

/-- Print a report. -/
def Report.print (r : Report) : IO Unit := do
  IO.eprintln ("error: " ++ r.failure.message)
  if let some details := r.details then IO.eprintln ("details: " ++ details)
  if let some suggestion := r.suggestion then IO.eprintln ("suggestion: " ++ suggestion)

end RestFlow

open RestFlow

/-- Read the arguments and carry out the command that they ask for. -/
def main (arguments : List String) : IO UInt32 := do
  match Invocation.ofArguments arguments with
  | .error refusal =>
    if refusal.status = 0 then IO.println refusal.message else IO.eprintln refusal.message
    return refusal.status
  | .ok call =>
    let completion ← (call.run : IO Completion)
    if call.logLevel.isSome then
      for warning in completion.warnings do IO.eprintln (" WARN " ++ warning.text)
    IO.print completion.text
    match completion.trouble with
    | none => return 0
    | some trouble =>
      trouble.report.print
      return 1
