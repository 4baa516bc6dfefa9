import RestFlow.CommandLine.Arguments
import RestFlow.Extraction.Form
import RestFlow.Extraction.Result
import RestFlow.Extraction.Run

/-!
# Running commands

A command reads its inputs, does its work and writes its files; what it has to say comes back as a
completion, to be printed.
-/

namespace RestFlow

/-- What a command has to say. -/
structure Completion where
  /-- The lines of its output. -/
  lines : List String := []
  warnings : List Warning := []
  trouble : Option Trouble := none
  deriving Inhabited

namespace Completion

/-- The output as a text. -/
def text (c : Completion) : String :=
  String.join (c.lines.map (· ++ "\n"))

end Completion

namespace Command

variable {m : Type → Type} [Monad m] [FileAccess m]

/-- Find the dependencies between requests and write what was found to a folder. -/
def runResolve (files : InputFiles) (folder : String) (config : Option String) (quiet : Bool) :
    m Completion := do
  match ← (Inputs.load files config : Attempt m _).run with
  | .error t => pure { trouble := some t }
  | .ok inputs =>
    match inputs.setup.extract inputs.interface inputs.dictionary with
    | (warnings, .error f) => pure { warnings, trouble := some { cause := .failure f } }
    | (warnings, .ok x) =>
      match ← (x.writeDiagnostics folder : Attempt m _).run with
      | .error t => pure { warnings, trouble := some t }
      | .ok _ =>
        let closing := "Diagnostics written to " ++ folder ++ " (" ++
          toString x.diagnostics.length ++ " files)"
        pure { lines := if quiet then [] else x.summary ++ [closing], warnings }

/-- Inspect the inputs of a run. -/
def runValidate (files : InputFiles) (format : VerdictFormat) (strict : Bool)
    (config : Option String) (quiet : Bool) : m Completion := do
  match ← (Inputs.load files config : Attempt m _).run with
  | .error t => pure { lines := (Verdict.ofTrouble t).shown format quiet, trouble := some t }
  | .ok inputs =>
    let inspection := Inspection.of inputs.setup inputs.interface
    pure {
      lines := (Verdict.ofInspection inspection strict).shown format quiet
      trouble := inspection.trouble? strict }

end Command

/-- Carry out a call of the program. -/
def Invocation.run {m : Type → Type} [Monad m] [FileAccess m] (i : Invocation) : m Completion :=
  match i.command with
  | .resolve files folder => Command.runResolve files folder i.config i.quiet
  | .validate files format strict => Command.runValidate files format strict i.config i.quiet

end RestFlow
