import RestFlow.Inputs.Inspection
import RestFlow.Inputs.Load

/-!
# Arguments of the program

The program is called with a command, the options of the command, and options that every command has
and that may stand before or after it. `Invocation.ofArguments` reads the arguments from left to
right and refuses them at the first one that cannot be understood. An option keeps waiting for its
value until the next argument is looked at, so a missing or unsuitable value is only noticed then.
-/

namespace RestFlow

/-- Why the arguments lead to no command. -/
inductive Refusal where
  | noArguments
  | noCommand
  | unknownCommand
  | unknownArgument
  | missingArgument
  | invalidValue
  /-- A value for an option that takes none. -/
  | unexpectedValue
  /-- An option given twice, or two options that exclude each other. -/
  | conflict
  /-- Help is asked for. -/
  | help
  /-- The version is asked for. -/
  | version
  deriving DecidableEq, Repr, Inhabited

/-- The names of the commands. -/
inductive CommandName where
  | resolve
  | validate
  deriving DecidableEq, Repr, Inhabited

/-- Options with a value. -/
inductive ValueOption where
  | input
  | dictionary
  | directives
  | output
  | format
  | config
  deriving DecidableEq, Repr, Inhabited

/-- Options without a value. -/
inductive Switch where
  | verbose
  | quiet
  | strict
  deriving DecidableEq, Repr, Inhabited

/-- What the name of an option stands for. -/
inductive Mark where
  | value (option : ValueOption)
  | switch (switch : Switch)
  | help
  | version
  deriving DecidableEq, Repr

/-- An option with its names. -/
structure OptionNames where
  long : String
  short : Option Char
  mark : Mark

/-- Where an argument stands: before the command or after it. -/
inductive Level where
  | program
  | command (name : CommandName)
  deriving DecidableEq, Repr

namespace Level

/-- The options that every command has. -/
def sharedOptions : List OptionNames :=
  [⟨"verbose", some 'v', .switch .verbose⟩, ⟨"quiet", some 'q', .switch .quiet⟩,
    ⟨"config", some 'c', .value .config⟩, ⟨"help", some 'h', .help⟩]

/-- The options that name input files. -/
def fileOptions : List OptionNames :=
  [⟨"input", some 'i', .value .input⟩, ⟨"dictionary", none, .value .dictionary⟩,
    ⟨"annotations", none, .value .directives⟩]

/-- The options of a level. -/
def options : Level → List OptionNames
  | program => ⟨"version", some 'V', .version⟩ :: sharedOptions
  | command .resolve =>
    ⟨"output-dir", some 'o', .value .output⟩ :: fileOptions ++ sharedOptions
  | command .validate =>
    ⟨"format", none, .value .format⟩ :: ⟨"strict", none, .switch .strict⟩ ::
      fileOptions ++ sharedOptions

/-- The option with a long name. -/
def long? (l : Level) (name : List Char) : Option Mark :=
  (l.options.find? fun o => o.long.toList == name).map OptionNames.mark

/-- The option with a one-letter name. -/
def short? (l : Level) (letter : Char) : Option Mark :=
  (l.options.find? fun o => o.short == some letter).map OptionNames.mark

/-- The command with a name. -/
def command? : Level → String → Option CommandName
  | program, "resolve" => some .resolve
  | program, "validate" => some .validate
  | _, _ => none

/-- An argument that asks for help in place of a command. -/
def asksForHelp (l : Level) (argument : String) : Bool :=
  l = program && argument == "help"

/-- The refusal of an argument that is no option. -/
def stray : Level → Refusal
  | program => .unknownCommand
  | command _ => .unknownArgument

/-- The refusal of an argument after two dashes, where nothing is an option or a command. -/
def strayAfterDashes (l : Level) (argument : String) : Refusal :=
  if (l.command? argument).isSome || l.asksForHelp argument then .unknownArgument else l.stray

end Level

/-- The refusal of a call for help, which may name a command. -/
def helpOn : List String → Refusal
  | [] => .help
  | [topic] =>
    if (Level.program.command? topic).isSome || Level.program.asksForHelp topic then .help
    else .unknownCommand
  | _ => .unknownCommand

/-- The options given so far. -/
structure Given where
  values : List (ValueOption × String) := []
  switches : List Switch := []
  deriving DecidableEq, Repr, Inhabited

namespace Given

/-- The value given for an option. -/
def value? (g : Given) (o : ValueOption) : Option String :=
  g.values.lookup o

/-- A switch was given. -/
def has (g : Given) (s : Switch) : Bool :=
  g.switches.contains s

/-- Nothing was given. -/
def isEmpty (g : Given) : Bool :=
  g.values.isEmpty && g.switches.isEmpty

/-- A value that an option can have: files need a name, and only some formats exist. -/
def isSuitable (o : ValueOption) (value : String) : Bool :=
  match o with
  | .format => (VerdictFormat.ofWord? value).isSome
  | _ => !value.isEmpty

/-- Give a value to an option that has none. -/
def put (g : Given) (o : ValueOption) (value : String) : Except Refusal Given :=
  if (g.value? o).isSome then .error .conflict
  else if isSuitable o value then .ok { g with values := (o, value) :: g.values }
  else .error .invalidValue

/-- Set a switch that is not set. -/
def set (g : Given) (s : Switch) : Except Refusal Given :=
  if g.has s then .error .conflict else .ok { g with switches := s :: g.switches }

/-- Output cannot be increased and suppressed by the same options. -/
def checked (g : Given) : Except Refusal Given :=
  if g.has .verbose && g.has .quiet then .error .conflict else .ok g

/-- Options given before a command and after it; those after it win. -/
def merge (outer inner : Given) : Given :=
  ⟨inner.values ++ outer.values, inner.switches ++ outer.switches⟩

end Given

/-- An option that was named last, and its value if that was given already. -/
structure PendingOption where
  option : ValueOption
  value : Option String := none
  deriving DecidableEq, Repr

/-- How far the arguments are read. -/
structure Progress where
  given : Given := {}
  pending : Option PendingOption := none
  deriving DecidableEq, Repr, Inhabited

namespace Progress

/-- The next argument may be the value of an option. -/
def isAwaiting (p : Progress) : Bool :=
  p.pending.any fun o => o.value.isNone

/-- The options given, that named last included. -/
def settle (p : Progress) : Except Refusal Given :=
  match p.pending with
  | none => .ok p.given
  | some ⟨_, none⟩ => .error .invalidValue
  | some ⟨o, some value⟩ => p.given.put o value

/-- The next argument is the value of the option named last. -/
def supply (p : Progress) (value : String) : Progress :=
  { p with pending := p.pending.map fun o => { o with value := some value } }

/-- Meet an option, which may have a value attached. -/
def meet (p : Progress) (m : Mark) (attached : Option String) : Except Refusal Progress :=
  match m, attached with
  | .value o, some value => do
    let given ← (← p.settle).put o value
    return { given }
  | .value o, none => do return ⟨← p.settle, some ⟨o, none⟩⟩
  | .switch s, none => do
    let given ← (← p.settle).set s
    return { given }
  | .help, none => do
    let _ ← p.settle
    throw .help
  | .version, none => do
    let _ ← p.settle
    throw .version
  | _, some _ => throw .unexpectedValue

/-- The value attached to a one-letter option. -/
def attachedValue : List Char → Option String
  | [] => none
  | '=' :: rest => some (String.ofList rest)
  | rest => some (String.ofList rest)

/-- Meet the options of a row of letters; the first that takes a value takes all that follows it. -/
def meetLetters (l : Level) (p : Progress) : List Char → Except Refusal Progress
  | [] => .ok p
  | letter :: rest =>
    match l.short? letter with
    | none => .error .unknownArgument
    | some (.value o) => p.meet (.value o) (attachedValue rest)
    | some m => do meetLetters l (← p.meet m none) rest

/-- A long name and the value attached to it. -/
def nameAndValue (cs : List Char) : List Char × Option String :=
  match cs.dropWhile (· != '=') with
  | [] => (cs, none)
  | _ :: value => (cs.takeWhile (· != '='), some (String.ofList value))

/-- Meet an option with a long name. -/
def meetLong (l : Level) (p : Progress) (cs : List Char) : Except Refusal Progress :=
  let (name, attached) := nameAndValue cs
  match l.long? name with
  | none => .error .unknownArgument
  | some m => p.meet m attached

/-- Meet an argument that is no command. -/
def meetArgument (l : Level) (p : Progress) (argument : String) : Except Refusal Progress :=
  match argument.toList with
  | '-' :: '-' :: name => meetLong l p name
  | '-' :: letter :: letters => meetLetters l p (letter :: letters)
  | _ => if p.isAwaiting then .ok (p.supply argument) else .error l.stray

/-- Read arguments up to a command or to their end. -/
def read (l : Level) (p : Progress) :
    List String → Except Refusal (Progress × Option (CommandName × List String))
  | [] => .ok (p, none)
  | argument :: rest =>
    match if p.isAwaiting then none else l.command? argument with
    | some name => .ok (p, some (name, rest))
    | none =>
      if !p.isAwaiting && l.asksForHelp argument then .error (helpOn rest)
      else if argument == "--" then
        match rest with
        | [] => .ok (p, none)
        | next :: _ => .error (l.strayAfterDashes next)
      else do read l (← meetArgument l p argument) rest

end Progress

/-- What the program is to do. -/
inductive Command where
  /-- Find the dependencies and write what was found to a folder. -/
  | resolve (files : InputFiles) (folder : String)
  /-- Inspect the inputs. -/
  | validate (files : InputFiles) (format : VerdictFormat) (strict : Bool)
  deriving DecidableEq, Repr, Inhabited

/-- How much is logged. -/
inductive LogLevel where
  | debug
  | warn
  deriving DecidableEq, Repr, Inhabited

/-- The name of a log level. -/
def LogLevel.word : LogLevel → String
  | debug => "debug"
  | warn => "warn"

/-- A call of the program. -/
structure Invocation where
  command : Command
  /-- The configuration file that was named. -/
  config : Option String := none
  verbose : Bool := false
  quiet : Bool := false
  deriving DecidableEq, Repr, Inhabited

/-- The folder that diagnostic files are written to unless another one is named. -/
def standardOutputFolder : String := "apichain-out"

namespace CommandName

/-- The command with its options. -/
def withOptions (name : CommandName) (g : Given) : Except Refusal Command :=
  match g.value? .input with
  | none => .error .missingArgument
  | some interface =>
    let files : InputFiles := ⟨interface, g.value? .dictionary, g.value? .directives⟩
    match name with
    | .resolve => .ok (.resolve files ((g.value? .output).getD standardOutputFolder))
    | .validate =>
      let format := (g.value? .format).bind VerdictFormat.ofWord?
      .ok (.validate files (format.getD .text) (g.has .strict))

/-- Read the arguments that follow the name of a command. -/
def ofArguments (name : CommandName) (arguments : List String) : Except Refusal (Given × Command) :=
  do
    let (progress, _) ← Progress.read (.command name) {} arguments
    let given ← (← progress.settle).checked
    return (given, ← name.withOptions given)

end CommandName

namespace Invocation

/-- What is logged; nothing in a quiet call. -/
def logLevel (i : Invocation) : Option LogLevel :=
  if i.verbose then some .debug else if i.quiet then none else some .warn

/-- Read the arguments of the program. -/
def ofArguments (arguments : List String) : Except Refusal Invocation := do
  match ← Progress.read .program {} arguments with
  | (progress, none) =>
    let given ← progress.settle
    throw (if given.isEmpty then .noArguments else .noCommand)
  | (progress, some (name, rest)) =>
    let (inner, command) ← name.ofArguments rest
    let outer ← (← progress.settle).checked
    let given := outer.merge inner
    return {
      command
      config := given.value? .config
      verbose := given.has .verbose
      quiet := given.has .quiet }

end Invocation

end RestFlow
