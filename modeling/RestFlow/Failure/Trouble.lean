import RestFlow.Failure.Basic

/-!
# Troubles and reports

What may go wrong with files and what is in them, and how users are told.
-/

namespace RestFlow

/-!
## Faults of file operations

What the operating system reports when a file operation fails. Faults of two kinds are explained to
users; all others are only quoted.
-/

/-- How a fault is explained. -/
inductive FileFaultKind where
  /-- Something that was named is not there. -/
  | missing
  /-- The operation is not permitted. -/
  | denied
  /-- Any other fault. -/
  | other
  deriving DecidableEq, Repr, Inhabited

/-- A fault of a file operation, in the words of the operating system. -/
structure FileFault where
  kind : FileFaultKind
  text : String
  deriving DecidableEq, Repr, Inhabited

namespace FileFault

/-- Nothing has the name that was given. -/
def missing : FileFault := ⟨.missing, "No such file or directory (os error 2)"⟩

/-- The operation is not permitted. -/
def denied : FileFault := ⟨.denied, "Permission denied (os error 13)"⟩

/-- A folder to be made is there already. -/
def present : FileFault := ⟨.other, "File exists (os error 17)"⟩

/-- Something on the way is not a folder. -/
def notFolder : FileFault := ⟨.other, "Not a directory (os error 20)"⟩

/-- A folder stands where a file is needed. -/
def isFolder : FileFault := ⟨.other, "Is a directory (os error 21)"⟩

/-- The content is not a text. -/
def notText : FileFault := ⟨.other, "stream did not contain valid UTF-8"⟩

end FileFault

/-!
## Troubles

What goes wrong while files are read and written is a cause together with the contexts it was met
in: which file was being read, and for what. The texts of the contexts and of the cause, outermost
first, are the chain of the trouble.
-/

/-- What a trouble comes down to. -/
inductive Cause where
  | failure (failure : Failure)
  | file (fault : FileFault)
  /-- A document that is not the JSON that was expected. -/
  | json (text : String)
  /-- A document that is not the TOML that was expected. -/
  | toml (text : String)
  /-- Anything else, in words. -/
  | plain (text : String)
  deriving DecidableEq, Repr, Inhabited

/-- The text of a cause. -/
def Cause.text : Cause → String
  | failure f => f.message
  | file fault => fault.text
  | json text => text
  | toml text => text
  | plain text => text

/-- A cause and the contexts it was met in, outermost first. -/
structure Trouble where
  contexts : List String := []
  cause : Cause
  deriving DecidableEq, Repr, Inhabited

namespace Trouble

/-- A trouble met in a further context. -/
def within (context : String) (t : Trouble) : Trouble :=
  { t with contexts := context :: t.contexts }

/-- The texts from the outermost context to the cause. -/
def chain (t : Trouble) : List String :=
  t.contexts ++ [t.cause.text]

/-- The first text of the chain. -/
def outermost (t : Trouble) : String :=
  t.contexts.headD t.cause.text

/-- The chain after its first text. -/
def inner (t : Trouble) : List String :=
  t.chain.drop 1

/-- The whole chain on one line. -/
def text (t : Trouble) : String :=
  ": ".intercalate t.chain

@[simp] theorem chain_within (context : String) (t : Trouble) :
    (t.within context).chain = context :: t.chain := rfl

@[simp] theorem outermost_within (context : String) (t : Trouble) :
    (t.within context).outermost = context := rfl

@[simp] theorem cause_within (context : String) (t : Trouble) :
    (t.within context).cause = t.cause := rfl

end Trouble

/-!
## Reports to users

A trouble is reported as a failure with what else is known about it and a suggestion what to do. A
failure keeps its own words whatever the contexts are; the report of any other cause starts from the
outermost context.
-/

/-- A failure as it is presented to users. -/
structure Report where
  failure : Failure
  details : Option String := none
  suggestion : Option String := none
  deriving DecidableEq, Repr, Inhabited

namespace Report

/-- The report as a text of one to three paragraphs. -/
def text (r : Report) : String :=
  r.failure.message ++
    ((r.details.map ("\nDetails: " ++ ·)).getD "") ++
    ((r.suggestion.map ("\nSuggestion: " ++ ·)).getD "")

end Report

namespace Failure

/-- What is known about a failure beyond its message. -/
def details? : Failure → Option String
  | malformedResource .. | arrayPathParameter .. =>
    some "The compilation was aborted before any dependency was resolved"
  | conflictingDictionaries _ => some "Each endpoint may use at most one dictionary"
  | resolutionConflict .. => some "Two different producers matched the same consumer"
  | dictionaryParseError _ reason | directiveParseError _ reason | inputParseError _ reason =>
    some reason
  | _ => none

/-- What to do about a failure. -/
def suggestion? : Failure → Option String
  | malformedResource .. | arrayPathParameter .. =>
    some ("Regenerate the compilation input; the schema layer produced a tree the resolver " ++
      "cannot interpret")
  | unsupportedSerialization _ _ style =>
    some ("Change the parameter to the 'form' or 'simple' style, or exclude the operation (found '" ++
      style ++ "')")
  | conflictingDictionaries endpoint =>
    some ("Declare '" ++ endpoint ++ "' in only one [[per_endpoint_dictionaries]] entry, or make " ++
      "both dictionaries identical")
  | resolutionConflict key _ _ =>
    some ("Add an annotation naming the intended producer for '" ++ key ++ "'")
  | circularDependency _ =>
    some "Review the ordering annotations and remove the constraint closing the cycle"
  | unknownDirectiveRequest request =>
    some ("Check the endpoint and method of '" ++ request ++ "' against the compilation input")
  | dictionaryParseError .. | directiveParseError .. | inputParseError .. =>
    some "Check the JSON syntax and the expected key names"
  | configNotFound path => some ("Create " ++ path ++ " or pass --config with an existing file")
  | _ => none

/-- The failure without what it only quotes: a quoted text is reported for itself. -/
def unquoted : Failure → Failure
  | f@(ioError _) | f@(jsonError _) | f@(tomlError _) => other f.message
  | f => f

/-- The report of a failure. -/
def report (f : Failure) : Report :=
  ⟨f.unquoted, f.details?, f.suggestion?⟩

end Failure

namespace Trouble

/-- The causes below the outermost text, numbered from one. -/
def numberedCauses (causes : List String) : String :=
  String.join ((causes.zipIdx 1).map fun (cause, i) => "\n  " ++ toString i ++ ": " ++ cause)

/-- The outermost text, and below it what caused it. -/
def explanation (t : Trouble) : String :=
  if t.inner.isEmpty then t.outermost
  else t.outermost ++ "\n\nCaused by:" ++ numberedCauses t.inner

/-- The report of a trouble that is no failure of its own. -/
def plainReport (t : Trouble) : Report :=
  { failure := .other t.explanation }

/-- The report of a trouble. -/
def report (t : Trouble) : Report :=
  match t.cause with
  | .failure f => f.report
  | .file ⟨.denied, _⟩ =>
    { failure := .other ("Permission denied: " ++ t.outermost)
      suggestion := some "Check the ownership and permissions of the input and output paths" }
  | .file ⟨.missing, _⟩ =>
    { failure := .other ("File not found: " ++ t.outermost)
      suggestion := some "Check that the file exists and the path is correct" }
  | _ => t.plainReport

/-- Contexts do not change how a failure is reported. -/
@[simp] theorem report_within_failure (context : String) (contexts : List String) (f : Failure) :
    (within context ⟨contexts, .failure f⟩).report = f.report := rfl

end Trouble

end RestFlow
