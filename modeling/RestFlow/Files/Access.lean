import RestFlow.Failure.Trouble
import RestFlow.Json.Printer
import RestFlow.Json.Reader
import RestFlow.Text.Basic

/-!
# Files

Paths, what a program may do with files, and the documents in them.
-/

namespace RestFlow.Path

/-!
## Paths of files

A path is a text of segments between slashes. Empty segments and single dots say nothing, except a
dot that a relative path begins with; two dots stand for the folder above. The functions here work on
the text alone and leave the spelling of what they keep as it is.
-/

/-- The segments between slashes, empty ones included. -/
def segments (path : String) : List String :=
  let (first, others) := Text.cut '/' path.toList
  (first :: others).map String.ofList

/-- The path starts at the root of all files. -/
def isAbsolute (path : String) : Bool :=
  path.toList.head? == some '/'

/-- A segment that leads nowhere. -/
def isIdle (segment : String) : Bool :=
  segment == "" || segment == "."

/-- Drop idle segments from the end of a reversed list, but never its last element. -/
def dropIdle : List String → List String
  | [] => []
  | [segment] => [segment]
  | segment :: rest => if isIdle segment then dropIdle rest else segment :: rest

/-- The segments up to the last one that says something, in reverse. -/
def significant (path : String) : List String :=
  dropIdle (segments path).reverse

/-- The text of reversed segments. -/
def ofReversed (segments : List String) : String :=
  "/".intercalate segments.reverse

/-- The path of the folder that a path lies in: empty for a single name, absent at the root and for
the empty path. -/
def parent? (path : String) : Option String :=
  match significant path with
  | [] | [_] => if path.isEmpty || isAbsolute path then none else some ""
  | _ :: rest =>
    let folder := ofReversed (dropIdle rest)
    some (if folder.isEmpty then "/" else folder)

/-- A segment that is a name. -/
def isName (segment : String) : Bool :=
  !isIdle segment && segment != ".."

/-- The part of a name before its last dot, unless the name has none or only one at its front. -/
def stem (name : String) : String :=
  let start := (name.toList.reverse.dropWhile (· != '.')).drop 1
  if start.isEmpty then name else String.ofList start.reverse

/-- The path with the extension of its last name replaced or added; a path that does not end in a
name is kept. -/
def withExtension (path extension : String) : String :=
  match significant path with
  | [] => path
  | name :: rest =>
    if isName name then ofReversed ((stem name ++ "." ++ extension) :: rest) else path

/-- A path as seen from a folder. -/
def join (folder path : String) : String :=
  if isAbsolute path then path
  else if folder.isEmpty || folder.toList.getLast? == some '/' then folder ++ path
  else folder ++ "/" ++ path

end RestFlow.Path

namespace RestFlow

/-!
## Access to files

`FileAccess m` is what a program may do with files in the effect `m`. Everything that reads or writes
files is written for any such effect, so that it runs on the files of the machine as well as on a
`FileTree`.

A file is written through a temporary neighbour that is then renamed, so that nobody ever meets half
of its content.
-/

/-- The operations on files. -/
class FileAccess (m : Type → Type) where
  /-- Something has this path. -/
  isPresent : String → m Bool
  /-- A folder has this path. -/
  isFolder : String → m Bool
  /-- Make a folder in an existing folder. -/
  makeFolder : String → m (Except FileFault Unit)
  /-- The content of a file. -/
  read : String → m (Except FileFault ByteArray)
  /-- Make a file without content, or empty the one that is there. -/
  create : String → m (Except FileFault Unit)
  /-- Give a file its content. -/
  fill : String → ByteArray → m (Except FileFault Unit)
  /-- Move a file, over the one that is there. -/
  rename : String → String → m (Except FileFault Unit)

/-- Something done with files, which may run into trouble. -/
abbrev Attempt (m : Type → Type) := ExceptT Trouble m

namespace Attempt

variable {m : Type → Type} [Monad m] {α : Type}

/-- Add a context to whatever goes wrong. -/
def within (context : String) (attempt : Attempt m α) : Attempt m α :=
  ExceptT.adapt (Trouble.within context) attempt

/-- An operation on files as an attempt. -/
def ofAccess (operation : m (Except FileFault α)) : Attempt m α :=
  ExceptT.adapt (fun fault => ⟨[], .file fault⟩) (ExceptT.mk operation)

/-- A result that may be a failure as an attempt. -/
def ofResult (result : Except Failure α) : Attempt m α :=
  match result with
  | .ok a => pure a
  | .error f => throw { cause := .failure f }

end Attempt

namespace Files

variable {m : Type → Type} [Monad m] [FileAccess m]

/-- The text of a file. -/
def readText (path : String) : Attempt m String := do
  let bytes ← .ofAccess (FileAccess.read path)
  match String.fromUTF8? bytes with
  | some text => pure text
  | none => throw ⟨[], .file .notText⟩

/-- Make the folder of a path, or the closest folder above it that can be made; the folders that
remain to be made, outermost first. -/
def makeOutermost (fuel : Nat) (path : String) (remaining : List String) :
    Attempt m (List String) := do
  match fuel with
  | 0 => pure remaining
  | fuel + 1 =>
    if path.isEmpty then pure remaining
    else match ← (FileAccess.makeFolder path : m _) with
      | .ok _ => pure remaining
      | .error fault =>
        if fault.kind = .missing then
          match Path.parent? path with
          | some folder => makeOutermost fuel folder (path :: remaining)
          | none => pure (path :: remaining)
        else if fault = .present then pure remaining
        else throw ⟨[], .file fault⟩

/-- Make a folder unless it is there already. -/
def makeUnlessThere (path : String) : Attempt m Unit := do
  match ← (FileAccess.makeFolder path : m _) with
  | .ok _ => pure ()
  | .error fault =>
    if !(fault = .present && (← (FileAccess.isFolder path : m _))) then throw ⟨[], .file fault⟩

/-- Make a folder and those above it as far as they are missing. -/
def makeFolders (path : String) : Attempt m Unit := do
  let remaining ← makeOutermost (path.length + 1) path []
  remaining.forM makeUnlessThere

/-- See to it that a folder is there. -/
def ensureFolder (path : String) : Attempt m Unit := do
  if !(← (FileAccess.isPresent path : m _)) then
    (makeFolders path).within ("Failed to create directory: " ++ path ++
      "\n\nCheck directory permissions and path validity")
  else if !(← (FileAccess.isFolder path : m _)) then
    throw ⟨[], .plain ("Path exists but is not a directory: " ++ path)⟩

/-- Write a file through a temporary one beside it. -/
def write (path : String) (content : ByteArray) : Attempt m Unit := do
  match Path.parent? path with
  | some folder => if !folder.isEmpty then ensureFolder folder
  | none => pure ()
  let temporary := Path.withExtension path "tmp"
  (Attempt.ofAccess (FileAccess.create temporary)).within ("Failed to create temp file: " ++
    temporary ++ "\n\nCheck file permissions and that directory exists")
  (Attempt.ofAccess (FileAccess.fill temporary content)).within
    ("Failed to write to temp file: " ++ temporary)
  (Attempt.ofAccess (FileAccess.rename temporary path)).within
    ("Failed to rename temp file to: " ++ path)

/-- Write a text. -/
def writeText (path text : String) : Attempt m Unit :=
  write path text.toUTF8

end Files

/-!
## Documents in files

JSON documents are written over several lines with the members of every object sorted by name, and
end with a line break.
-/

/-- The written form of a JSON document. -/
def Json.documentText (value : Json) : String :=
  value.sorted.pretty ++ "\n"

namespace Files

variable {m : Type → Type} [Monad m] [FileAccess m] {α : Type}

/-- Write a JSON document. -/
def writeJson (path : String) (value : Json) : Attempt m Unit :=
  writeText path value.documentText

/-- Interpret the JSON document in a file. -/
def readJson (decode : Decoder α) (path : String) : Attempt m α := do
  let text ← (readText path).within ("Failed to read file: " ++ path)
  match decode.ofText text with
  | .ok a => pure a
  | .error e => throw ⟨["Failed to parse JSON file: " ++ path], .json e.text⟩

end Files

end RestFlow
