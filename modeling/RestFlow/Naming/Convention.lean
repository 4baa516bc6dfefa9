import RestFlow.Text.Basic

/-!
# Naming conventions of identifiers

An identifier is a sequence of words under one of four conventions. `Convention.infer` guesses the
convention from the characters of the identifier, `Convention.split` gives its words in lower case,
and `Convention.join` writes words under a convention.
-/

namespace RestFlow

/-- How an identifier keeps its words apart. -/
inductive Convention where
  /-- Every word but the first starts with a capital. -/
  | camelCase
  /-- Every word starts with a capital. -/
  | pascalCase
  /-- Hyphens stand between words. -/
  | hyphenated
  /-- Underscores stand between words. -/
  | underscored
  deriving DecidableEq, Repr, Inhabited

namespace Convention

/-- The convention suggested by the characters of an identifier: letters of both cases speak for one
of the two conventions with capitals, otherwise the separators decide. -/
def infer (identifier : String) : Convention :=
  let cs := identifier.toList
  if cs.any Text.isUpper && cs.any Text.isLower then
    if cs.head?.any Text.isUpper then pascalCase else camelCase
  else if '_' ∈ cs then underscored
  else if '-' ∈ cs then hyphenated
  else camelCase

/-- A word starts at `c` between the characters `before` and `next`: a capital after a small letter
or a digit, or the last capital of a run before a small letter. -/
def startsWord (before c : Char) (next : Option Char) : Bool :=
  Text.isUpper c &&
    (Text.isLower before || before.isDigit || (Text.isUpper before && next.any Text.isLower))

/-- The rest of the word that `before` ends a part of, and the words after it. -/
def humpsAfter (before : Char) : List Char → List Char × List (List Char)
  | [] => ([], [])
  | c :: rest =>
    let (word, others) := humpsAfter c rest
    if startsWord before c rest.head? then ([], (c :: word) :: others) else (c :: word, others)

/-- The words of a text that marks their starts by capitals. -/
def humps : List Char → List (List Char)
  | [] => []
  | c :: rest =>
    let (word, others) := humpsAfter c rest
    (c :: word) :: others

theorem humpsAfter_flatten (before : Char) (cs : List Char) :
    (humpsAfter before cs).1 ++ (humpsAfter before cs).2.flatten = cs := by
  induction cs generalizing before with
  | nil => rfl
  | cons c rest ih =>
    have := ih c
    by_cases h : startsWord before c rest.head? <;> simp [humpsAfter, h, this]

/-- Cutting at capitals neither drops nor repeats a character. -/
@[simp] theorem humps_flatten (cs : List Char) : (humps cs).flatten = cs := by
  cases cs with
  | nil => rfl
  | cons c rest => simpa [humps] using humpsAfter_flatten c rest

/-- The words of a text without hyphens, in the case in which they are written. -/
def chunkWords (convention : Convention) (chunk : List Char) : List (List Char) :=
  match convention with
  | underscored => Text.pieces '_' chunk
  | hyphenated => [chunk]
  | camelCase | pascalCase => (Text.pieces '_' chunk).flatMap humps

/-- The words of an identifier in lower case. Hyphens separate words under every convention. -/
def split (convention : Convention) (identifier : String) : List String :=
  ((Text.pieces '-' identifier.toList).flatMap convention.chunkWords).map fun word =>
    String.ofList (Text.lower word)

/-- A word with its first character in upper case. -/
def capitalized (word : String) : String :=
  String.ofList (Text.capitalize word.toList)

/-- The identifier made of words in lower case. -/
def join (convention : Convention) (words : List String) : String :=
  match convention, words with
  | underscored, words => "_".intercalate words
  | hyphenated, words => "-".intercalate words
  | pascalCase, words => String.join (words.map capitalized)
  | camelCase, [] => ""
  | camelCase, first :: rest => first ++ String.join (rest.map capitalized)

/-- The word that names the convention in documents. -/
def word : Convention → String
  | camelCase => "camel_case"
  | pascalCase => "pascal_case"
  | hyphenated => "hyphen_separator"
  | underscored => "underscore_separator"

/-- All conventions. -/
def all : List Convention := [camelCase, pascalCase, hyphenated, underscored]

end Convention

end RestFlow
