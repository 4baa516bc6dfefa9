import RestFlow.Naming.Convention

/-!
# Types by their names

What a name says about the type of a value.
-/

namespace RestFlow.Naming

/-!
## Singular forms of plural words

Containers are mostly named by plurals (`stores`), the types of what they hold by singulars
(`store`). The singular is found by the ending of the word; some words keep their final `s`.
-/

/-- Words that end like plurals and are none. -/
def unchangingWords : List String :=
  ["data", "metadata", "address", "status", "access", "alias", "analysis", "canvas", "class", "dns",
    "news", "process", "series", "species", "settings"]

/-- What comes before an ending. -/
def stem? (ending word : List Char) : Option (List Char) :=
  if ending.isSuffixOf word then some (word.take (word.length - ending.length)) else none

/-- The singular of a word of more than two bytes, by its ending. -/
def singularByEnding (word : List Char) : List Char :=
  match stem? "ies".toList word with
  | some (c :: stem) => c :: stem ++ ['y']
  | _ =>
    if ["sses", "shes", "ches", "xes", "zes"].any fun e => e.toList.isSuffixOf word then
      word.take (word.length - 2)
    else if ["ss", "us", "is"].any fun e => e.toList.isSuffixOf word then word
    else (stem? ['s'] word).getD word

/-- The singular of a word in lower case. Words of at most two bytes stay as they are. -/
def singular (word : String) : String :=
  if word ∈ unchangingWords || word.utf8ByteSize ≤ 2 then word
  else String.ofList (singularByEnding word.toList)

/-!
## Type names inferred from names

The type of a resource is not declared anywhere; it is read off the name of its container (`stores`
holds a `store`) or off its own name (`accountId` is the `id` of an `account`). Type names are
compared by their words alone, whatever convention they are written in.
-/

/-- The words of a type name, run together. -/
def typeKey (typeName : String) : String :=
  String.join ((Convention.infer typeName).split typeName)

/-- Whether two names are spellings of one type name. -/
def sameType (a b : String) : Bool :=
  typeKey a == typeKey b

/-- The suffixes of a list, longest first, without the empty one. -/
def suffixes : List String → List (List String)
  | [] => []
  | w :: ws => (w :: ws) :: suffixes ws

/-- The suffixes and the proper prefixes of a list of words, the longer ones first and, of one
length, the prefix before the suffix. -/
def fragments (words : List String) : List (List String) :=
  (suffixes words).flatMap fun tail =>
    if tail.length = words.length then [tail] else [words.take tail.length, tail]

/-- Of equal elements only the first. -/
def distinct (names : List String) : List String :=
  names.foldl (fun kept name => if name ∈ kept then kept else kept ++ [name]) []

/-- The words of a container name in the singular. -/
def containerWords (container : String) : List String :=
  ((Convention.infer container).split container).map singular

/-- The type names that a resource may have, most specific first.

Without a container the type is read off the resource's own words, less the last one. With a
container it is the container's name in the singular; inside a body every fragment of that name is
a candidate too. -/
def candidateTypes (container : Option String) (convention : Convention) (nested : Bool)
    (resourceWords : List String) : List String :=
  match container with
  | none => if resourceWords.length < 2 then [] else [convention.join resourceWords.dropLast]
  | some name =>
    let words := containerWords name
    if words.isEmpty then []
    else if nested then distinct ((fragments words).map convention.join)
    else [convention.join words]

/-- The name that a producer is expected to give a resource: what remains of the resource's words
after the first candidate type that they start with, or else the whole name. -/
def producerParameter (name : String) (convention : Convention) (types : List String) : String :=
  let words := convention.split name
  let remainder (candidate : String) : Option (List String) :=
    let typeWords := (Convention.infer candidate).split candidate
    if !typeWords.isEmpty && words.length > typeWords.length && typeWords.isPrefixOf words then
      some (words.drop typeWords.length)
    else none
  match types.findSome? remainder with
  | some rest => convention.join rest
  | none => name

end RestFlow.Naming
