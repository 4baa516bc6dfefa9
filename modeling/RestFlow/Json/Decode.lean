import RestFlow.Json.Basic

/-!
# Interpreting JSON values

Decoders for the shapes that documents are made of: texts, flags, words, lists, maps, records and
tagged choices. A record is decoded by an applicative description of its fields. Whatever is wrong
with a document, the fault reported is the one that stands first in it; a missing field counts as a
fault at the end of its object.
-/

namespace RestFlow

/-- Why a document was refused. -/
inductive FormatError where
  /-- The document does not have the expected shape. -/
  | malformed
  /-- The document has the expected shape but says something that is not allowed. -/
  | refused (reason : String)
  deriving BEq, DecidableEq, Repr

/-- The text of a fault in a document. -/
def FormatError.text : FormatError → String
  | malformed => "the document does not have the expected form"
  | refused reason => reason

/-- An interpretation of JSON values. -/
abbrev Decoder (α : Type) := Json → Except FormatError α

namespace Decoder

variable {α β : Type}

/-- A text. -/
def string : Decoder String
  | .string s => .ok s
  | _ => .error .malformed

/-- A flag. -/
def bool : Decoder Bool
  | .bool b => .ok b
  | _ => .error .malformed

/-- A list of items. -/
def list (item : Decoder α) : Decoder (List α)
  | .array items => items.mapM item
  | _ => .error .malformed

/-- A value or null. -/
def nullable (value : Decoder α) : Decoder (Option α)
  | .null => .ok none
  | j => some <$> value j

/-- A map; of several values for one key the last one stays. -/
def map (value : Decoder α) : Decoder (SortedMap α)
  | .object members =>
    SortedMap.ofList <$> members.mapM fun (name, j) => do return (name, ← value j)
  | _ => .error .malformed

/-- Any value all of whose parts can be used, in sorted form. -/
def any : Decoder Json := fun j =>
  if j.isReadable then .ok j.sorted else .error .malformed

/-- One of several words, either alone or as the only name in an object, with null for its value. -/
def word (meanings : List (String × α)) : Decoder α
  | .string s | .object [(s, .null)] =>
    match meanings.lookup s with
    | some a => .ok a
    | none => .error .malformed
  | _ => .error .malformed

/-- Interpret, then convert by a rule that may refuse. -/
def refine (decode : Decoder α) (rule : α → Except String β) : Decoder β := fun j => do
  match rule (← decode j) with
  | .ok b => .ok b
  | .error reason => .error (.refused reason)

end Decoder

/-- The members of an object, or the items of an array that gives the fields by position. -/
structure Members where
  entries : List (String × Json)
  byPosition : Bool

namespace Members

/-- The first value of a field, with its place. -/
def find? (m : Members) (name : String) : Option (Nat × Json) :=
  (m.entries.zipIdx.find? fun e => e.1.1 == name).map fun e => (e.2, e.1.2)

/-- The place of what is missing. -/
def finish (m : Members) : Nat := m.entries.length

end Members

/-- A fault and the place of the field it is in. -/
structure Fault where
  place : Nat
  cause : FormatError

/-- The description of a record: the names of its fields in order, and how their values are read. -/
structure Record (α : Type) where
  names : List String
  read : Members → Except Fault α

namespace Record

variable {α β : Type}

instance : Functor Record where
  map f r := ⟨r.names, fun m => f <$> r.read m⟩

instance : Pure Record where
  pure a := ⟨[], fun _ => .ok a⟩

/-- Of two readings that fail the earlier fault is reported. -/
def combine (f : Except Fault (α → β)) (a : Except Fault α) : Except Fault β :=
  match f, a with
  | .ok f, .ok a => .ok (f a)
  | .error e, .ok _ => .error e
  | .ok _, .error e => .error e
  | .error d, .error e => .error (if d.place ≤ e.place then d else e)

instance : Seq Record where
  seq f a :=
    let a := a ()
    ⟨f.names ++ a.names, fun m => combine (f.read m) (a.read m)⟩

/-- The value of a present field. -/
def readAt (decode : Decoder α) (place : Nat) (value : Json) : Except Fault α :=
  match decode value with
  | .ok a => .ok a
  | .error e => .error ⟨place, e⟩

/-- A field that has to be present. -/
def required (name : String) (decode : Decoder α) : Record α :=
  ⟨[name], fun m =>
    match m.find? name with
    | some (place, value) => readAt decode place value
    | none => .error ⟨m.finish, .malformed⟩⟩

/-- A field with a value in its absence. -/
def defaulted (name : String) (value : α) (decode : Decoder α) : Record α :=
  ⟨[name], fun m =>
    match m.find? name with
    | some (place, given) => readAt decode place given
    | none => .ok value⟩

/-- A field that may be absent or null. -/
def optional (name : String) (decode : Decoder α) : Record (Option α) :=
  defaulted name none (.nullable decode)

/-- A field that may be null, and absent where fields are given by name. -/
def nullable (name : String) (decode : Decoder α) : Record (Option α) :=
  ⟨[name], fun m =>
    match m.find? name with
    | some (place, value) => readAt (.nullable decode) place value
    | none => if m.byPosition then .error ⟨m.finish, .malformed⟩ else .ok none⟩

/-- The place of the first member that no record may hold: a repeated field, or a part that breaks
off; unknown members count too when the record is closed. -/
def firstIntruder (names : List String) (closed : Bool) (seen : List String) (place : Nat) :
    List (String × Json) → Option Nat
  | [] => none
  | (name, value) :: rest =>
    if name ∈ names then
      if name ∈ seen then some place
      else firstIntruder names closed (name :: seen) (place + 1) rest
    else if closed || value.isBroken then some place
    else firstIntruder names closed seen (place + 1) rest

/-- Read the fields of a record from members given by name. -/
def ofMembers (r : Record α) (closed : Bool) (entries : List (String × Json)) :
    Except FormatError α :=
  match r.read ⟨entries, false⟩, firstIntruder r.names closed [] 0 entries with
  | .ok a, none => .ok a
  | .ok _, some _ => .error .malformed
  | .error e, none => .error e.cause
  | .error e, some place => .error (if e.place ≤ place then e.cause else .malformed)

/-- Read the fields of a record from values given by position. -/
def ofItems (r : Record α) (items : List Json) : Except FormatError α :=
  match r.read ⟨r.names.zip items, true⟩ with
  | .ok a => if items.length ≤ r.names.length then .ok a else .error .malformed
  | .error e => .error e.cause

/-- The decoder of a record that ignores members it does not know. -/
def decoder (r : Record α) : Decoder α
  | .object members => r.ofMembers false members
  | .array items => r.ofItems items
  | _ => .error .malformed

/-- The decoder of a record that refuses members it does not know. -/
def closedDecoder (r : Record α) : Decoder α
  | .object members => r.ofMembers true members
  | .array items => r.ofItems items
  | _ => .error .malformed

end Record

namespace Decoder

variable {α : Type}

/-- The case that a tag names: by its word or, where `numbered`, by its number. -/
def caseOf (numbered : Bool) (cases : List (String × α)) : Json → Option α
  | .string s => cases.lookup s
  | .number (.integer n) =>
    if numbered && 0 ≤ n then (cases[n.toNat]?).map Prod.snd else none
  | _ => none

/-- An object whose member `tag` names the record that the other members make up. All of the object
has to be readable. -/
def tagged (tag : String) (numbered : Bool) (cases : List (String × Record α)) : Decoder α
  | .object members =>
    if !Json.allMembersReadable members then .error .malformed
    else match members.filter fun m => m.1 == tag with
      | [(_, name)] =>
        match caseOf numbered cases name with
        | some record => record.ofMembers false (members.filter fun m => m.1 != tag)
        | none => .error .malformed
      | _ => .error .malformed
  | _ => .error .malformed

end Decoder

end RestFlow
