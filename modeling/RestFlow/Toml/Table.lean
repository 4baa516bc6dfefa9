import RestFlow.Json.Basic

/-!
# TOML tables

What a TOML document says, and how it is put together.
-/

namespace RestFlow

/-!
## TOML values

The values of TOML documents. A table remembers how it came about, which decides whether it may still
be extended. Numbers and moments are kept as they are written, for none of the documents read here
makes use of one.
-/

/-- How a table came about. -/
inductive TableOrigin where
  /-- Written between braces. -/
  | inline
  /-- By a header of its own. -/
  | header
  /-- By a header of a table below it. -/
  | implied
  /-- By a dotted key. -/
  | dotted
  deriving DecidableEq, Repr, Inhabited

/-- A TOML value. -/
inductive Toml where
  | string (value : String)
  | bool (value : Bool)
  | number (text : String)
  | moment (text : String)
  | array (items : List Toml)
  /-- The tables of repeated headers in double brackets. -/
  | tables (items : List Toml)
  | table (origin : TableOrigin) (entries : List (String × Toml))
  deriving Inhabited

namespace Toml

mutual

/-- The value as it would stand in a JSON document; what has no counterpart there cannot be used. -/
def toJson : Toml → Json
  | string s => .string s
  | bool b => .bool b
  | number _ | moment _ => .unreadable
  | array items | tables items => .array (toJsonItems items)
  | table _ entries => .object (toJsonMembers entries)

/-- `toJson` on every item. -/
def toJsonItems : List Toml → List Json
  | [] => []
  | item :: rest => item.toJson :: toJsonItems rest

/-- `toJson` on every entry. -/
def toJsonMembers : List (String × Toml) → List (String × Json)
  | [] => []
  | (name, value) :: rest => (name, value.toJson) :: toJsonMembers rest

end

end Toml

end RestFlow

namespace RestFlow.Toml

/-!
## Building tables

A document is a list of entries under dotted keys, divided into sections by headers. Putting it
together fails where an entry or a table is defined twice, and where something is to be added to a
value that is complete.
-/

/-- The entries of a table. -/
abbrev Entries := List (String × Toml)

/-- Change what is stored under a name, be it absent or present. -/
def alter (f : Option Toml → Option Toml) (name : String) : Entries → Option Entries
  | [] => do return [(name, ← f none)]
  | (n, v) :: rest =>
    if n = name then do return (n, ← f (some v)) :: rest
    else do return (n, v) :: (← alter f name rest)

/-- Add a value under a dotted key. -/
def addEntry (value : Toml) : List String → Entries → Option Entries
  | [] => fun _ => none
  | [name] => alter (fun
    | none => some value
    | some _ => none) name
  | name :: path => alter (fun
    | none => table .dotted <$> addEntry value path []
    | some (table .dotted entries) => table .dotted <$> addEntry value path entries
    | some _ => none) name

/-- Add values under dotted keys. -/
def addEntries (added : List (List String × Toml)) (entries : Entries) : Option Entries :=
  added.foldlM (fun entries e => addEntry e.2 e.1 entries) entries

/-- What a section defines. -/
inductive SectionKind where
  /-- One table. -/
  | single
  /-- One more of a list of tables. -/
  | repeated
  deriving DecidableEq, Repr

/-- A header and the entries that follow it. -/
structure Section where
  kind : SectionKind
  path : List String
  entries : List (List String × Toml)

/-- Define what the last name of a header stands for. -/
def define (kind : SectionKind) (added : List (List String × Toml)) : Option Toml → Option Toml
  | none =>
    match kind with
    | .single => table .header <$> addEntries added []
    | .repeated => (fun entries => tables [table .header entries]) <$> addEntries added []
  | some (table .implied entries) =>
    if kind = .single then table .header <$> addEntries added entries else none
  | some (tables items) =>
    if kind = .repeated then
      (fun entries => tables (items ++ [table .header entries])) <$> addEntries added []
    else none
  | some _ => none

/-- Add a section below the table that its header leads through; in a list of tables that is the
last one. -/
def addSection (kind : SectionKind) (added : List (List String × Toml)) :
    List String → Entries → Option Entries
  | [] => fun _ => none
  | [name] => alter (define kind added) name
  | name :: path => alter (fun
    | none => table .implied <$> addSection kind added path []
    | some (table origin entries) =>
      if origin = .inline then none else table origin <$> addSection kind added path entries
    | some (tables items) =>
      match items.getLast? with
      | some (table origin entries) =>
        (fun entries => tables (items.dropLast ++ [table origin entries])) <$>
          addSection kind added path entries
      | _ => none
    | some _ => none) name

/-- A document as it is written. -/
structure Document where
  /-- The entries before the first header. -/
  entries : List (List String × Toml)
  sections : List Section

/-- The table that a document stands for. -/
def Document.table? (d : Document) : Option Toml := do
  let entries ← addEntries d.entries []
  table .header <$>
    d.sections.foldlM (fun entries s => addSection s.kind s.entries s.path entries) entries

end RestFlow.Toml
