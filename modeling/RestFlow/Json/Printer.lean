import RestFlow.Decimal.Double
import RestFlow.Json.Basic

/-!
# Writing JSON text

Two layouts: on one line without blanks, and over several lines with two blanks for every level.
Members are written in the order in which the object holds them.
-/

namespace RestFlow.Json

/-- Doubles are written positionally from the fifth place after the point up to sixteen digits
before it, and with a signed exponent of at least two digits otherwise. -/
def numberLayout : Decimal.Layout := ⟨-5, 15, 2⟩

/-- The text of a number. -/
def numberText : JsonNumber → String
  | .integer n => if n < 0 then "-" ++ toString n.natAbs else toString n.natAbs
  | .real d => numberLayout.text d

/-- The four hexadecimal digits of a control character. -/
def controlDigits (n : Nat) : List Char :=
  Decimal.padLeft 4 (Nat.toDigits 16 n)

/-- One character of a quoted text. -/
def quoteChar (c : Char) : List Char :=
  match c with
  | '"' => ['\\', '"']
  | '\\' => ['\\', '\\']
  | '\n' => ['\\', 'n']
  | '\r' => ['\\', 'r']
  | '\t' => ['\\', 't']
  | c =>
    if c.toNat = 8 then ['\\', 'b']
    else if c.toNat = 12 then ['\\', 'f']
    else if c.toNat < 32 then '\\' :: 'u' :: controlDigits c.toNat
    else [c]

/-- A text between quotes. -/
def quote (text : String) : String :=
  String.ofList ('"' :: text.toList.flatMap quoteChar ++ ['"'])

/-- The text of a value without parts. -/
def atomText : Json → String
  | bool b => if b then "true" else "false"
  | number n => numberText n
  | string s => quote s
  | _ => "null"

mutual

/-- The value on one line. -/
def compact : Json → String
  | array items => "[" ++ compactItems items ++ "]"
  | object members => "\x7b" ++ compactMembers members ++ "\x7d"
  | value => atomText value

/-- The items on one line, between commas. -/
def compactItems : List Json → String
  | [] => ""
  | [item] => item.compact
  | item :: rest => item.compact ++ "," ++ compactItems rest

/-- The members on one line, between commas. -/
def compactMembers : List (String × Json) → String
  | [] => ""
  | [(name, value)] => quote name ++ ":" ++ value.compact
  | (name, value) :: rest => quote name ++ ":" ++ value.compact ++ "," ++ compactMembers rest

end

/-- A line break and the blanks of a level. -/
def newLine (level : Nat) : String :=
  String.ofList ('\n' :: List.replicate (2 * level) ' ')

mutual

/-- The value over several lines, where the enclosing line is on the given level. -/
def prettyAt (level : Nat) : Json → String
  | array [] => "[]"
  | array items => "[" ++ prettyItems (level + 1) items ++ newLine level ++ "]"
  | object [] => "\x7b\x7d"
  | object members => "\x7b" ++ prettyMembers (level + 1) members ++ newLine level ++ "\x7d"
  | value => atomText value

/-- The items, each on a line of the given level. -/
def prettyItems (level : Nat) : List Json → String
  | [] => ""
  | [item] => newLine level ++ prettyAt level item
  | item :: rest => newLine level ++ prettyAt level item ++ "," ++ prettyItems level rest

/-- The members, each on a line of the given level. -/
def prettyMembers (level : Nat) : List (String × Json) → String
  | [] => ""
  | [(name, value)] => newLine level ++ quote name ++ ": " ++ prettyAt level value
  | (name, value) :: rest =>
    newLine level ++ quote name ++ ": " ++ prettyAt level value ++ "," ++ prettyMembers level rest

end

/-- The value over several lines. -/
def pretty (value : Json) : String :=
  prettyAt 0 value

end RestFlow.Json
