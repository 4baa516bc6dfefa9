import RestFlow.Json.Basic
import RestFlow.Json.Decode

/-!
# Reading JSON

From the text of a document to what it says: its numbers, its values, and their interpretation.
-/

namespace RestFlow.Json

/-!
## Numbers of JSON documents

A number without fraction and exponent that fits 64 bits is an integer. Every other one becomes a
double: the digits are gathered into an unsigned 64-bit significand as long as they fit, and the
significand is then scaled by a power of ten in double arithmetic. The result may be off by a last
bit, and numbers beyond the doubles are refused.
-/

/-- The parts of a number as they are written. -/
structure Numeral where
  negative : Bool
  whole : List Nat
  fraction : List Nat
  /-- The sign of the exponent and its digits, if it has one. -/
  exponent : Option (Bool × List Nat)

/-- The greatest significand. -/
def significandLimit : Nat := (1 <<< 64) - 1

/-- Append digits to a significand as long as it fits; the digits that are left over. -/
def gather (significand : Nat) : List Nat → Nat × List Nat
  | [] => (significand, [])
  | d :: rest =>
    if significand * 10 + d ≤ significandLimit then gather (significand * 10 + d) rest
    else (significand, d :: rest)

/-- The double `10 ^ e` for `e ≤ 308`. -/
def powerOfTen (e : Nat) : Float :=
  Float.ofScientific 1 false e

/-- Scale by a power of ten; steps of `10 ^ -308` reach zero before `fuel` runs out. -/
def scaleByTen (x : Float) (e : Int) : Nat → Option Float
  | 0 => some x
  | fuel + 1 =>
    if e.natAbs ≤ 308 then
      if e ≥ 0 then
        let scaled := x * powerOfTen e.natAbs
        if scaled.isInf then none else some scaled
      else some (x / powerOfTen e.natAbs)
    else if x == 0 then some x
    else if e ≥ 0 then none
    else scaleByTen (x / powerOfTen 308) (e + 308) fuel

/-- The number with a sign and an absolute value. -/
def signed (negative : Bool) (x : Float) : JsonNumber :=
  .real (.ofFloat (if negative then -x else x))

/-- The number of a digit string. -/
def digitsValue (digits : List Nat) : Nat :=
  digits.foldl (fun n d => n * 10 + d) 0

/-- The number that a numeral stands for, if there is one. -/
def Numeral.value (n : Numeral) : Option JsonNumber :=
  let (significand, dropped) := gather 0 n.whole
  if n.fraction.isEmpty && n.exponent.isNone && dropped.isEmpty then
    if !n.negative then some (.integer significand)
    else if significand = 0 || significand > (1 <<< 63) then
      some (signed true significand.toUInt64.toFloat)
    else some (.integer (-significand))
  else
    let (significand, unused) := gather significand n.fraction
    let place : Int := dropped.length - (n.fraction.length - unused.length : Nat)
    let scaled (e : Int) :=
      (scaleByTen significand.toUInt64.toFloat e 8).map (signed n.negative)
    match n.exponent with
    | none => scaled place
    | some (negative, digits) =>
      let e := digitsValue digits
      if e < (1 <<< 31) then scaled (if negative then place - e else place + e)
      else if negative || significand = 0 then some (signed n.negative 0)
      else none

/-- The value of a decimal digit. -/
def digit? (c : Char) : Option Nat :=
  if c.isDigit then some (c.toNat - '0'.toNat) else none

/-- The digits at the front, and the rest. -/
def takeDigits : List Char → List Nat × List Char
  | [] => ([], [])
  | c :: rest =>
    match digit? c with
    | some d => let (digits, tail) := takeDigits rest; (d :: digits, tail)
    | none => ([], c :: rest)

/-- The exponent at the front; `none` when the text breaks off in it. -/
def readExponent (cs : List Char) : Option (Bool × List Nat × List Char) :=
  let (negative, cs) := match cs with
    | '+' :: rest => (false, rest)
    | '-' :: rest => (true, rest)
    | rest => (false, rest)
  match takeDigits cs with
  | ([], _) => none
  | (digits, rest) => some (negative, digits, rest)

/-- The numeral at the front; `none` when the text breaks off in it. -/
def readNumeral (cs : List Char) : Option (Numeral × List Char) := do
  let (negative, cs) := match cs with
    | '-' :: rest => (true, rest)
    | rest => (false, rest)
  let (whole, cs) := takeDigits cs
  if whole.isEmpty || (whole.head? = some 0 && whole.length > 1) then none
  let (fraction, cs) ← match cs with
    | '.' :: rest =>
      match takeDigits rest with
      | ([], _) => none
      | (digits, rest) => some (digits, rest)
    | rest => some ([], rest)
  match cs with
  | 'e' :: rest | 'E' :: rest =>
    let (sign, digits, rest) ← readExponent rest
    some (⟨negative, whole, fraction, some (sign, digits)⟩, rest)
  | rest => some (⟨negative, whole, fraction, none⟩, rest)

/-!
## Reading JSON text

`Json.read` reads a document. It never fails: where the text stops being JSON the value read so far
ends with `broken`, so that whoever interprets the value meets the fault at its place in the
document, after everything that stands before it.
-/

/-- A value read from the front of a text and what is left, `none` after the place where the text
broke off. -/
structure Reading (α : Type) where
  value : α
  rest : Option (List Char)

/-- Containers nested deeper than this cannot be used. -/
def deepestLevel : Nat := 127

/-- The text after blanks. -/
def skipBlank : List Char → List Char
  | [] => []
  | c :: rest => if c ∈ [' ', '\n', '\t', '\r'] then skipBlank rest else c :: rest

/-- A part of a quoted text: a character, or a 16-bit unit given by its number. -/
inductive Unit16 where
  | char (c : Char)
  | escaped (unit : Nat)

/-- The value of a hexadecimal digit. -/
def hexDigit? (c : Char) : Option Nat :=
  if c.isDigit then some (c.toNat - '0'.toNat)
  else if 'a' ≤ c && c ≤ 'f' then some (c.toNat - 'a'.toNat + 10)
  else if 'A' ≤ c && c ≤ 'F' then some (c.toNat - 'A'.toNat + 10)
  else none

/-- The unit of four hexadecimal digits. -/
def hexUnit? (a b c d : Char) : Option Nat := do
  some ((((← hexDigit? a) * 16 + (← hexDigit? b)) * 16 + (← hexDigit? c)) * 16 + (← hexDigit? d))

/-- The character of a one-letter escape. -/
def escape? : Char → Option Char
  | '"' => some '"'
  | '\\' => some '\\'
  | '/' => some '/'
  | 'b' => some (Char.ofNat 8)
  | 'f' => some (Char.ofNat 12)
  | 'n' => some '\n'
  | 'r' => some '\r'
  | 't' => some '\t'
  | _ => none

/-- The parts up to the closing quote, and what follows it; `none` when the text breaks off. -/
def readUnits : List Char → Option (List Unit16 × List Char)
  | [] => none
  | '"' :: rest => some ([], rest)
  | '\\' :: 'u' :: a :: b :: c :: d :: rest => do
    let unit ← hexUnit? a b c d
    let (units, rest) ← readUnits rest
    some (.escaped unit :: units, rest)
  | '\\' :: c :: rest => do
    let char ← escape? c
    let (units, rest) ← readUnits rest
    some (.char char :: units, rest)
  | c :: rest =>
    if c = '\\' || c.toNat < 32 then none
    else do
      let (units, rest) ← readUnits rest
      some (.char c :: units, rest)

/-- The first half of a surrogate pair. -/
def isHighHalf (unit : Nat) : Bool := 0xD800 ≤ unit && unit < 0xDC00

/-- The second half of a surrogate pair. -/
def isLowHalf (unit : Nat) : Bool := 0xDC00 ≤ unit && unit < 0xE000

/-- The characters of the units; `none` when a half of a surrogate pair stands alone. -/
def joinUnits : List Unit16 → Option (List Char)
  | [] => some []
  | .char c :: rest => (joinUnits rest).map (c :: ·)
  | .escaped high :: .escaped low :: rest =>
    if isHighHalf high then
      if isLowHalf low then
        (joinUnits rest).map
          (Char.ofNat (0x10000 + (high - 0xD800) * 0x400 + (low - 0xDC00)) :: ·)
      else none
    else if isLowHalf high then none
    else (joinUnits (.escaped low :: rest)).map (Char.ofNat high :: ·)
  | .escaped unit :: rest =>
    if isHighHalf unit || isLowHalf unit then none
    else (joinUnits rest).map (Char.ofNat unit :: ·)

/-- A container, unless it lies too deep. -/
def atLevel (level : Nat) (reading : Reading Json) : Reading Json :=
  if level ≤ deepestLevel || reading.rest.isNone then reading
  else ⟨unreadable, reading.rest⟩

/-- The value of a word at the front of the text. -/
def readWord (word : String) (value : Json) (cs : List Char) : Reading Json :=
  if word.toList.isPrefixOf cs then ⟨value, some (cs.drop word.length)⟩ else ⟨broken, none⟩

mutual

/-- The value at the front of the text, where a container is on the given level. -/
def readValue (fuel level : Nat) (cs : List Char) : Reading Json :=
  match fuel with
  | 0 => ⟨broken, none⟩
  | fuel + 1 =>
    match skipBlank cs with
    | [] => ⟨broken, none⟩
    | 'n' :: rest => readWord "null" null ('n' :: rest)
    | 't' :: rest => readWord "true" (bool true) ('t' :: rest)
    | 'f' :: rest => readWord "false" (bool false) ('f' :: rest)
    | '"' :: rest =>
      match readUnits rest with
      | none => ⟨broken, none⟩
      | some (units, rest) =>
        match joinUnits units with
        | some chars => ⟨string (String.ofList chars), some rest⟩
        | none => ⟨unreadable, some rest⟩
    | '[' :: rest =>
      match skipBlank rest with
      | ']' :: rest => atLevel level ⟨array [], some rest⟩
      | rest =>
        let items := readItems fuel level rest
        atLevel level ⟨array items.value, items.rest⟩
    | '\x7b' :: rest =>
      match skipBlank rest with
      | '\x7d' :: rest => atLevel level ⟨object [], some rest⟩
      | rest =>
        let members := readMembers fuel level rest
        atLevel level ⟨object members.value, members.rest⟩
    | c :: rest =>
      if c = '-' || c.isDigit then
        match readNumeral (c :: rest) with
        | none => ⟨broken, none⟩
        | some (numeral, rest) =>
          match numeral.value with
          | some n => ⟨number n, some rest⟩
          | none => ⟨unreadable, some rest⟩
      else ⟨broken, none⟩

/-- The items up to the closing bracket of an array on the given level. -/
def readItems (fuel level : Nat) (cs : List Char) : Reading (List Json) :=
  match fuel with
  | 0 => ⟨[broken], none⟩
  | fuel + 1 =>
    let item := readValue fuel (level + 1) cs
    match item.rest with
    | none => ⟨[item.value], none⟩
    | some rest =>
      match skipBlank rest with
      | ']' :: rest => ⟨[item.value], some rest⟩
      | ',' :: rest =>
        let items := readItems fuel level rest
        ⟨item.value :: items.value, items.rest⟩
      | _ => ⟨[item.value, broken], none⟩

/-- The members up to the closing brace of an object on the given level. -/
def readMembers (fuel level : Nat) (cs : List Char) : Reading (List (String × Json)) :=
  let brokenOff (name : String) : Reading (List (String × Json)) := ⟨[(name, broken)], none⟩
  match fuel with
  | 0 => brokenOff ""
  | fuel + 1 =>
    match skipBlank cs with
    | '"' :: rest =>
      match readUnits rest with
      | none => brokenOff ""
      | some (units, rest) =>
        match joinUnits units, skipBlank rest with
        | some chars, ':' :: rest =>
          let name := String.ofList chars
          let member := readValue fuel (level + 1) rest
          match member.rest with
          | none => ⟨[(name, member.value)], none⟩
          | some rest =>
            match skipBlank rest with
            | '\x7d' :: rest => ⟨[(name, member.value)], some rest⟩
            | ',' :: rest =>
              let members := readMembers fuel level rest
              ⟨(name, member.value) :: members.value, members.rest⟩
            | _ => ⟨[(name, member.value), ("", broken)], none⟩
        | _, _ => brokenOff ""
    | _ => brokenOff ""

end

/-- The value of a document, and whether nothing but blanks follows it. -/
def read (text : String) : Json × Bool :=
  let cs := text.toList
  let reading := readValue (2 * cs.length + 2) 1 cs
  (reading.value, (reading.rest.map skipBlank) == some [])

end RestFlow.Json

namespace RestFlow

/-!
## Reading documents

A document is interpreted as far as it can be read, so that a fault in what it says is reported
before a fault in the text that follows.
-/

/-- Interpret the text of a document, which must hold nothing but one value. -/
def Decoder.ofText {α : Type} (decode : Decoder α) (text : String) : Except FormatError α := do
  let (value, complete) := Json.read text
  let a ← decode value
  if complete then return a else throw .malformed

end RestFlow
