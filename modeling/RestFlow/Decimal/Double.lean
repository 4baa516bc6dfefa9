/-!
# Doubles and their decimals

A double is written as the shortest decimal that is read as this double again.
-/

namespace RestFlow

/-!
## Binary floating-point numbers of 64 bits

A `Double` is kept as its bit pattern, so that everything about it but its arithmetic can be computed
exactly: a finite one is `mantissa · 2 ^ exponent` up to sign.
-/

/-- A 64-bit floating-point number, by its bit pattern. -/
structure Double where
  /-- Sign, eleven exponent bits, fifty-two fraction bits. -/
  bits : UInt64

namespace Double

/-- The number held by a machine float. -/
def ofFloat (x : Float) : Double := ⟨x.toBits⟩

/-- The sign bit is set. -/
def isNegative (d : Double) : Bool :=
  d.bits >>> 63 == 1

/-- The bits below the sign. -/
def magnitude (d : Double) : Nat :=
  d.bits.toNat % (1 <<< 63)

/-- Either of the two zeros. -/
def isZero (d : Double) : Bool :=
  d.magnitude == 0

/-- Numbers are equal when their bits are; the two zeros are equal as well. -/
instance : BEq Double := ⟨fun a b => a.bits == b.bits || (a.isZero && b.isZero)⟩

/-- The exponent field. -/
def exponentField (d : Double) : Nat :=
  d.magnitude / (1 <<< 52)

/-- The fraction field. -/
def fractionField (d : Double) : Nat :=
  d.magnitude % (1 <<< 52)

/-- Neither infinite nor undefined. -/
def isFinite (d : Double) : Bool :=
  d.exponentField < 2047

/-- The integer `m` in the absolute value `m · 2 ^ q` of a finite number. -/
def mantissa (d : Double) : Nat :=
  if d.exponentField = 0 then d.fractionField else d.fractionField + (1 <<< 52)

/-- The integer `q` in the absolute value `m · 2 ^ q` of a finite number. -/
def exponent (d : Double) : Int :=
  (if d.exponentField = 0 then 1 else d.exponentField : Nat) - 1075

/-- The gap below the number is half the gap above it. -/
def isBinadeStart (d : Double) : Bool :=
  d.fractionField = 0 && d.exponentField > 1

end Double

end RestFlow

/-!
## The shortest decimal that reads back

A decimal reads back as a given double when it lies in the interval of reals that round to it. Among
the decimals that do, those with the fewest digits are wanted, and of these the nearest. The search
runs over the grids of one to seventeen significant digits and tests the two neighbours of the value
on each of them in exact arithmetic.
-/

namespace RestFlow.Decimal

open Double (mantissa exponent isBinadeStart)

/-- A non-negative rational number as a numerator over a positive denominator. -/
structure Ratio where
  num : Nat
  den : Nat

namespace Ratio

/-- The number `n · base ^ e`. -/
def scaled (n base : Nat) (e : Int) : Ratio :=
  if e ≥ 0 then ⟨n * base.pow e.toNat, 1⟩ else ⟨n, base.pow (-e).toNat⟩

/-- Comparison by cross multiplication. -/
def lt (a b : Ratio) : Bool :=
  a.num * b.den < b.num * a.den

/-- Comparison by cross multiplication. -/
def le (a b : Ratio) : Bool :=
  a.num * b.den ≤ b.num * a.den

/-- The quotient `a / (10 ^ e)`, rounded down. -/
def floorTenths (a : Ratio) (e : Int) : Nat :=
  if e ≥ 0 then a.num / (a.den * Nat.pow 10 e.toNat) else a.num * Nat.pow 10 (-e).toNat / a.den

end Ratio

/-- The least `e` from `start` on with `a < 10 ^ (e + 1)`, tried `fuel` times. -/
def leadingPlace (a : Ratio) (start : Int) : Nat → Int
  | 0 => start
  | fuel + 1 =>
    if a.lt (.scaled 1 10 (start + 1)) then start else leadingPlace a (start + 1) fuel

/-- The absolute value of a finite double. -/
def value (d : Double) : Ratio :=
  .scaled (4 * mantissa d) 2 (exponent d - 2)

/-- Whether `digits · 10 ^ place` reads back as the double. -/
def readsBack (d : Double) (digits : Nat) (place : Int) : Bool :=
  let candidate := Ratio.scaled digits 10 place
  let below := Ratio.scaled (4 * mantissa d - if isBinadeStart d then 1 else 2) 2 (exponent d - 2)
  let above := Ratio.scaled (4 * mantissa d + 2) 2 (exponent d - 2)
  if mantissa d % 2 = 0 then below.le candidate && candidate.le above
  else below.lt candidate && candidate.lt above

/-- Whether the value is nearer to `digits` than to `digits + 1` at a place; a tie goes to even. -/
def nearerBelow (d : Double) (digits : Nat) (place : Int) : Bool :=
  let middle := Ratio.scaled (2 * digits + 1) 10 place
  let twice : Ratio := ⟨2 * (value d).num, (value d).den⟩
  twice.lt middle || (twice.le middle && digits % 2 == 0)

/-- The decimal of the grid `10 ^ place` that reads back and is nearest, if the grid has one. -/
def onGrid (d : Double) (place : Int) : Option Nat :=
  let digits := (value d).floorTenths place
  match readsBack d digits place, readsBack d (digits + 1) place with
  | true, true => some (if nearerBelow d digits place then digits else digits + 1)
  | true, false => some digits
  | false, true => some (digits + 1)
  | false, false => none

/-- Remove the zeros at the end of a digit string, raising the place. -/
def dropZeros (digits : Nat) (place : Int) : Nat → Nat × Int
  | 0 => (digits, place)
  | fuel + 1 =>
    if digits % 10 = 0 then dropZeros (digits / 10) (place + 1) fuel else (digits, place)

/-- Digits and place of the shortest decimal `digits · 10 ^ place` that reads back as a positive
finite double. -/
def shortest (d : Double) : Nat × Int :=
  let top := leadingPlace (value d) (-324) 640
  let grids := (List.range 17).map fun n : Nat => top - n
  match grids.findSome? fun place => (onGrid d place).map (·, place) with
  | some (digits, place) => dropZeros digits place 20
  | none => (0, 0)

end RestFlow.Decimal

namespace RestFlow.Decimal

/-!
## Decimal texts of doubles

How the shortest decimal of a double is laid out: positionally as long as the exponent is moderate,
in scientific form otherwise.
-/

/-- The decisions that turn digits and exponent into text. -/
structure Layout where
  /-- The least exponent that is written positionally. -/
  leastPositional : Int
  /-- The greatest exponent that is written positionally. -/
  greatestPositional : Int
  /-- The least number of digits in a written exponent. -/
  exponentDigits : Nat

/-- The decimal digits of a number. -/
def digitsOf (n : Nat) : List Char :=
  Nat.toDigits 10 n

/-- Zeros in front of a digit string up to a given width. -/
def padLeft (width : Nat) (digits : List Char) : List Char :=
  List.replicate (width - digits.length) '0' ++ digits

/-- The text of `digits · 10 ^ (exponent + 1 - length)`, where the first digit stands before the
point in scientific form. -/
def Layout.render (layout : Layout) (digits : List Char) (exponent : Int) : List Char :=
  if layout.leastPositional ≤ exponent && exponent ≤ layout.greatestPositional then
    if exponent < 0 then
      '0' :: '.' :: (List.replicate ((-exponent).toNat - 1) '0' ++ digits)
    else
      let whole := exponent.toNat + 1
      let padded := digits ++ List.replicate (whole - digits.length) '0'
      let fraction := padded.drop whole
      padded.take whole ++ '.' :: (if fraction.isEmpty then ['0'] else fraction)
  else
    let mark := if exponent < 0 then ['e', '-'] else ['e', '+']
    let scale := padLeft layout.exponentDigits (digitsOf exponent.natAbs)
    match digits with
    | first :: rest@(_ :: _) => first :: '.' :: rest ++ mark ++ scale
    | short => short ++ mark ++ scale

/-- The text of a finite double: its sign, then the shortest decimal that reads back. -/
def Layout.text (layout : Layout) (d : Double) : String :=
  let sign := if d.isNegative then ['-'] else []
  if d.isZero then String.ofList (sign ++ ['0', '.', '0'])
  else
    let (digits, place) := shortest d
    let written := digitsOf digits
    String.ofList (sign ++ layout.render written (place + written.length - 1))

end RestFlow.Decimal
