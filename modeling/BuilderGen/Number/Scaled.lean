import BuilderGen.Number.Digit
import BuilderGen.Number.Double

/-!
# Reading decimals

Two rules turn a written decimal into a floating point number. The exact rule takes the nearest
number. The scaled rule keeps as many leading digits as fit in 64 bits, rounds them once, and then
multiplies or divides once by a rounded power of ten. The scaled rule is off by a unit in the last
place for some inputs, so the rule that reads a sample is part of what the sample denotes.
-/

namespace BuilderGen.Number

/-- A written number: sign, digits before the point, digits behind it, and exponent. A missing
fraction or exponent is told from an empty one, since it decides whether the number is whole. -/
structure Numeral where
  negative : Bool
  whole : List Nat
  fraction : Option (List Nat)
  exponent : Option Int
deriving DecidableEq, Repr

/-! ## 1. The exact rule -/

/-- The nearest floating point number, if it is finite. An exponent far outside the range decides
the result before any power of ten is computed. -/
def Numeral.nearest? (n : Numeral) : Option Double :=
  let fraction := n.fraction.getD []
  let significand := digitsValue (digitsValue 0 n.whole) fraction
  let exponent := n.exponent.getD 0 - fraction.length
  let leading := exponent + (Nat.toDigits 10 significand).length
  let magnitude : Option Float :=
    if significand = 0 || leading < -400 then some 0
    else if 400 < leading then none
    else some (OfScientific.ofScientific significand (exponent < 0) exponent.natAbs)
  match magnitude with
  | none => none
  | some x =>
    let d := Double.ofFloat (if n.negative then -x else x)
    if d.isFinite then some d else none

/-! ## 2. The scaled rule -/

/-- The greatest number of 64 bits. -/
def maxWord : Nat := Nat.pow 2 64 - 1

/-- Appends digits to a number while the result fits in 64 bits, and returns what is left from the
first digit that does not fit. -/
def gather : Nat → List Nat → Nat × List Nat
  | n, [] => (n, [])
  | n, d :: rest => if 10 * n + d ≤ maxWord then gather (10 * n + d) rest else (n, d :: rest)

/-- A power of ten, rounded. -/
def powerOfTen (k : Nat) : Float := OfScientific.ofScientific 1 false k

/-- Divides by a power of ten, in steps of `10 ^ 308` until zero is reached. -/
def scaleDown (x : Float) (k : Nat) : Float :=
  if k ≤ 308 then x / powerOfTen k
  else if x == 0 then x
  else scaleDown (x / powerOfTen 308) (k - 308)
termination_by k

/-- Multiplies by a power of ten, if the result is finite. -/
def scaleUp? (x : Float) (k : Nat) : Option Float :=
  if k ≤ 308 then
    let y := x * powerOfTen k
    if y.isInf then none else some y
  else if x == 0 then some x else none

/-- The greatest exponent that is read digit by digit. -/
def maxExponent : Nat := Nat.pow 2 31 - 1

/-- The number by the scaled rule, if it is in range. -/
def Numeral.scaled? (n : Numeral) : Option Double :=
  let (head, dropped) := gather 0 n.whole
  let (significand, ignored) := gather head (n.fraction.getD [])
  let kept := (n.fraction.getD []).length - ignored.length
  let start : Int := (dropped.length : Int) - kept
  let signed := fun (x : Float) => some (Double.ofFloat (if n.negative then -x else x))
  let finish := fun (exponent : Int) =>
    let x := (UInt64.ofNat significand).toFloat
    if exponent < 0 then signed (scaleDown x exponent.natAbs)
    else (scaleUp? x exponent.natAbs).bind signed
  match n.exponent with
  | none => finish start
  | some e =>
    if maxExponent < e.natAbs then
      if significand ≠ 0 && 0 < e then none else signed 0
    else finish (start + e)

end BuilderGen.Number
