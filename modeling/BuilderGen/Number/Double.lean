/-!
# Binary floating point numbers of 64 bits

A sampled number with a fraction or an exponent is held as the 64 bits of its binary form, so two
of them are equal exactly when their bits are. A finite one denotes `mantissa · 2 ^ exponent`.
-/

namespace BuilderGen.Number

/-- A floating point number, as sign, exponent field and fraction field in one word. -/
structure Double where
  bits : UInt64
deriving DecidableEq, Repr, Inhabited

namespace Double

/-- The number with the value of a machine float. -/
def ofFloat (x : Float) : Double := ⟨x.toBits⟩

/-- Whether the sign bit is set. -/
def isNegative (d : Double) : Bool := d.bits.toNat / Nat.pow 2 63 == 1

/-- The exponent field. -/
def exponentField (d : Double) : Nat := d.bits.toNat / Nat.pow 2 52 % Nat.pow 2 11

/-- The fraction field. -/
def fraction (d : Double) : Nat := d.bits.toNat % Nat.pow 2 52

/-- Whether the bits denote a number, neither an infinity nor the result of an undefined
operation. -/
def isFinite (d : Double) : Bool := d.exponentField != 2047

/-- The integer significand: the fraction field, with the leading one that all but the smallest
numbers leave out. -/
def mantissa (d : Double) : Nat :=
  if d.exponentField = 0 then d.fraction else Nat.pow 2 52 + d.fraction

/-- The power of two that goes with the integer significand. -/
def exponent (d : Double) : Int := (max d.exponentField 1 : Nat) - 1075

/-- Whether the next smaller magnitude is only half as far away as the next larger one. -/
def isLeftmost (d : Double) : Bool := d.fraction == 0 && 1 < d.exponentField

end Double

end BuilderGen.Number
