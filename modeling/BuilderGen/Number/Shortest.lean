import BuilderGen.Number.Double

/-!
# The shortest decimal that reads back

All reals in an interval around a binary floating point number round to it; the two ends belong to
the interval when its integer significand is even. Among the decimals in the interval, the ones
with the fewest digits are printed, and of those the nearest to the number. On a decimal grid only
the two neighbours of the number need a look: if any point of the grid is in the interval, one of
them is.

All magnitudes are fractions of natural numbers over one common denominator, so nothing is rounded.
-/

namespace BuilderGen.Number

/-! ## 1. The interval -/

/-- A magnitude and the two ends of its interval, as numerators over one denominator. -/
structure Interval where
  low : Nat
  value : Nat
  high : Nat
  denominator : Nat
  /-- Whether the two ends belong to the interval. -/
  closed : Bool

/-- The interval of the reals that round to a number, by its magnitude. -/
def Double.interval (d : Double) : Interval :=
  let up := Nat.pow 2 d.exponent.toNat
  let down := 4 * Nat.pow 2 (-d.exponent).toNat
  { low := (4 * d.mantissa - if d.isLeftmost then 1 else 2) * up
    value := 4 * d.mantissa * up
    high := (4 * d.mantissa + 2) * up
    denominator := down
    closed := d.mantissa % 2 == 0 }

/-- Whether `n / m` lies in the interval. -/
def Interval.contains (i : Interval) (n m : Nat) : Bool :=
  if i.closed then i.low * m ≤ n * i.denominator && n * i.denominator ≤ i.high * m
  else i.low * m < n * i.denominator && n * i.denominator < i.high * m

/-! ## 2. Decimals -/

/-- The decimal `digits · 10 ^ exponent`. -/
structure Decimal where
  digits : Nat
  exponent : Int
deriving DecidableEq, Repr

/-- The number of decimal digits of a natural number; zero has one. -/
def digitCount (n : Nat) : Nat := (Nat.toDigits 10 n).length

/-- The exponent of the first digit of `n / m`, found by at most `fuel` multiplications by ten when
the fraction is below one. -/
def leadingExponent : Nat → Nat → Nat → Int
  | 0, _, _ => 0
  | fuel + 1, n, m =>
    if m ≤ n then (digitCount (n / m) : Int) - 1 else leadingExponent fuel (10 * n) m - 1

/-- The distance of `a` and `b`. -/
def distance (a b : Nat) : Nat := (a - b) + (b - a)

/-- The decimal in the interval on the grid of the multiples of `10 ^ exponent` that is nearest to
the value, if there is one. Of two at the same distance the even one is taken. -/
def Interval.onGrid? (i : Interval) (exponent : Int) : Option Decimal :=
  let up := Nat.pow 10 exponent.toNat
  let down := Nat.pow 10 (-exponent).toNat
  let below := i.value * down / (i.denominator * up)
  let gap := fun k => distance (k * up * i.denominator) (i.value * down)
  let inside := fun k => i.contains (k * up) down
  match inside below, inside (below + 1) with
  | true, true =>
    if gap below < gap (below + 1) || gap below == gap (below + 1) && below % 2 == 0 then
      some ⟨below, exponent⟩
    else some ⟨below + 1, exponent⟩
  | true, false => some ⟨below, exponent⟩
  | false, true => some ⟨below + 1, exponent⟩
  | false, false => none

/-- The first hit on the grids of `count`, `count + 1`, … digits; `left` grids are tried. -/
def Interval.firstHit (i : Interval) (leading : Int) : Nat → Nat → Decimal
  | 0, _ => ⟨0, 0⟩
  | left + 1, count =>
    match i.onGrid? (leading - count + 1) with
    | some d => d
    | none => i.firstHit leading left (count + 1)

/-- A decimal without zeros at its end; `fuel` bounds their number. -/
def Decimal.trimmed : Nat → Decimal → Decimal
  | 0, d => d
  | fuel + 1, d =>
    if d.digits % 10 = 0 && 0 < d.digits then Decimal.trimmed fuel ⟨d.digits / 10, d.exponent + 1⟩
    else d

/-- The shortest decimal that reads back as the magnitude of a number that is not zero. Seventeen
digits are always enough, and no exponent goes below -324. -/
def Double.shortest (d : Double) : Decimal :=
  let i := d.interval
  Decimal.trimmed 20 (i.firstHit (leadingExponent 330 i.value i.denominator) 17 1)

end BuilderGen.Number
