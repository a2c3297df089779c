import BuilderGen.Number.Shortest

/-!
# The written form of a number

A number with a fraction is written positionally while its first digit stands near the decimal
point, and with an exponent beyond. Where the border lies, and what an exponent looks like, is one
record.
-/

namespace BuilderGen.Number

/-- The decisions of a written form. -/
structure Layout where
  /-- The least exponent of the first digit that is written positionally. -/
  positionalFrom : Int
  /-- The greatest exponent of the first digit that is written positionally. -/
  positionalTo : Int
  /-- What follows the digits of a positional number without a fraction. -/
  integralTail : String
  /-- The letter before an exponent. -/
  exponentMark : String
  /-- The sign of an exponent that is not negative. -/
  plusSign : String

/-- The form of a number in a JSON text: positional from five places behind the point to sixteen
places before it, `.0` behind a whole number, and a sign in every exponent. -/
def jsonLayout : Layout :=
  { positionalFrom := -5, positionalTo := 15, integralTail := ".0", exponentMark := "e",
    plusSign := "+" }

/-- Zeros in a row. -/
def zeros (n : Nat) : String := String.ofList (List.replicate n '0')

/-- Digits written positionally, the first one at the given exponent. -/
def Layout.positional (l : Layout) (digits : List Char) (leading : Int) : String :=
  if leading < 0 then "0." ++ zeros ((-leading).toNat - 1) ++ String.ofList digits
  else
    let whole := leading.toNat + 1
    if digits.length ≤ whole then
      String.ofList digits ++ zeros (whole - digits.length) ++ l.integralTail
    else String.ofList (digits.take whole) ++ "." ++ String.ofList (digits.drop whole)

/-- Digits written with an exponent. -/
def Layout.scientific (l : Layout) (digits : List Char) (leading : Int) : String :=
  let fraction := match digits.drop 1 with
    | [] => ""
    | rest => "." ++ String.ofList rest
  let sign := if leading < 0 then "-" else l.plusSign
  String.ofList (digits.take 1) ++ fraction ++ l.exponentMark ++ sign ++ toString leading.natAbs

/-- The written form of a finite number. -/
def Layout.write (l : Layout) (d : Double) : String :=
  let sign := if d.isNegative then "-" else ""
  if d.mantissa = 0 then sign ++ "0" ++ l.integralTail
  else
    let s := d.shortest
    let digits := Nat.toDigits 10 s.digits
    let leading := s.exponent + digits.length - 1
    if l.positionalFrom ≤ leading && leading ≤ l.positionalTo then
      sign ++ l.positional digits leading
    else sign ++ l.scientific digits leading

end BuilderGen.Number
