import BuilderGen.Data.Node
import BuilderGen.Number.Scaled

/-!
# Bare scalars in TOML

Numbers, truth values, dates and times are written without quotes. Digits may be grouped by single
underscores. A date or time has no value of its own kind in a document: it is a table with one entry
that holds its text in normal form.
-/

namespace BuilderGen.Toml

open BuilderGen.Data (Node)
open BuilderGen.Number (Double Numeral digit hexDigit? isExponentMark)

/-! ## 1. Numbers -/

/-- The digits of a number without the underscores between two of them. -/
def ungroup (isDigit : Char → Bool) : List Char → Option (List Char)
  | [] => none
  | [c] => if isDigit c then some [c] else none
  | c :: '_' :: rest => if isDigit c then (ungroup isDigit rest).map (c :: ·) else none
  | c :: rest => if isDigit c then (ungroup isDigit rest).map (c :: ·) else none

/-- A sign and what follows it. -/
def splitSign : List Char → Bool × List Char
  | '+' :: rest => (false, rest)
  | '-' :: rest => (true, rest)
  | s => (false, s)

/-- The number that digits write in a base. -/
def inBase (base : Nat) (digits : List Char) : Nat :=
  digits.foldl (fun n c => base * n + (hexDigit? c).getD 0) 0

/-- Whether a character is a digit of a base of at most sixteen. -/
def isDigitOf (base : Nat) (c : Char) : Bool := (hexDigit? c).any (· < base)

/-- A whole number, which has a value if it fits in 128 bits. -/
def wholeNode (n : Int) : Node :=
  if -(Nat.pow 2 127 : Int) ≤ n ∧ n < Nat.pow 2 128 then .int n else .unreadable

/-- A number in a base other than ten. -/
def based? (base : Nat) (s : List Char) : Option Node :=
  (ungroup (isDigitOf base) s).map fun digits => wholeNode (inBase base digits)

/-- The digits of a number whose first digit is only zero if it is the only one. -/
def leadingDigits? (s : List Char) : Option (List Char) :=
  match s with
  | '0' :: _ :: _ => none
  | s => ungroup Char.isDigit s

/-- A whole number in base ten. -/
def decimal? (s : List Char) : Option Node :=
  let (negative, rest) := splitSign s
  (leadingDigits? rest).map fun digits =>
    let n : Int := inBase 10 digits
    wholeNode (if negative then -n else n)

/-- The bits of the positive infinity. -/
def infinity : Double := ⟨0x7FF0000000000000⟩

/-- The bits of the result of an undefined operation. -/
def undefinedReal : Double := ⟨0x7FF8000000000000⟩

/-- A number with a fraction or an exponent, as it is written. -/
def numeral? (s : List Char) : Option Numeral := do
  let (negative, rest) := splitSign s
  let mantissa := rest.takeWhile (!isExponentMark ·)
  let exponent ← match rest.dropWhile (!isExponentMark ·) with
    | [] => pure none
    | _ :: e =>
      let (down, digits) := splitSign e
      let digits ← ungroup Char.isDigit digits
      let n : Int := inBase 10 digits
      pure (some (if down then -n else n))
  let whole ← leadingDigits? (mantissa.takeWhile (· != '.'))
  let fraction ← match mantissa.dropWhile (· != '.') with
    | [] => pure none
    | _ :: f => (ungroup Char.isDigit f).map fun ds => some (ds.map digit)
  if fraction.isNone && exponent.isNone then none
  else return ⟨negative, whole.map digit, fraction, exponent⟩

/-- A number that need not be whole. It has no value if it is too large. -/
def real? (s : List Char) : Option Node :=
  let (_, rest) := splitSign s
  if rest = "inf".toList then some (.real infinity)
  else if rest = "nan".toList then some (.real undefinedReal)
  else (numeral? s).map fun n => (n.nearest?.map .real).getD .unreadable

/-! ## 2. Dates and times -/

/-- The number that decimal digits write, if they are at most a bound. -/
def bounded? (low high : Nat) (digits : List Char) : Option Nat :=
  if digits.all Char.isDigit then
    let n := inBase 10 digits
    if low ≤ n && n ≤ high then some n else none
  else none

/-- The number of days of a month. -/
def daysOf (year month : Nat) : Nat :=
  if month = 2 then
    if year % 4 = 0 && (year % 100 != 0 || year % 400 = 0) then 29 else 28
  else if month = 4 || month = 6 || month = 9 || month = 11 then 30
  else 31

/-- A date in front of a text, and what follows it. -/
def date? : List Char → Option (List Char × List Char)
  | y1 :: y2 :: y3 :: y4 :: '-' :: m1 :: m2 :: '-' :: d1 :: d2 :: rest => do
    let year ← bounded? 0 9999 [y1, y2, y3, y4]
    let month ← bounded? 1 12 [m1, m2]
    let _ ← bounded? 1 (daysOf year month) [d1, d2]
    return ([y1, y2, y3, y4, '-', m1, m2, '-', d1, d2], rest)
  | _ => none

/-- The fraction of a second in normal form: at most nine digits, without zeros at the end. -/
def fractionText (digits : List Char) : List Char :=
  match ((digits.take 9).reverse.dropWhile (· == '0')).reverse with
  | [] => []
  | ds => '.' :: ds

/-- A time in front of a text, and what follows it. Missing seconds are zero. -/
def time? : List Char → Option (List Char × List Char)
  | h1 :: h2 :: ':' :: m1 :: m2 :: rest => do
    let _ ← bounded? 0 23 [h1, h2]
    let _ ← bounded? 0 59 [m1, m2]
    let minutes := [h1, h2, ':', m1, m2]
    match rest with
    | ':' :: s1 :: s2 :: rest => do
      let _ ← bounded? 0 60 [s1, s2]
      let seconds := minutes ++ [':', s1, s2]
      match rest with
      | '.' :: rest =>
        let digits := rest.takeWhile Char.isDigit
        if digits.isEmpty then none
        else some (seconds ++ fractionText digits, rest.dropWhile Char.isDigit)
      | rest => some (seconds, rest)
    | ':' :: _ => none
    | rest => some (minutes ++ [':', '0', '0'], rest)
  | _ => none

/-- The offset of a time from universal time, as a whole text. -/
def offset? : List Char → Option (List Char)
  | [] => some []
  | ['Z'] | ['z'] => some ['Z']
  | [sign, h1, h2, ':', m1, m2] => do
    let hours ← bounded? 0 23 [h1, h2]
    let minutes ← bounded? 0 59 [m1, m2]
    if sign == '+' || sign == '-' then
      let sign := if hours + minutes = 0 then '+' else sign
      some [sign, h1, h2, ':', m1, m2]
    else none
  | _ => none

/-- The normal form of a date, a time, or both. -/
def moment? (s : List Char) : Option (List Char) :=
  match date? s with
  | some (date, []) => some date
  | some (date, mark :: rest) =>
    if mark == 'T' || mark == 't' || mark == ' ' then do
      let (time, rest) ← time? rest
      let offset ← offset? rest
      return date ++ 'T' :: time ++ offset
    else none
  | none =>
    match time? s with
    | some (time, []) => some time
    | _ => none

/-- The key under which a date or time is held. -/
def momentKey : String := "$__toml_private_datetime"

/-! ## 3. Scalars -/

/-- The value that a bare scalar writes. -/
def scalar? (s : List Char) : Option Node :=
  if s = "true".toList then some (.bool true)
  else if s = "false".toList then some (.bool false)
  else
    match s with
    | '0' :: 'x' :: digits => based? 16 digits
    | '0' :: 'o' :: digits => based? 8 digits
    | '0' :: 'b' :: digits => based? 2 digits
    | s =>
      match moment? s with
      | some text => some (.ofEntries [(momentKey, .text (String.ofList text))])
      | none => (decimal? s).or (real? s)

end BuilderGen.Toml
