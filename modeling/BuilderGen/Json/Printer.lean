import BuilderGen.Data.Value
import BuilderGen.Number.Layout

/-!
# Compact JSON texts

A document is written without spaces. In a string, quotes, backslashes and the control characters
below the space are escaped, the latter by a letter if they have one.
-/

namespace BuilderGen.Json

open BuilderGen.Data (Node Value)

/-! ## 1. Strings -/

/-- A hexadecimal digit in small form. -/
def hexChar (n : Nat) : Char :=
  if n < 10 then Char.ofNat ('0'.toNat + n) else Char.ofNat ('a'.toNat + (n - 10))

/-- The written form of a character inside a string. -/
def escapeChar (c : Char) : List Char :=
  if c = '"' then ['\\', '"']
  else if c = '\\' then ['\\', '\\']
  else if c = '\x08' then ['\\', 'b']
  else if c = '\x0c' then ['\\', 'f']
  else if c = '\n' then ['\\', 'n']
  else if c = '\r' then ['\\', 'r']
  else if c = '\t' then ['\\', 't']
  else if c.toNat < 0x20 then ['\\', 'u', '0', '0', hexChar (c.toNat / 16), hexChar (c.toNat % 16)]
  else [c]

/-- The written form of a string. -/
def quote (s : List Char) : List Char := '"' :: s.flatMap escapeChar ++ ['"']

/-! ## 2. Documents -/

/-- The written form of a whole number. -/
def intText (n : Int) : List Char :=
  if n < 0 then '-' :: Nat.toDigits 10 n.natAbs else Nat.toDigits 10 n.natAbs

mutual

/-- The written form of a document. What has no value is written as null. -/
def print : Node → List Char
  | .null => ['n', 'u', 'l', 'l']
  | .bool true => ['t', 'r', 'u', 'e']
  | .bool false => ['f', 'a', 'l', 's', 'e']
  | .int n => intText n
  | .real d => (Number.jsonLayout.write d).toList
  | .text s => quote s.toList
  | .list items => '[' :: printItems items ++ [']']
  | .table entries => '{' :: printEntries entries ++ ['}']
  | .unreadable => ['n', 'u', 'l', 'l']

/-- The items of a list with commas between them. -/
def printItems : List Node → List Char
  | [] => []
  | [n] => print n
  | n :: m :: rest => print n ++ ',' :: printItems (m :: rest)

/-- The entries of a table with commas between them. -/
def printEntries : List (Option String × Node) → List Char
  | [] => []
  | [(k, n)] => quote (k.getD "").toList ++ ':' :: print n
  | (k, n) :: e :: rest =>
    quote (k.getD "").toList ++ ':' :: print n ++ ',' :: printEntries (e :: rest)

end

/-- The compact text of a document. -/
def text (n : Node) : String := String.ofList (print n)

/-- The compact text of a sampled value. -/
def valueText (v : Value) : String := text v.toNode

end BuilderGen.Json
