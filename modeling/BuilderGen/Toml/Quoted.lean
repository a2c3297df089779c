import BuilderGen.Number.Digit

/-!
# Quoted texts in TOML

A text stands between double quotes, with escapes, or between single quotes, as it is; either may
span several lines if its quotes are tripled. Up to two more quotes may stand directly in front of
the closing ones. Control characters other than the tab are refused.
-/

namespace BuilderGen.Toml

/-! ## 1. Characters -/

/-- The two characters that separate tokens in a line. -/
def isSpace (c : Char) : Bool := c == ' ' || c == '\t'

/-- Whether a character may stand in a comment or a quoted text as it is. -/
def isPlain (c : Char) : Bool := c == '\t' || 0x20 ≤ c.toNat && c.toNat != 0x7F

/-- The character with a number, unless the number is a half of a surrogate pair or too large. -/
def scalarValue? (n : Nat) : Option Char := if n.isValidChar then some (Char.ofNat n) else none

/-- The character that hexadecimal digits write. -/
def escapedCode? (digits : List Char) : Option Char := (Number.hexNumber? digits).bind scalarValue?

/-- The character behind a backslash, for the escapes of one letter. -/
def shortEscape? : Char → Option Char
  | 'b' => some '\x08'
  | 't' => some '\t'
  | 'n' => some '\n'
  | 'f' => some '\x0c'
  | 'r' => some '\r'
  | 'e' => some '\x1b'
  | '"' => some '"'
  | '\\' => some '\\'
  | _ => none

/-- A scanned text with one more character at its front, if there is one. -/
def push? (c : Option Char) (scanned : Option (List Char × List Char)) :
    Option (List Char × List Char) :=
  match c, scanned with
  | some c, some (s, rest) => some (c :: s, rest)
  | _, _ => none

/-! ## 2. One line -/

/-- The text up to a closing double quote, and what follows it. -/
def scanBasic : List Char → Option (List Char × List Char)
  | [] => none
  | '"' :: rest => some ([], rest)
  | '\\' :: 'x' :: a :: b :: rest => push? (escapedCode? [a, b]) (scanBasic rest)
  | '\\' :: 'u' :: a :: b :: c :: d :: rest => push? (escapedCode? [a, b, c, d]) (scanBasic rest)
  | '\\' :: 'U' :: a :: b :: c :: d :: e :: f :: g :: h :: rest =>
    push? (escapedCode? [a, b, c, d, e, f, g, h]) (scanBasic rest)
  | '\\' :: e :: rest => push? (shortEscape? e) (scanBasic rest)
  | c :: rest => if isPlain c && c != '\\' then push? (some c) (scanBasic rest) else none

/-- The text up to a closing single quote, and what follows it. -/
def scanLiteral : List Char → Option (List Char × List Char)
  | [] => none
  | '\'' :: rest => some ([], rest)
  | c :: rest => if isPlain c then push? (some c) (scanLiteral rest) else none

/-! ## 3. Several lines -/

/-- Whether a text starts with the end of a line. -/
def startsLine : List Char → Bool
  | '\n' :: _ => true
  | '\r' :: '\n' :: _ => true
  | _ => false

/-- The text without the end of a line at its front. -/
def dropLineEnd : List Char → List Char
  | '\n' :: rest => rest
  | '\r' :: '\n' :: rest => rest
  | s => s

/-- The text up to closing triple double quotes, and what follows them. Behind a backslash at the
end of a line, blanks and line ends are passed over. -/
def scanLongBasic (skipping : Bool) : List Char → Option (List Char × List Char)
  | [] => none
  | '\n' :: rest =>
    if skipping then scanLongBasic true rest else push? (some '\n') (scanLongBasic false rest)
  | '\r' :: '\n' :: rest =>
    if skipping then scanLongBasic true rest
    else push? (some '\r') (push? (some '\n') (scanLongBasic false rest))
  | '"' :: '"' :: '"' :: '"' :: '"' :: '"' :: _ => none
  | '"' :: '"' :: '"' :: '"' :: '"' :: rest => some (['"', '"'], rest)
  | '"' :: '"' :: '"' :: '"' :: rest => some (['"'], rest)
  | '"' :: '"' :: '"' :: rest => some ([], rest)
  | '\\' :: 'x' :: a :: b :: rest => push? (escapedCode? [a, b]) (scanLongBasic false rest)
  | '\\' :: 'u' :: a :: b :: c :: d :: rest =>
    push? (escapedCode? [a, b, c, d]) (scanLongBasic false rest)
  | '\\' :: 'U' :: a :: b :: c :: d :: e :: f :: g :: h :: rest =>
    push? (escapedCode? [a, b, c, d, e, f, g, h]) (scanLongBasic false rest)
  | '\\' :: e :: rest =>
    if startsLine ((e :: rest).dropWhile isSpace) then scanLongBasic true rest
    else push? (shortEscape? e) (scanLongBasic false rest)
  | c :: rest =>
    if skipping && isSpace c then scanLongBasic true rest
    else if isPlain c && c != '\\' then push? (some c) (scanLongBasic false rest)
    else none

/-- The text up to closing triple single quotes, and what follows them. -/
def scanLongLiteral : List Char → Option (List Char × List Char)
  | [] => none
  | '\n' :: rest => push? (some '\n') (scanLongLiteral rest)
  | '\r' :: '\n' :: rest => push? (some '\r') (push? (some '\n') (scanLongLiteral rest))
  | '\'' :: '\'' :: '\'' :: '\'' :: '\'' :: '\'' :: _ => none
  | '\'' :: '\'' :: '\'' :: '\'' :: '\'' :: rest => some (['\'', '\''], rest)
  | '\'' :: '\'' :: '\'' :: '\'' :: rest => some (['\''], rest)
  | '\'' :: '\'' :: '\'' :: rest => some ([], rest)
  | c :: rest => if isPlain c then push? (some c) (scanLongLiteral rest) else none

/-- The text of one line behind its opening quote, if a text starts with one. -/
def scanShort? : List Char → Option (Option (List Char × List Char))
  | '"' :: rest => some (scanBasic rest)
  | '\'' :: rest => some (scanLiteral rest)
  | _ => none

/-- The quoted text behind its opening quotes, if a text starts with some. -/
def scanQuoted? : List Char → Option (Option (List Char × List Char))
  | '"' :: '"' :: '"' :: rest => some (scanLongBasic false (dropLineEnd rest))
  | '\'' :: '\'' :: '\'' :: rest => some (scanLongLiteral (dropLineEnd rest))
  | s => scanShort? s

end BuilderGen.Toml
