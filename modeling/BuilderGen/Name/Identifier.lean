import BuilderGen.Text.Numeric

/-!
# Identifiers

An identifier starts with a letter, `_` or `$` and goes on with letters, numbers, `_` and `$`. A
keyword is an identifier that the generated sources can only use in backticks.
-/

namespace BuilderGen.Name

/-! ## 1. The class of identifiers -/

/-- Whether an identifier may start with a character. -/
def isIdentifierStart (c : Char) : Bool := Text.isAlphabetic c || c == '_' || c == '$'

/-- Whether an identifier may go on with a character. -/
def isIdentifierPart (c : Char) : Bool := Text.isAlphanumeric c || c == '_' || c == '$'

/-- Whether characters form an identifier. -/
def isIdentifierChars : List Char → Bool
  | [] => false
  | c :: rest => isIdentifierStart c && rest.all isIdentifierPart

/-- Whether a text is an identifier. -/
def isIdentifier (s : String) : Bool := isIdentifierChars s.toList

/-- What starts an identifier may also stand inside one. -/
theorem isIdentifierPart_of_start {c : Char} (h : isIdentifierStart c = true) :
    isIdentifierPart c = true := by
  simp only [isIdentifierStart, isIdentifierPart, Text.isAlphanumeric, Bool.or_eq_true] at *
  rcases h with (h | h) | h <;> simp [h]

/-- An identifier is not empty. -/
theorem ne_empty_of_isIdentifier {s : String} (h : isIdentifier s = true) : s ≠ "" := by
  rintro rfl
  simp [isIdentifier, isIdentifierChars] at h

/-! ## 2. Keywords -/

/-- The hard keywords of the generated language. -/
def keywords : List String := [
  "as", "break", "class", "continue", "do", "else", "false", "for", "fun", "if", "in", "interface",
  "is", "null", "object", "package", "return", "super", "this", "throw", "true", "try", "typealias",
  "typeof", "val", "var", "when", "while"
]

/-- A name as it is written in a source: a keyword stands in backticks. -/
def escape (name : String) : String :=
  if name ∈ keywords then String.ofList ('\x60' :: name.toList ++ ['\x60']) else name

end BuilderGen.Name
