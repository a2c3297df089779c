import BuilderGen.Text.Stride

/-!
# Blanks

The Unicode property `White_Space` as a table of strides, and the trimming of a text by it.
References to classes and attribute types are trimmed; a type expression may hold blanks around
every token.
-/

namespace BuilderGen.Text

/-- The code points with the property `White_Space`, in increasing order. -/
def blankStrides : List Stride := [
  ⟨0x9, 0xD, 1⟩, ⟨0x20, 0x20, 1⟩, ⟨0x85, 0x85, 1⟩, ⟨0xA0, 0xA0, 1⟩, ⟨0x1680, 0x1680, 1⟩,
  ⟨0x2000, 0x200A, 1⟩, ⟨0x2028, 0x2029, 1⟩, ⟨0x202F, 0x202F, 1⟩, ⟨0x205F, 0x205F, 1⟩,
  ⟨0x3000, 0x3000, 1⟩
]

/-- Whether a character is white space. -/
def isBlank (c : Char) : Bool := Stride.within blankStrides c.toNat

/-- The text without the blanks at its start. -/
def trimStart (s : List Char) : List Char := s.dropWhile isBlank

/-- The text without the blanks at its end. -/
def trimEnd (s : List Char) : List Char := (s.reverse.dropWhile isBlank).reverse

/-- The text without the blanks at its two ends. -/
def trim (s : String) : String := String.ofList (trimEnd (trimStart s.toList))

end BuilderGen.Text
