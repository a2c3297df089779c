/-!
# String literals

A string literal stands between double quotes. Inside it a backslash, a quote, a dollar sign (which
would start a template) and the three usual control characters are escaped.
-/

namespace BuilderGen.Source.Literal

/-- The written form of a character. -/
def encodeChar (c : Char) : List Char :=
  if c = '\\' then ['\\', '\\']
  else if c = '"' then ['\\', '"']
  else if c = '$' then ['\\', '$']
  else if c = '\n' then ['\\', 'n']
  else if c = '\r' then ['\\', 'r']
  else if c = '\t' then ['\\', 't']
  else [c]

/-- The literal for a text. -/
def encodeChars (s : List Char) : List Char := '"' :: s.flatMap encodeChar ++ ['"']

/-- The literal for a text. -/
def encode (s : String) : String := String.ofList (encodeChars s.toList)

end BuilderGen.Source.Literal
