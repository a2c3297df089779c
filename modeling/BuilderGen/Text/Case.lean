import BuilderGen.Text.CaseMapping
import BuilderGen.Text.CaseProperty

/-!
# Changing the case of a text

The first letter of a name is raised or lowered alone; an acronym is lowered as a whole. The latter
follows the one rule of lowering that depends on the context: a capital sigma at the end of a word
becomes a final sigma.
-/

namespace BuilderGen.Text

/-! ## 1. The first letter -/

/-- The text with its first character in capital form. -/
def capitalizeChars : List Char → List Char
  | [] => []
  | c :: rest => upperForm c ++ rest

/-- The text with its first character in small form. -/
def decapitalizeChars : List Char → List Char
  | [] => []
  | c :: rest => lowerForm c ++ rest

/-- The text with its first character in capital form. -/
def capitalize (s : String) : String := String.ofList (capitalizeChars s.toList)

/-- The text with its first character in small form. -/
def decapitalize (s : String) : String := String.ofList (decapitalizeChars s.toList)

/-! ## 2. The whole text -/

/-- Whether the first character that counts, in reading order, has a case. -/
def meetsCased (s : List Char) : Bool :=
  match s.dropWhile isCaseIgnorable with
  | [] => false
  | c :: _ => isCased c

/-- The small form of a character between two texts, the first of them reversed. A capital sigma
ends a word if a cased character comes before it and none comes after it. -/
def lowerFormBetween (before : List Char) (c : Char) (after : List Char) : List Char :=
  if c = 'Σ' then
    if meetsCased before && !meetsCased after then ['ς'] else ['σ']
  else lowerForm c

/-- The text in small form, behind a text that is given reversed. -/
def lowercaseBehind (before : List Char) : List Char → List Char
  | [] => []
  | c :: rest => lowerFormBetween before c rest ++ lowercaseBehind (c :: before) rest

/-- The text in small form. -/
def lowercase (s : List Char) : List Char := lowercaseBehind [] s

end BuilderGen.Text
