import BuilderGen.Text.Blank
import BuilderGen.Text.Numeric
import BuilderGen.Text.Segments

/-!
# Type expressions

The parameter of a child slot is declared by a type expression: a name, and type arguments in angle
brackets. An argument may be a wildcard with an upper bound, which is read as its bound. Blanks may
surround every token.

Reading goes through the text once; a fault is told with the number of characters in front of it.
-/

namespace BuilderGen.Types

open BuilderGen.Text (isBlank isAlphanumeric)

/-! ## 1. The type -/

/-- A type name with its arguments. -/
inductive TypeExpression where
  | mk (name : String) (args : List TypeExpression)
deriving Repr, Inhabited

namespace TypeExpression

/-- The name as it was written. -/
def name : TypeExpression → String
  | .mk name _ => name

/-- The type arguments. -/
def args : TypeExpression → List TypeExpression
  | .mk _ args => args

/-- The name without its package. -/
def simpleName (t : TypeExpression) : String := Text.lastSegment t.name

/-- The simple names of the collections to which elements can be added. -/
def collectionNames : List String := [
  "Collection", "List", "ArrayList", "LinkedList", "Set", "HashSet", "LinkedHashSet", "SortedSet",
  "TreeSet"
]

/-- Whether a name has a package other than the one of the collections. -/
def isForeign (name : String) : Bool :=
  name.toList.contains '.' && !"java.util.".toList.isPrefixOf name.toList

/-- Whether the type is a collection to which elements can be added. -/
def isCollection (t : TypeExpression) : Bool :=
  !isForeign t.name && collectionNames.contains t.simpleName

end TypeExpression

/-! ## 2. Faults -/

/-- Why a text is not a type expression. -/
inductive TypeFault where
  | expectedName (offset : Nat)
  | unsupportedWildcard (keyword : String)
  | expectedDelimiter (offset : Nat)
  | trailingInput (offset : Nat)
deriving DecidableEq, Repr

namespace TypeFault

/-- The wording of a fault. -/
def message : TypeFault → String
  | .expectedName offset => "expected a type name at offset " ++ toString offset
  | .unsupportedWildcard keyword => "unsupported wildcard '? " ++ keyword ++ "'"
  | .expectedDelimiter offset => "expected ',' or '>' at offset " ++ toString offset
  | .trailingInput offset => "unexpected trailing input at offset " ++ toString offset

/-- The fault with its position changed. -/
def mapOffset (f : Nat → Nat) : TypeFault → TypeFault
  | .expectedName n => .expectedName (f n)
  | .unsupportedWildcard keyword => .unsupportedWildcard keyword
  | .expectedDelimiter n => .expectedDelimiter (f n)
  | .trailingInput n => .trailingInput (f n)

end TypeFault

/-! ## 3. Names -/

/-- The text from its first character that is no blank. -/
def skipBlanks (s : List Char) : List Char := s.dropWhile isBlank

/-- Whether a name may hold a character. -/
def isNameChar (c : Char) : Bool := isAlphanumeric c || c == '_' || c == '$' || c == '.'

/-- Whether two dots follow one another. -/
def hasDoubleDot : List Char → Bool
  | '.' :: '.' :: _ => true
  | _ :: rest => hasDoubleDot rest
  | [] => false

/-- Whether name characters form a name: there is one, none of the ends is a dot, and no dot
follows another. -/
def isName (s : List Char) : Bool :=
  !s.isEmpty && s.head? != some '.' && s.getLast? != some '.' && !hasDoubleDot s

/-- The name in front of a text, behind blanks, and what follows it. The position of a fault is the
number of characters left. -/
def readName (s : List Char) : Except TypeFault (List Char × List Char) :=
  let s := skipBlanks s
  let name := s.takeWhile isNameChar
  if isName name then .ok (name, s.dropWhile isNameChar) else .error (.expectedName s.length)

/-- The text behind the words `? extends`, if it starts with a question mark. -/
def readBound (s : List Char) : Except TypeFault (List Char) :=
  match skipBlanks s with
  | '?' :: rest =>
    match readName rest with
    | .error e => .error e
    | .ok (keyword, rest) =>
      if keyword = "extends".toList then .ok rest
      else .error (.unsupportedWildcard (String.ofList keyword))
  | s => .ok s

/-! ## 4. Types -/

mutual

/-- The type in front of a text, and what follows it. Each level of nesting takes one unit of fuel
for the type and one for its arguments. -/
def readType : Nat → List Char → Except TypeFault (TypeExpression × List Char)
  | 0, s => .error (.expectedName s.length)
  | fuel + 1, s =>
    match readBound s with
    | .error e => .error e
    | .ok s =>
      match readName s with
      | .error e => .error e
      | .ok (name, s) =>
        match skipBlanks s with
        | '<' :: s =>
          match readArgs fuel s with
          | .error e => .error e
          | .ok (args, s) => .ok (.mk (String.ofList name) args, s)
        | s => .ok (.mk (String.ofList name) [], s)

/-- The types up to a closing bracket, with commas between them, and what follows it. -/
def readArgs : Nat → List Char → Except TypeFault (List TypeExpression × List Char)
  | 0, s => .error (.expectedName s.length)
  | fuel + 1, s =>
    match readType fuel s with
    | .error e => .error e
    | .ok (arg, s) =>
      match skipBlanks s with
      | ',' :: s =>
        match readArgs fuel s with
        | .error e => .error e
        | .ok (args, s) => .ok (arg :: args, s)
      | '>' :: s => .ok ([arg], s)
      | s => .error (.expectedDelimiter s.length)

end

/-- The type that a text writes, with faults by the number of characters left. -/
def TypeExpression.ofChars (s : List Char) : Except TypeFault TypeExpression :=
  match readType (2 * s.length + 2) s with
  | .error e => .error e
  | .ok (t, rest) =>
    match skipBlanks rest with
    | [] => .ok t
    | rest => .error (.trailingInput rest.length)

/-- The type that a text writes. -/
def TypeExpression.parse (s : String) : Except TypeFault TypeExpression :=
  (TypeExpression.ofChars s.toList).mapError (·.mapOffset (s.toList.length - ·))

end BuilderGen.Types
