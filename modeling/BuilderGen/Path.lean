/-!
# Paths

A path is a text in which slashes separate components. It is written as it was given and joined:
nothing is normalised, so a component `..` stays where it is. Empty components and a component `.`
stand for nothing, except for a leading one, which tells an absolute path from a relative one.
-/

namespace BuilderGen.Path

/-! ## 1. Joining -/

/-- Whether a path starts at the root. -/
def isAbsolute (p : String) : Bool := p.toList.head? == some '/'

/-- A path below a directory. An absolute path replaces the directory, and a separator is added if
the directory needs one. -/
def join (dir p : String) : String :=
  if isAbsolute p then p
  else if dir.isEmpty || dir.toList.getLast? == some '/' then dir ++ p
  else dir ++ "/" ++ p

/-! ## 2. Components -/

/-- The texts between the slashes. -/
def splitAtSlashes : List Char → List (List Char)
  | [] => [[]]
  | c :: rest =>
    if c = '/' then [] :: splitAtSlashes rest
    else
      match splitAtSlashes rest with
      | [] => [[c]]
      | s :: more => (c :: s) :: more

/-- Pieces with slashes between them. -/
def joinWithSlashes : List (List Char) → List Char
  | [] => []
  | [s] => s
  | s :: more => s ++ '/' :: joinWithSlashes more

/-- Whether a piece behind the first one stands for nothing. -/
def isTrivial (piece : List Char) : Bool := piece == [] || piece == ['.']

/-- The pieces up to the last one that stands for something; the first one always stays. -/
def trimPieces : List (List Char) → List (List Char)
  | [] => []
  | first :: rest => first :: (rest.reverse.dropWhile isTrivial).reverse

/-- The path that pieces write; the empty piece of an absolute path stands for the root. -/
def ofPieces : List (List Char) → String
  | [[]] => "/"
  | pieces => String.ofList (joinWithSlashes pieces)

/-- The pieces of a path up to its last component, if it has a component. -/
def pieces? (p : String) : Option (List (List Char)) :=
  match trimPieces (splitAtSlashes p.toList) with
  | [[]] => none
  | pieces => some pieces

/-- The path of the directory that holds the last component. The root and the empty path have
none. -/
def parent? (p : String) : Option String :=
  (pieces? p).map fun pieces =>
    match trimPieces pieces.dropLast with
    | [] => ""
    | rest => ofPieces rest

/-- The last component, unless it is `.` or `..`. -/
def fileName? (p : String) : Option String :=
  match (pieces? p).bind List.getLast? with
  | some name => if name == ['.'] || name == ['.', '.'] then none else some (String.ofList name)
  | none => none

/-- What follows the last dot of the file name. A dot at its front does not count. -/
def extension? (p : String) : Option String :=
  match fileName? p with
  | none => none
  | some name =>
    let chars := name.toList.reverse
    match chars.dropWhile (· != '.') with
    | [] | ['.'] => none
    | _ => some (String.ofList (chars.takeWhile (· != '.')).reverse)

/-- The components that a path leads through, with the ones that stand for nothing left out. -/
def components (p : String) : List String :=
  ((splitAtSlashes p.toList).filter fun piece => !isTrivial piece).map String.ofList

end BuilderGen.Path
