import BuilderGen.Source.ClassRef
import BuilderGen.Text.Blank

/-!
# Types of plain values

The declared type of an attribute falls into one of five kinds: a primitive, a text, a boxed
primitive, an enumeration, or any other class. The kind decides how the type is written in the
generated sources, which sampled values fit it, and whether it admits null.
-/

namespace BuilderGen.Types

open BuilderGen.Source (ClassRef)

/-! ## 1. Primitives -/

/-- A primitive type. -/
inductive Primitive where
  | boolean
  | byte
  | short
  | int
  | long
deriving DecidableEq, Repr, Inhabited

namespace Primitive

/-- The declared name of a primitive type. -/
def keyword : Primitive → String
  | .boolean => "boolean"
  | .byte => "byte"
  | .short => "short"
  | .int => "int"
  | .long => "long"

/-- The name of the class that boxes a primitive type. -/
def boxName : Primitive → String
  | .boolean => "Boolean"
  | .byte => "Byte"
  | .short => "Short"
  | .int => "Integer"
  | .long => "Long"

/-- The name of the type in a generated source. -/
def sourceName : Primitive → String
  | .boolean => "Boolean"
  | .byte => "Byte"
  | .short => "Short"
  | .int => "Int"
  | .long => "Long"

/-- The number of bits of an integral type. -/
def width? : Primitive → Option Nat
  | .boolean => none
  | .byte => some 8
  | .short => some 16
  | .int => some 32
  | .long => some 64

/-- The least and the greatest value of an integral type. -/
def range? (p : Primitive) : Option (Int × Int) :=
  p.width?.map fun w => (-(Nat.pow 2 (w - 1) : Int), (Nat.pow 2 (w - 1) : Int) - 1)

/-- The literal of the value that an instance starts with. -/
def zero : Primitive → String
  | .boolean => "false"
  | _ => "0"

/-- All primitive types. -/
def all : List Primitive := [.boolean, .byte, .short, .int, .long]

/-- The primitive type of a declared name. -/
def ofKeyword? (name : String) : Option Primitive := all.find? fun p => p.keyword == name

/-- The primitive type that the class of a declared name boxes. -/
def ofBoxName? (name : String) : Option Primitive :=
  all.find? fun p => p.boxName == name || "java.lang." ++ p.boxName == name

end Primitive

/-! ## 2. Value types -/

/-- The type of an attribute. The kinds that are classes keep the name as it was declared. -/
inductive ValueType where
  | primitive (p : Primitive)
  | text
  | boxed (p : Primitive) (declared : String)
  | enumeration (declared : String)
  | object (declared : String)
deriving DecidableEq, Repr, Inhabited

namespace ValueType

/-- The type with a declared name, which may be marked as an enumeration. -/
def ofDeclared (declared : String) (isEnum : Bool) : ValueType :=
  let name := Text.trim declared
  if isEnum then .enumeration name
  else
    match Primitive.ofKeyword? name with
    | some p => .primitive p
    | none =>
      if name = "String" ∨ name = "java.lang.String" then .text
      else
        match Primitive.ofBoxName? name with
        | some p => .boxed p name
        | none => .object name

/-- The declared name. A text has its short name, however it was declared. -/
def declaredName : ValueType → String
  | .primitive p => p.keyword
  | .text => "String"
  | .boxed _ declared => declared
  | .enumeration declared => declared
  | .object declared => declared

/-- The class in a generated source. -/
def sourceClass : ValueType → ClassRef
  | .primitive p => .builtin p.sourceName
  | .text => .builtin "String"
  | .boxed p _ => .builtin p.sourceName
  | .enumeration declared => .ofQualified declared
  | .object declared => .ofQualified declared

/-- The written type, with a question mark if it admits null. -/
def sourceText (t : ValueType) (nullable : Bool) : String :=
  t.sourceClass.simpleName ++ if nullable then "?" else ""

/-- Whether the type never admits null. -/
def isPrimitive : ValueType → Bool
  | .primitive _ => true
  | _ => false

/-- Whether the getter starts with `is`. -/
def isTruthValue : ValueType → Bool
  | .primitive .boolean => true
  | _ => false

/-- The least and the greatest value of a primitive integral type. -/
def range? : ValueType → Option (Int × Int)
  | .primitive p => p.range?
  | _ => none

/-- The literal for a primitive on which nothing was observed. -/
def zero? : ValueType → Option String
  | .primitive p => some p.zero
  | _ => none

end ValueType

end BuilderGen.Types
