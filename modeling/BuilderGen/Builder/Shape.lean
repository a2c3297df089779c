import BuilderGen.Source.File
import BuilderGen.Source.Literal
import BuilderGen.Types.ValueType

/-!
# The shape of a builder

What a builder looks like before it is written: the slots of an element for nested elements, for
each slot the classes that may stand in it, and for each such class the parameters with which it is
created.
-/

namespace BuilderGen.Builder

open BuilderGen.Source (ClassRef Code Parameter TypeUse)
open BuilderGen.Types (ValueType)

/-- The name of the parameter that takes the configuration of a nested element. -/
def initName : String := "init"

/-! ## 1. Attributes -/

/-- The default of an optional parameter. -/
inductive DefaultValue where
  /-- A truth value or a number, as it is written. -/
  | literal (text : String)
  | text (s : String)
  | constant (enumeration : ClassRef) (name : String)
  | null
deriving DecidableEq, Repr, Inhabited

/-- The expression for a default. -/
def DefaultValue.code : DefaultValue → Code
  | .literal s => [.text s]
  | .text s => [.text (Source.Literal.encode s)]
  | .constant c name => [.ref c, .text ("." ++ name)]
  | .null => [.text "null"]

/-- A plain value with which an element is created. -/
structure AttributeShape where
  setter : String
  /-- The name of the parameter, as it is written. -/
  parameter : String
  type : ValueType
  required : Bool
  nullable : Bool
  /-- The default, if the parameter has one. -/
  default : Option DefaultValue
deriving DecidableEq, Repr, Inhabited

namespace AttributeShape

/-- The type of the parameter. -/
def typeUse (a : AttributeShape) : TypeUse := .plain a.type.sourceClass a.nullable

/-- The declaration of the parameter. -/
def declaration (a : AttributeShape) : Parameter :=
  ⟨a.parameter, a.typeUse, a.default.map DefaultValue.code⟩

end AttributeShape

/-! ## 2. Slots -/

/-- A class that may stand in a slot. -/
structure Target where
  host : ClassRef
  /-- The name of the function that creates it. -/
  function : String
  /-- The name of the variable that holds the new instance. -/
  instanceName : String
  attributes : List AttributeShape
  /-- The builder of the class, if it takes nested elements itself. -/
  nested : Option ClassRef
deriving DecidableEq, Repr, Inhabited

/-- The class of all functions with one parameter, to which a lambda with a receiver comes down. -/
def lambdaClass : String := "kotlin.Function1"

/-- The parameter types of the function of a target, without nullability and receivers. Two
functions with one name must differ in them. -/
def Target.signature (t : Target) : List String :=
  t.attributes.map (fun a => a.type.sourceClass.canonical)
    ++ (t.nested.map fun _ => lambdaClass).toList

/-- A slot of an element for nested elements. -/
structure Relationship where
  setter : String
  /-- The property behind the setter, as it is written. -/
  accessor : String
  /-- Whether the slot takes any number of elements. -/
  repeatable : Bool
  /-- The full name of the declared class. -/
  declared : String
  targets : List Target
deriving DecidableEq, Repr, Inhabited

/-- The shape of the builder of an element. -/
structure Shape where
  builder : ClassRef
  host : ClassRef
  /-- The property that holds the wrapped instance, as it is written. -/
  property : String
  relationships : List Relationship
deriving DecidableEq, Repr, Inhabited

/-- The number of functions of a builder. -/
def Shape.functionCount (s : Shape) : Nat :=
  (s.relationships.map fun r => r.targets.length).foldr (· + ·) 0

end BuilderGen.Builder
