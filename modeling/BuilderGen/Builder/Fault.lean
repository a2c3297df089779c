import BuilderGen.Types.TypeExpression

/-!
# Why a builder cannot be generated

Such a fault concerns one builder; the others are generated all the same. It carries the name of the
builder and its cause.
-/

namespace BuilderGen.Builder

open BuilderGen.Types (TypeFault)

/-- Why no instance of a class can be created. -/
inductive NotCreatable where
  | isAbstract
  | noConstructor
deriving DecidableEq, Repr

/-- The wording of a reason. -/
def NotCreatable.message : NotCreatable → String
  | .isAbstract => "class is abstract"
  | .noConstructor => "no public no-argument constructor"

/-- Why the parameter of a slot cannot be used. -/
inductive Unsupported where
  | notASetter
  | malformed (fault : TypeFault)
  | nestedGeneric
  | severalArguments
  | notACollection (name : String)
  | ambiguous (declared : String) (candidates : List String)
deriving DecidableEq, Repr

/-- The wording of a reason. -/
def Unsupported.message : Unsupported → String
  | .notASetter => "not a setter"
  | .malformed fault => fault.message
  | .nestedGeneric => "nested generic element type"
  | .severalArguments => "collection with several type arguments"
  | .notACollection name => name ++ " is not a collection"
  | .ambiguous declared candidates =>
    "'" ++ declared ++ "' is ambiguous: " ++ ", ".intercalate candidates

/-- Why a builder cannot be generated. -/
inductive Cause where
  | notCreatable (className : String) (reason : NotCreatable)
  | rawCollection (setter parameter : String)
  | unknownType (setter typeName : String)
  | notAnElement (setter typeName : String)
  | unsupported (setter parameter : String) (reason : Unsupported)
  /-- Two functions have one name and one signature. -/
  | conflict (function : String) (setters : List String)
deriving DecidableEq, Repr

/-- The wording of a cause. -/
def Cause.message : Cause → String
  | .notCreatable c reason => "cannot sample " ++ c ++ ": " ++ reason.message
  | .rawCollection setter parameter =>
    setter ++ " accepts raw collection '" ++ parameter ++ "'"
  | .unknownType setter t => setter ++ " accepts unknown type '" ++ t ++ "'"
  | .notAnElement setter t =>
    setter ++ " accepts " ++ t ++ ", which has no element implementations"
  | .unsupported setter parameter reason =>
    setter ++ " has unsupported parameter '" ++ parameter ++ "': " ++ reason.message
  | .conflict function setters =>
    "function " ++ function ++ " is generated twice, from " ++ " and ".intercalate setters

/-- A builder that cannot be generated. -/
structure Fault where
  /-- The name of the builder. -/
  owner : String
  cause : Cause
deriving DecidableEq, Repr

/-- The wording of a fault. -/
def Fault.message (f : Fault) : String := f.owner ++ ": " ++ f.cause.message

end BuilderGen.Builder
