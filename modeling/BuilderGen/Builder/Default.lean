import BuilderGen.Builder.Shape
import BuilderGen.Json.Printer
import BuilderGen.Name.Identifier

/-!
# Defaults from sampled values

The default of an optional parameter is what a fresh instance holds, if that is a value of the
declared type. Otherwise it is the zero of a primitive type, and null for all other types.
-/

namespace BuilderGen.Builder

open BuilderGen.Data (Value)
open BuilderGen.Types (ValueType)

/-- The default that stands for a sampled value of a type, if the value fits the type. -/
def DefaultValue.ofSample? (type : ValueType) (value : Value) : Option DefaultValue :=
  match type with
  | .primitive p =>
    match p.range?, value with
    | some (low, high), .int n =>
      if low ≤ n ∧ n ≤ high then some (.literal (toString n)) else none
    | none, .bool b => some (.literal (toString b))
    | _, _ => none
  | .enumeration _ =>
    match value with
    | .null => some .null
    | .text s =>
      if Name.isIdentifier s then some (.constant type.sourceClass (Name.escape s)) else none
    | _ => none
  | .boxed _ _ =>
    match value with
    | .null => some .null
    | .bool b => some (.literal (toString b))
    | .int n => some (.literal (toString n))
    | _ => none
  | .text | .object _ =>
    match value with
    | .null => some .null
    | .text s => some (.text s)
    | other => some (.text (Json.valueText other))

/-- The default of a type on which nothing fitting was sampled. -/
def DefaultValue.fallback (type : ValueType) : DefaultValue :=
  match type.zero? with
  | some zero => .literal zero
  | none => .null

/-- Whether a parameter with a default admits null: a primitive never does, a text only if null is
its default, and all other types do. -/
def admitsNull (type : ValueType) (default : DefaultValue) : Bool :=
  !type.isPrimitive && (type != .text || default == .null)

end BuilderGen.Builder
