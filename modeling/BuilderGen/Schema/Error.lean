import BuilderGen.Storage.Error

/-!
# What can be wrong with a schema

All these faults are fatal: nothing is generated from a schema that has one. Each is a cause with
the names it is about; the wording stands in one place.
-/

namespace BuilderGen.Schema

open BuilderGen.Storage (SystemError)

/-! ## 1. Faults of the settings -/

/-- Why the settings cannot be used. -/
inductive SettingsError where
  | package (name : String)
  | noIndent
  | fileExtension (extension : String)
  | entryFunction (name : String)
  /-- The root of the entry point has no usable constructor. -/
  | entryRoot (className : String)
deriving DecidableEq, Repr

namespace SettingsError

/-- The wording of a fault. -/
def message : SettingsError → String
  | .package name => "invalid package name '" ++ name ++ "'"
  | .noIndent => "indent must be positive"
  | .fileExtension e => "invalid file extension '" ++ e ++ "'"
  | .entryFunction name => "invalid entry function name '" ++ name ++ "'"
  | .entryRoot name => "entry point class " ++ name ++ " cannot be instantiated"

end SettingsError

/-! ## 2. Faults of the schema -/

/-- A name that must not be empty. -/
inductive RequiredName where
  | classIn (package : String)
  | typeOf (className setter : String)
  | entryClass
deriving DecidableEq, Repr

namespace RequiredName

/-- The description of the name. -/
def description : RequiredName → String
  | .classIn package => "class name in package '" ++ package ++ "'"
  | .typeOf className setter => "type of " ++ className ++ "." ++ setter
  | .entryClass => "entry class"

end RequiredName

/-- The written form of a schema. -/
inductive Format where
  | toml
  | json
deriving DecidableEq, Repr

/-- Why nothing is generated. -/
inductive SchemaError where
  | unreadable (path : String) (cause : SystemError)
  | malformed (format : Format)
  | unsupportedFormat (path : String)
  | emptyName (what : RequiredName)
  | duplicateClass (name : String)
  | unresolvedType (className reference : String)
  | ambiguousType (reference : String) (candidates : List String)
  | inheritanceCycle (className : String)
  | invalidElementName (className name : String)
  | invalidSetter (className setter : String)
  | generatedNameCollision (name first second : String)
  | entryNotAnElement (className : String)
  | settings (cause : SettingsError)
deriving DecidableEq, Repr

namespace SchemaError

/-- The wording of a fault. What a malformed text violates is not part of it. -/
def message : SchemaError → String
  | .unreadable path cause => "failed to read manifest " ++ path ++ ": " ++ cause.message
  | .malformed .toml => "invalid TOML manifest: "
  | .malformed .json => "invalid JSON manifest: "
  | .unsupportedFormat path => "unsupported manifest format: " ++ path
  | .emptyName what => "empty " ++ what.description
  | .duplicateClass name => "duplicate class: " ++ name
  | .unresolvedType c r => c ++ ": unresolved type reference '" ++ r ++ "'"
  | .ambiguousType r candidates =>
    "ambiguous type reference '" ++ r ++ "', candidates: " ++ ", ".intercalate candidates
  | .inheritanceCycle c => "inheritance cycle through " ++ c
  | .invalidElementName c name => c ++ ": invalid element name '" ++ name ++ "'"
  | .invalidSetter c setter => c ++ ": '" ++ setter ++ "' is not a setter"
  | .generatedNameCollision name first second =>
    "generated name " ++ name ++ " is shared by " ++ first ++ " and " ++ second
  | .entryNotAnElement c => "entry point class " ++ c ++ " is not a configuration element"
  | .settings cause => "configuration error: " ++ cause.message

/-- Whether a further cause lies behind a fault. -/
def hasCause : SchemaError → Bool
  | .unreadable .. | .malformed _ => true
  | _ => false

/-- The wording of the cause behind a fault, as far as it is known. -/
def cause? : SchemaError → Option String
  | .unreadable _ cause => some cause.message
  | _ => none

end SchemaError

end BuilderGen.Schema
