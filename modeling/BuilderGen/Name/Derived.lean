import BuilderGen.Name.Identifier
import BuilderGen.Text.Case

/-!
# Names derived from names

Setters, getters and classes of the host framework lend their names to the properties, parameters
and builders of the generated sources:

* the setter `setPort` writes the property `port`, read by `getPort`, or by `isPort` if it is a
  truth value;
* a parameter takes its name from the getter, without `get` but with `is`;
* the class `HTTPClient` gives an instance the name `httpClient`, and its builder the name
  `HTTPClientSpec`.
-/

namespace BuilderGen.Name

/-! ## 1. Setters and getters -/

/-- The text behind a word with which it starts. -/
def behind? (word s : String) : Option String :=
  (word.toList.isPrefixOf? s.toList).map String.ofList

/-- The text without a word with which it may start. -/
def without (word s : String) : String := (behind? word s).getD s

/-- The property that a setter writes: the identifier behind `set`, with a small first letter. -/
def propertyOfSetter? (setter : String) : Option String :=
  match behind? "set" setter with
  | some rest => if isIdentifier rest then some (Text.decapitalize rest) else none
  | none => none

/-- The getter that goes with a setter. -/
def getterName (setter : String) (isTruthValue : Bool) : String :=
  (if isTruthValue then "is" else "get") ++ without "set" setter

/-- The parameter that goes with a getter. -/
def parameterName (getter : String) : String := Text.decapitalize (without "get" getter)

/-! ## 2. Classes -/

/-- The name of an instance of a class, as characters. The capitals at the front are an acronym,
whose last letter belongs to the next word if a small letter follows. -/
def instanceNameChars (name : List Char) : List Char :=
  match name.findIdx? Text.isLowercase with
  | none => Text.lowercase name
  | some 0 | some 1 => Text.decapitalizeChars name
  | some (n + 2) => Text.lowercase (name.take (n + 1)) ++ name.drop (n + 1)

/-- The name of an instance of a class. -/
def instanceName (name : String) : String := String.ofList (instanceNameChars name.toList)

/-- The name of the builder of a class; a nested class takes the name of the enclosing one to the
front. -/
def builderName (enclosing : Option String) (simple : String) : String :=
  enclosing.getD "" ++ simple ++ "Spec"

/-- The name of the file that holds an entry function. -/
def entryFileName (function : String) : String := Text.capitalize function ++ "Dsl"

end BuilderGen.Name
