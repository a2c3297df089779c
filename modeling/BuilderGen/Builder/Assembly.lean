import BuilderGen.Builder.Shape
import BuilderGen.Name.Derived
import BuilderGen.Source.Printer

/-!
# From shapes to source files

A builder is a class around an instance of a host class. For each slot and each class that may stand
in it, it has a function that creates an instance, sets its attributes, has its nested elements
configured, and attaches it. An entry function does the same for the root of a configuration, and
returns it.
-/

namespace BuilderGen.Builder

open BuilderGen.Source (ClassDecl ClassRef Code File Function Parameter Statement)

/-! ## 1. Functions -/

/-- The parameter that takes the configuration of a nested element; it may be left out. -/
def initParameter (builder : ClassRef) : Parameter :=
  ⟨initName, .receiverLambda builder, some [.text "\x7b\x7d"]⟩

/-- The statements that create an instance and set its attributes. -/
def creation (t : Target) : List Statement :=
  let create : Code := [.text ("val " ++ t.instanceName ++ " = "), .ref t.host, .text "()"]
  if t.attributes.isEmpty then [.line create]
  else
    .openBlock (create ++ [.text ".apply"])
      :: t.attributes.map (fun a => .line [.text (a.setter ++ "(" ++ a.parameter ++ ")")])
      ++ [.closeBlock]

/-- The statement that has the nested elements of an instance configured. -/
def configuration (builder : ClassRef) (name : String) : Statement :=
  .line [.ref builder, .text ("(" ++ name ++ ")." ++ initName ++ "()")]

/-- The statement that attaches a new instance. -/
def attachment (property : String) (r : Relationship) (t : Target) : Statement :=
  let slot := property ++ "." ++ r.accessor
  .line [.text <|
    if r.repeatable then slot ++ ".add(" ++ t.instanceName ++ ")"
    else slot ++ " = " ++ t.instanceName]

/-- The function for a class in a slot. -/
def childFunction (property : String) (r : Relationship) (t : Target) : Function :=
  { name := t.function
    parameters := t.attributes.map AttributeShape.declaration ++ (t.nested.map initParameter).toList
    returns := none
    body := creation t ++ (t.nested.map (configuration · t.instanceName)).toList
      ++ [attachment property r t] }

/-! ## 2. Builders -/

/-- The property that the constructor of a builder declares. -/
def Shape.wrapped (s : Shape) : Parameter := ⟨s.property, .plain s.host false, none⟩

/-- The functions of a builder: one for each class in each slot. -/
def Shape.functions (s : Shape) : List Function :=
  s.relationships.flatMap fun r => r.targets.map (childFunction s.property r)

/-- The class that a builder is. -/
def Shape.declaration (s : Shape) : ClassDecl := ⟨s.builder.simpleName, [s.wrapped], s.functions⟩

/-- The comment on top of every generated file. -/
def header : String := "Generated by proxydsl. Do not edit."

/-- The file that holds a builder. -/
def Shape.file (s : Shape) (package : String) : File :=
  { package, name := s.builder.simpleName, comment := some header, classes := [s.declaration]
    functions := [] }

/-! ## 3. Entry functions -/

/-- The variable for the root of a configuration, as it is written. -/
def rootName (root : ClassRef) : String :=
  let name := Name.instanceName root.simpleName
  Name.escape (if name == initName then "root" ++ Text.capitalize name else name)

/-- The function that creates the root of a configuration. -/
def entryFunction (function : String) (root builder : ClassRef) : Function :=
  let name := rootName root
  { name := Name.escape function
    parameters := [initParameter builder]
    returns := some (.plain root false)
    body := [
      .line [.text ("val " ++ name ++ " = "), .ref root, .text "()"],
      configuration builder name,
      .line [.text ("return " ++ name)]] }

/-- The file that holds an entry function. -/
def entryFile (function : String) (root builder : ClassRef) (package : String) : File :=
  { package, name := Name.entryFileName function, comment := some header, classes := []
    functions := [entryFunction function root builder] }

end BuilderGen.Builder
