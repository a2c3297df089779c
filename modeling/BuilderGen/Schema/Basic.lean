import BuilderGen.Data.Value
import BuilderGen.Text.Segments

/-!
# The schema of a configuration framework

A schema describes the classes of the host framework from which a configuration is built: how they
extend one another, which of their setters take plain values and which take nested elements, and
what a freshly created instance holds. The same file carries the settings of the generator.
-/

namespace BuilderGen.Schema

/-! ## 1. Classes -/

/-- A setter for a plain value. -/
structure Attribute where
  setter : String
  /-- The declared type of the value. -/
  type : String
  /-- Whether the type is an enumeration. -/
  isEnum : Bool
  required : Bool
  /-- Whether the value is the text between the tags of the element. -/
  textContent : Bool
deriving DecidableEq, Inhabited

/-- A setter for nested elements. -/
structure ChildSlot where
  setter : String
  /-- The declared type of the parameter: an element type, or a collection of one. -/
  parameter : String
deriving DecidableEq, Inhabited

/-- What was observed on a freshly created instance. Both tables are in the order of their keys. -/
structure Sample where
  getters : List (String × Data.Value)
  fields : List (String × Data.Value)
deriving DecidableEq, Inhabited

/-- The sample of a class on which nothing was observed. -/
def Sample.none : Sample := ⟨[], []⟩

/-- A class of the host framework. -/
structure HostClass where
  /-- The simple name. -/
  name : String
  package : String
  /-- The dotted names of the classes around a nested class. -/
  enclosing : Option String
  /-- References to the direct supertypes. -/
  supertypes : List String
  isAbstract : Bool
  /-- Whether there is a public constructor without arguments. -/
  defaultConstructible : Bool
  /-- The element name of a class that may stand in a configuration. -/
  element : Option String
  attributes : List Attribute
  children : List ChildSlot
  sample : Sample
deriving DecidableEq, Inhabited

namespace HostClass

/-- A concrete class without any marks. -/
def plain (package name : String) : HostClass :=
  { name, package, enclosing := none, supertypes := [], isAbstract := false,
    defaultConstructible := true, element := none, attributes := [], children := [],
    sample := .none }

/-- The name inside the package. -/
def nestedName (c : HostClass) : String :=
  match c.enclosing with
  | some outer => outer ++ "." ++ c.name
  | none => c.name

/-- The name with its package. -/
def qualifiedName (c : HostClass) : String :=
  if c.package.isEmpty then c.nestedName else c.package ++ "." ++ c.nestedName

/-- The simple name of the class directly around a nested class. -/
def outerName (c : HostClass) : Option String := c.enclosing.map Text.lastSegment

/-- Whether the class may stand in a configuration. -/
def isElement (c : HostClass) : Bool := c.element.isSome

/-- Whether a source can create an instance. -/
def isCreatable (c : HostClass) : Bool := !c.isAbstract && c.defaultConstructible

end HostClass

/-! ## 2. Settings -/

/-- A top-level function that creates the root of a configuration. -/
structure EntryPoint where
  function : String
  /-- A reference to the class of the root. -/
  root : String
deriving DecidableEq, Inhabited

/-- The settings of a run. -/
structure Settings where
  /-- The package of the generated sources. -/
  package : String
  /-- The directory under which the sources are written. -/
  outputDir : String
  /-- Spaces per level of indentation. -/
  indent : Nat
  /-- The extension of the written files, without the dot. -/
  fileExtension : String
  entry : Option EntryPoint
deriving DecidableEq

/-- The settings of a schema that sets nothing. -/
def Settings.default : Settings :=
  { package := "com.predic8.membrane.dsl", outputDir := "build/generated", indent := 4,
    fileExtension := "kt", entry := none }

instance : Inhabited Settings := ⟨Settings.default⟩

/-! ## 3. Manifests -/

/-- A schema file: settings and classes, in the order of the file. -/
structure Manifest where
  settings : Settings
  classes : List HostClass
deriving DecidableEq, Inhabited

/-- The manifest of an empty file. -/
def Manifest.empty : Manifest := ⟨Settings.default, []⟩

/-- The number of classes that may stand in a configuration. -/
def Manifest.elementCount (m : Manifest) : Nat := m.classes.countP HostClass.isElement

end BuilderGen.Schema
