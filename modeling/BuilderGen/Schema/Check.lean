import BuilderGen.Name.Derived
import BuilderGen.Path
import BuilderGen.Schema.Basic
import BuilderGen.Schema.Error

/-!
# Checks that look at one place

What has to hold of the settings and of each class by itself, in the order in which faults are
reported. Whether references resolve, and whether classes get in each other's way, is a question of
the whole hierarchy.
-/

namespace BuilderGen.Schema

/-- Fails with a fault unless a condition holds. -/
def require (condition : Bool) (fault : SchemaError) : Except SchemaError Unit :=
  if condition then .ok () else .error fault

/-! ## 1. Settings -/

namespace Settings

/-- The directory of the generated sources: one component per segment of the package. -/
def directory (s : Settings) : String :=
  ((Text.segments s.package).filter (!·.isEmpty)).foldl Path.join s.outputDir

/-- One level of indentation. -/
def indentation (s : Settings) : String := String.ofList (List.replicate s.indent ' ')

/-- The path of the file for a generated type. -/
def artifactPath (s : Settings) (typeName : String) : String :=
  Path.join s.directory (typeName ++ "." ++ s.fileExtension)

/-- Whether the package is a dotted name of identifiers. -/
def hasValidPackage (s : Settings) : Bool :=
  !s.package.isEmpty && (Text.segments s.package).all Name.isIdentifier

/-- Whether the extension can stand behind the dot of a file name. -/
def hasValidExtension (s : Settings) : Bool :=
  !s.fileExtension.isEmpty && s.fileExtension.toList.all fun c => c != '.' && c != '/' && c != '\\'

/-- The check of an entry point. -/
def checkEntry (e : EntryPoint) : Except SchemaError Unit := do
  require (Name.isIdentifier e.function) (.settings (.entryFunction e.function))
  require (!e.root.isEmpty) (.emptyName .entryClass)

/-- The check of the settings. -/
def check (s : Settings) : Except SchemaError Unit := do
  require s.hasValidPackage (.settings (.package s.package))
  require (s.indent != 0) (.settings .noIndent)
  require s.hasValidExtension (.settings (.fileExtension s.fileExtension))
  match s.entry with
  | some e => checkEntry e
  | none => .ok ()

end Settings

/-! ## 2. Classes -/

namespace HostClass

/-- The setters of a class, those for plain values first. -/
def setters (c : HostClass) : List String :=
  c.attributes.map Attribute.setter ++ c.children.map ChildSlot.setter

/-- The check of the setters of a class. -/
def checkSetters (owner : String) : List String → Except SchemaError Unit
  | [] => .ok ()
  | setter :: rest => do
    require (Name.propertyOfSetter? setter).isSome (.invalidSetter owner setter)
    checkSetters owner rest

/-- The check of the types of attributes. -/
def checkTypes (owner : String) : List Attribute → Except SchemaError Unit
  | [] => .ok ()
  | a :: rest => do
    require (!a.type.isEmpty) (.emptyName (.typeOf owner a.setter))
    checkTypes owner rest

/-- The check of an element name, if there is one. -/
def checkElement (owner : String) : Option String → Except SchemaError Unit
  | some name => require (Name.isIdentifier name) (.invalidElementName owner name)
  | none => .ok ()

/-- The check of one class, behind classes with the given qualified names. -/
def check (seen : List String) (c : HostClass) : Except SchemaError Unit := do
  require (!c.name.isEmpty) (.emptyName (.classIn c.package))
  require (!seen.contains c.qualifiedName) (.duplicateClass c.qualifiedName)
  checkElement c.qualifiedName c.element
  checkSetters c.qualifiedName c.setters
  checkTypes c.qualifiedName c.attributes

end HostClass

/-! ## 3. Manifests -/

/-- The check of classes behind classes with the given qualified names. -/
def checkClasses (seen : List String) : List HostClass → Except SchemaError Unit
  | [] => .ok ()
  | c :: rest => do
    c.check seen
    checkClasses (c.qualifiedName :: seen) rest

/-- The check of each class of a manifest by itself. -/
def Manifest.check (m : Manifest) : Except SchemaError Unit := checkClasses [] m.classes

end BuilderGen.Schema
