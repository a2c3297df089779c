import BuilderGen.Builder.Assembly
import BuilderGen.Builder.Derivation

/-!
# Generating all sources of a schema

Every element gets a builder in a file of its own, or is recorded as a failure; one does not affect
the others. A configured entry point adds a file at the end, and is the only thing that can still
fail as a whole once the hierarchy is built.
-/

namespace BuilderGen.Generation

open BuilderGen.Schema (Manifest SchemaError Settings)
open BuilderGen.Builder (Fault Shape)
open BuilderGen.Log (Event Traced)

/-! ## 1. Reports -/

/-- A generated file. -/
structure GeneratedFile where
  /-- The name of the generated type, which is the name of the file. -/
  typeName : String
  source : String
  /-- The number of functions. -/
  functions : Nat
deriving DecidableEq, Repr, Inhabited

/-- What was generated, and what could not be. -/
structure Report where
  files : List GeneratedFile
  failures : List Fault
deriving DecidableEq, Repr

namespace Report

/-- The number of functions in all files. -/
def functionCount (r : Report) : Nat := (r.files.map GeneratedFile.functions).foldr (· + ·) 0

/-- Whether every element has its builder. -/
def isComplete (r : Report) : Bool := r.failures.isEmpty

end Report

/-! ## 2. Builders -/

/-- The file that holds the builder of a shape. -/
def builderFile (s : Settings) (shape : Shape) : GeneratedFile :=
  let file := shape.file s.package
  { typeName := file.name, source := file.render s.indentation
    functions := shape.functions.length }

/-- What becomes of an element. -/
abbrev Outcome := Except Fault GeneratedFile

/-- What becomes of the builder of an element, with the events on the way. -/
def generateElement (h : Hierarchy) (s : Settings) (i : h.Id) : Outcome × List Event :=
  let derivation := Builder.derive h s.package i
  match derivation.result with
  | .ok shape =>
    let file := builderFile s shape
    (.ok file, derivation.events ++ [.builderRendered file.typeName file.source.utf8ByteSize])
  | .error fault =>
    (.error fault, derivation.events ++ [.builderFailed fault.owner fault.message])

/-- What becomes of all elements, in order. -/
def outcomes (h : Hierarchy) (s : Settings) : List (Outcome × List Event) :=
  h.elements.map (generateElement h s)

/-! ## 3. The entry point -/

/-- The file of the entry point, if one is configured. -/
def entryFiles (h : Hierarchy) (s : Settings) : Except SchemaError (List GeneratedFile) :=
  match s.entry with
  | none => .ok []
  | some e => do
    let (root, element) ← h.entryPoint e
    let file := Builder.entryFile e.function (h.classRef root)
      (Builder.builderClass h s.package element) s.package
    return [{
      typeName := file.name
      source := file.render s.indentation
      functions := file.functions.length }]

/-! ## 4. Whole runs -/

/-- The file of an outcome. -/
def file? : Outcome → Option GeneratedFile
  | .ok f => some f
  | .error _ => none

/-- The fault of an outcome. -/
def fault? : Outcome → Option Fault
  | .ok _ => none
  | .error f => some f

/-- The sources of all elements of a hierarchy. -/
def generate (h : Hierarchy) (s : Settings) : Traced SchemaError Report :=
  let all := outcomes h s
  { events := all.flatMap (·.2)
    result := (entryFiles h s).map fun entry =>
      { files := all.filterMap (file? ·.1) ++ entry, failures := all.filterMap (fault? ·.1) } }

/-- The hierarchy of a manifest, and the event of its building. -/
def index (m : Manifest) : Traced SchemaError Hierarchy := do
  let h ← .ofExcept (Hierarchy.build m)
  Traced.report (.schemaIndexed h.size h.elements.length)
  return h

/-- The sources of a manifest, without a check of the settings. -/
def generateUnchecked (m : Manifest) (s : Settings) : Traced SchemaError Report := do
  let h ← index m
  generate h s

/-- The sources of a manifest. Nothing is written. -/
def check (m : Manifest) (s : Settings) : Traced SchemaError Report := do
  Traced.ofExcept s.check
  generateUnchecked m s

end BuilderGen.Generation
