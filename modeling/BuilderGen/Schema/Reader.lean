import BuilderGen.Json.Reader
import BuilderGen.Schema.Basic
import BuilderGen.Schema.Error
import BuilderGen.Schema.Record

/-!
# Reading a schema

The records of a schema and their fields, with the names and defaults that they have in a file.
-/

namespace BuilderGen.Schema

open BuilderGen.Data (Node)

/-- The fields of an attribute, in order. -/
def attributeFields : List String := ["setter", "type", "enum", "required", "text_content"]

/-- The attribute that a document describes. -/
def Attribute.ofNode? (form : RecordForm) (node : Node) : Option Attribute := do
  let f ← fields? form attributeFields node
  return {
    setter := ← f.required "setter" text?
    type := ← f.required "type" text?
    isEnum := ← f.withDefault "enum" false bool?
    required := ← f.withDefault "required" false bool?
    textContent := ← f.withDefault "text_content" false bool? }

/-- The fields of a child slot, in order. -/
def childFields : List String := ["setter", "parameter"]

/-- The child slot that a document describes. -/
def ChildSlot.ofNode? (form : RecordForm) (node : Node) : Option ChildSlot := do
  let f ← fields? form childFields node
  return {
    setter := ← f.required "setter" text?
    parameter := ← f.required "parameter" text? }

/-- The fields of a sample, in order. -/
def sampleFields : List String := ["getters", "fields"]

/-- The sample that a document describes. -/
def Sample.ofNode? (form : RecordForm) (node : Node) : Option Sample := do
  let f ← fields? form sampleFields node
  return {
    getters := ← f.withDefault "getters" [] samples?
    fields := ← f.withDefault "fields" [] samples? }

/-- The fields of a class, in order. -/
def classFields : List String := [
  "name", "package", "enclosing", "supertypes", "abstract", "default_constructible", "element",
  "attribute", "child", "sample"
]

/-- The class that a document describes. -/
def HostClass.ofNode? (form : RecordForm) (node : Node) : Option HostClass := do
  let f ← fields? form classFields node
  return {
    name := ← f.required "name" text?
    package := ← f.withDefault "package" "" text?
    enclosing := ← f.withDefault "enclosing" none (nullable? text?)
    supertypes := ← f.withDefault "supertypes" [] (list? text?)
    isAbstract := ← f.withDefault "abstract" false bool?
    defaultConstructible := ← f.withDefault "default_constructible" true bool?
    element := ← f.withDefault "element" none (nullable? text?)
    attributes := ← f.withDefault "attribute" [] (list? (Attribute.ofNode? form))
    children := ← f.withDefault "child" [] (list? (ChildSlot.ofNode? form))
    sample := ← f.withDefault "sample" .none (Sample.ofNode? form) }

/-- The fields of an entry point, in order. -/
def entryFields : List String := ["function", "class"]

/-- The entry point that a document describes. -/
def EntryPoint.ofNode? (form : RecordForm) (node : Node) : Option EntryPoint := do
  let f ← fields? form entryFields node
  return {
    function := ← f.required "function" text?
    root := ← f.required "class" text? }

/-- The fields of the settings, in order. -/
def settingsFields : List String := ["package", "output_dir", "indent", "file_extension", "entry"]

/-- The settings that a document describes. -/
def Settings.ofNode? (form : RecordForm) (node : Node) : Option Settings := do
  let f ← fields? form settingsFields node
  let default := Settings.default
  return {
    package := ← f.withDefault "package" default.package text?
    outputDir := ← f.withDefault "output_dir" default.outputDir text?
    indent := ← f.withDefault "indent" default.indent nat?
    fileExtension := ← f.withDefault "file_extension" default.fileExtension text?
    entry := ← f.withDefault "entry" default.entry (nullable? (EntryPoint.ofNode? form)) }

/-- The fields of a manifest, in order. -/
def manifestFields : List String := ["generator", "class"]

/-- The manifest that a document describes. -/
def Manifest.ofNode? (form : RecordForm) (node : Node) : Option Manifest := do
  let f ← fields? form manifestFields node
  return {
    settings := ← f.withDefault "generator" Settings.default (Settings.ofNode? form)
    classes := ← f.withDefault "class" [] (list? (HostClass.ofNode? form)) }

/-- The manifest that a JSON text describes. -/
def Manifest.ofJson (text : String) : Except SchemaError Manifest :=
  match (Json.read? text).bind (Manifest.ofNode? .json) with
  | some m => .ok m
  | none => .error (.malformed .json)

end BuilderGen.Schema
