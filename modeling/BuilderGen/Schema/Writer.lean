import BuilderGen.Json.Printer
import BuilderGen.Schema.Basic

/-!
# Writing a schema

The document of a manifest holds every field of every record, defaults included, under the names
that reading expects.
-/

namespace BuilderGen.Schema

open BuilderGen.Data (Node Value)

/-- A text that may be missing. -/
def optionalText : Option String → Node
  | some s => .text s
  | none => .null

/-- The document of an attribute. -/
def Attribute.toNode (a : Attribute) : Node :=
  .ofEntries [("setter", .text a.setter), ("type", .text a.type), ("enum", .bool a.isEnum),
    ("required", .bool a.required), ("text_content", .bool a.textContent)]

/-- The document of a child slot. -/
def ChildSlot.toNode (c : ChildSlot) : Node :=
  .ofEntries [("setter", .text c.setter), ("parameter", .text c.parameter)]

/-- The document of a table of sampled values. -/
def samplesNode (entries : List (String × Value)) : Node := .table (Value.toEntries entries)

/-- The document of a sample. -/
def Sample.toNode (s : Sample) : Node :=
  .ofEntries [("getters", samplesNode s.getters), ("fields", samplesNode s.fields)]

/-- The document of a class. -/
def HostClass.toNode (c : HostClass) : Node :=
  .ofEntries [("name", .text c.name), ("package", .text c.package),
    ("enclosing", optionalText c.enclosing), ("supertypes", .list (c.supertypes.map .text)),
    ("abstract", .bool c.isAbstract), ("default_constructible", .bool c.defaultConstructible),
    ("element", optionalText c.element), ("attribute", .list (c.attributes.map Attribute.toNode)),
    ("child", .list (c.children.map ChildSlot.toNode)), ("sample", c.sample.toNode)]

/-- The document of an entry point. -/
def EntryPoint.toNode (e : EntryPoint) : Node :=
  .ofEntries [("function", .text e.function), ("class", .text e.root)]

/-- The document of the settings. -/
def Settings.toNode (s : Settings) : Node :=
  .ofEntries [("package", .text s.package), ("output_dir", .text s.outputDir),
    ("indent", .int s.indent), ("file_extension", .text s.fileExtension),
    ("entry", match s.entry with
      | some e => e.toNode
      | none => .null)]

/-- The document of a manifest. -/
def Manifest.toNode (m : Manifest) : Node :=
  .ofEntries [("generator", m.settings.toNode), ("class", .list (m.classes.map HostClass.toNode))]

/-- The JSON text of a manifest. -/
def Manifest.toJson (m : Manifest) : String := Json.text m.toNode

end BuilderGen.Schema
