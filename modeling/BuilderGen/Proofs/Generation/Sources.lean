import BuilderGen.Proofs.Generation.Report
import BuilderGen.Proofs.Hierarchy.Names
import BuilderGen.Proofs.Source.Resolution

/-!
# The sources behind a report

The files of a report are written from sources: the builders of the shapes and the entry function.
In such a source no property has a default, so its name table knows every reference that is written.

* `sources`, `sources_of_entryFiles`: the sources, and the files that are written from them;
* `source_cases`: where a source comes from;
* `references_of_check`: in each file of a report each reference is read as the class it refers to.

A tray with two cups of one simple name shows it.
-/

namespace BuilderGen.Generation

open BuilderGen.Builder (Shape)
open BuilderGen.Result
open BuilderGen.Schema
open BuilderGen.Source

/-! ## 1. Sources -/

/-- The sources of a hierarchy, in the order of the report. -/
def sources (h : Hierarchy) (s : Settings) : Except SchemaError (List File) :=
  (entrySources h s).map fun entry =>
    (shapes h s.package).map (fun shape => shape.file s.package) ++ entry

/-- The name of a source, and its text. -/
def written (s : Settings) (f : File) : String × String := (f.name, f.render s.indentation)

/-- The name and the text of a file. -/
def contents (g : GeneratedFile) : String × String := (g.typeName, g.source)

/-- The files of a hierarchy are its sources as they are written. -/
theorem sources_of_entryFiles {h : Hierarchy} {s : Settings} {entry : List GeneratedFile}
    (he : entryFiles h s = .ok entry) :
    ∃ files, sources h s = .ok files ∧
      ((shapes h s.package).map (builderFile s) ++ entry).map contents =
        files.map (written s) := by
  obtain ⟨files, hf, rfl⟩ := entryFiles_ok.1 he
  refine ⟨_, map_ok.2 ⟨files, hf, rfl⟩, ?_⟩
  rw [List.map_append, List.map_append, List.map_map, List.map_map, List.map_map]
  rfl

/-- The files of a report are its sources as they are written. -/
theorem files_of_sources {m : Manifest} {s : Settings} {r : Report}
    (hr : (check m s).result = .ok r) :
    ∃ h files, Hierarchy.build m = .ok h ∧ sources h s = .ok files ∧
      r.files.map contents = files.map (written s) := by
  obtain ⟨-, h, entry, hb, he, rfl⟩ := check_ok.1 hr
  obtain ⟨files, hf, hw⟩ := sources_of_entryFiles he
  exact ⟨h, files, hb, hf, hw⟩

/-- A source is that of a builder or that of the entry point. -/
theorem mem_sources {h : Hierarchy} {s : Settings} {files : List File}
    (hf : sources h s = .ok files) {f : File} :
    f ∈ files ↔ (∃ shape ∈ shapes h s.package, shape.file s.package = f) ∨
      ∃ entry, entrySources h s = .ok entry ∧ f ∈ entry := by
  obtain ⟨entry, he, rfl⟩ := map_ok.1 hf
  rw [List.mem_append, List.mem_map]
  refine or_congr_right ⟨fun hmem => ⟨entry, he, hmem⟩, fun ⟨entry', he', hmem⟩ => ?_⟩
  rw [he] at he'
  cases he'
  exact hmem

/-- Behind a source stands the shape of an element, or the entry point. -/
theorem source_cases {h : Hierarchy} {s : Settings} {files : List File}
    (hf : sources h s = .ok files) {f : File} (hmem : f ∈ files) :
    (∃ i shape, (Builder.derive h s.package i).result = .ok shape ∧ f = shape.file s.package) ∨
      ∃ e root element, f = entrySource h s e root element := by
  rcases (mem_sources hf).1 hmem with ⟨shape, hs, rfl⟩ | ⟨entry, he, hmem⟩
  · obtain ⟨i, -, hd⟩ := mem_shapes.1 hs
    exact .inl ⟨i, shape, hd, rfl⟩
  · rcases entrySources_ok.1 he with ⟨-, rfl⟩ | ⟨e, root, element, -, -, rfl⟩
    · cases hmem
    · exact .inr ⟨e, root, element, List.mem_singleton.1 hmem⟩

/-- No property of a class in a source has a default. -/
theorem plain_of_mem_sources {h : Hierarchy} {s : Settings} {files : List File}
    (hf : sources h s = .ok files) {f : File} (hmem : f ∈ files) : ∀ d ∈ f.classes, d.Plain := by
  intro d hd
  rcases source_cases hf hmem with ⟨i, shape, -, rfl⟩ | ⟨e, root, element, rfl⟩
  · intro p hp
    obtain rfl := List.mem_singleton.1 hd
    obtain rfl := List.mem_singleton.1 hp
    rfl
  · cases hd

/-! ## 2. References -/

/-- **In each file of a report each reference is read as the class that it refers to**, if its
references have packages and no names with dots, and no two imports end in one simple name. The text
of the file shows exactly its references, and the word for each of them has this reading. -/
theorem references_of_check {m : Manifest} {s : Settings} {r : Report}
    (hr : (check m s).result = .ok r) :
    ∃ h files, Hierarchy.build m = .ok h ∧ sources h s = .ok files ∧
      r.files.map contents = files.map (written s) ∧
      ∀ f ∈ files, (∀ c ∈ f.refs, c.WellNamed) →
        Code.refs (f.layout s.indentation) = f.refs ∧
        f.Shows s.indentation (NameTable.ofFile f).imports
          (fun c word => word = f.word c ∧ f.denotes word = c.canonical)
          (f.render s.indentation) ∧
        ((NameTable.ofFile f).imports.map Text.lastSegment).Nodup := by
  obtain ⟨h, files, hb, hfiles, hw⟩ := files_of_sources hr
  refine ⟨h, files, hb, hfiles, hw, fun f hmem hf => ?_⟩
  have hrefs := File.refs_layout s.indentation (plain_of_mem_sources hfiles hmem)
  refine ⟨hrefs, File.shows_render fun c hc => ⟨rfl, ?_⟩, nodup_lastSegment_imports hf⟩
  rw [hrefs] at hc
  exact denotes_word hf hc

/-! ## 3. A tray -/

/-- A tray for two cups, one of which is nested in another class. -/
def tearoom : Manifest := ⟨Settings.default, [
  { HostClass.plain "p" "Tray" with
    element := some "tray", children := [⟨"setCup", "p.Cup"⟩, ⟨"setTeacup", "Tea.Cup"⟩] },
  { HostClass.plain "p" "Cup" with element := some "cup" },
  { HostClass.plain "q" "Cup" with element := some "teacup", enclosing := some "Tea" }]⟩

/-- The hierarchy of these classes. -/
def tearoomHierarchy : Hierarchy := .ofLineages tearoom.classes [[0], [1], [2]]

/-- The shape of the builder of the tray. -/
def trayShape : Shape :=
  ⟨.topLevel tearoom.settings.package "TraySpec", ⟨"p", ["Tray"]⟩, "tray", [
    ⟨"setCup", "cup", false, "p.Cup", [⟨⟨"p", ["Cup"]⟩, "cup", "cup", [], none⟩]⟩,
    ⟨"setTeacup", "teacup", false, "q.Tea.Cup",
      [⟨⟨"q", ["Tea", "Cup"]⟩, "teacup", "cup", [], none⟩]⟩]⟩

/-- The source of this builder. -/
def trayFile : File := trayShape.file tearoom.settings.package

theorem build_tearoom : Hierarchy.build tearoom = .ok tearoomHierarchy :=
  Hierarchy.build_of_lineages (by decide) (by decide) (by decide) rfl

theorem tray_mem_shapes : trayShape ∈ shapes tearoomHierarchy tearoom.settings.package :=
  mem_shapes.2 ⟨(0 : Fin 3), Hierarchy.mem_elements.2 rfl, by decide +kernel⟩

/-- The tearoom passes. -/
theorem exists_check_tearoom : ∃ r, (check tearoom tearoom.settings).result = .ok r := by
  have hs : tearoom.settings.check = .ok () := by decide
  exact ⟨_, check_ok.2 ⟨hs, tearoomHierarchy, [], build_tearoom, rfl, rfl⟩⟩

/-- Both cups are written with their full names, and the tray is imported. -/
theorem references_on_tray :
    (∃ r, (check tearoom tearoom.settings).result = .ok r) ∧
    (∀ c ∈ trayFile.refs, c.WellNamed) ∧
    trayFile.word ⟨"p", ["Tray"]⟩ = "Tray" ∧ (NameTable.ofFile trayFile).imports = ["p.Tray"] ∧
    trayFile.word ⟨"p", ["Cup"]⟩ = "p.Cup" ∧ trayFile.word ⟨"q", ["Tea", "Cup"]⟩ = "q.Tea.Cup" ∧
    trayFile.Shows tearoom.settings.indentation ["p.Tray"]
      (fun c word => word = trayFile.word c ∧ trayFile.denotes word = c.canonical)
      (trayFile.render tearoom.settings.indentation) := by
  obtain ⟨r, hr⟩ := exists_check_tearoom
  have hwell : ∀ c ∈ trayFile.refs, c.WellNamed := by decide
  have himports : (NameTable.ofFile trayFile).imports = ["p.Tray"] := by decide +kernel
  obtain ⟨h, files, hb, hfiles, -, hall⟩ := references_of_check hr
  rw [build_tearoom] at hb
  cases hb
  have hmem : trayFile ∈ files := (mem_sources hfiles).2 (.inl ⟨_, tray_mem_shapes, rfl⟩)
  obtain ⟨-, hshows, -⟩ := hall trayFile hmem hwell
  rw [himports] at hshows
  exact ⟨⟨r, hr⟩, hwell, by decide +kernel, himports, by decide +kernel, by decide +kernel, hshows⟩

end BuilderGen.Generation
