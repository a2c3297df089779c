import BuilderGen.Proofs.Generation.Accounting
import BuilderGen.Proofs.Path

/-!
# Where the files of a report are placed

The directory of the sources lies below the output directory, one component for each segment of the
package: the segments are identifiers, so none of them leads up or away. The name of a file is not
checked like that. It is one component exactly if it has no slash, and the names of classes may have
one.

* `directory_spec`: the way to the directory of the sources;
* `isComponent_fileName`, `parent?_artifactPath_iff`: the files that stand in this directory;
* `exists_class_of_slash`: only the builder of a class can stand elsewhere;
* `Placed`: where the files of a report are placed, with `placed_of_check`.
-/

namespace BuilderGen.Generation

open BuilderGen.Path (IsComponent Solid)
open BuilderGen.Schema

/-! ## 1. The directory -/

/-- An identifier is one component of a path. -/
theorem isComponent_of_isIdentifier {s : String} (h : Name.isIdentifier s = true) :
    IsComponent s := by
  have hslash : '/' ∉ s.toList := Name.not_mem_of_isIdentifier h (by decide +kernel)
  have hdot : '.' ∉ s.toList := Name.not_mem_of_isIdentifier h (by decide +kernel)
  have hne : s.toList ≠ [] := by simpa using Name.ne_empty_of_isIdentifier h
  refine Path.isComponent_of_getLast? hslash (List.getLast?_eq_some_getLast hne) fun e => hdot ?_
  rw [← e]
  exact List.getLast_mem hne

/-- The segments of the package as components. -/
theorem isComponent_segments {s : Settings} (hs : s.WellFormed) :
    ∀ segment ∈ Text.segments s.package, IsComponent segment :=
  fun segment hsegment => isComponent_of_isIdentifier (hs.segments segment hsegment)

theorem directory_eq {s : Settings} (hs : s.WellFormed) :
    s.directory = (Text.segments s.package).foldl Path.join s.outputDir := by
  have hall : (Text.segments s.package).filter (!·.isEmpty) = Text.segments s.package := by
    refine List.filter_eq_self.2 fun segment hsegment => ?_
    simpa using Name.ne_empty_of_isIdentifier (hs.segments segment hsegment)
  rw [Settings.directory, hall]

/-- **The directory of the sources is reached from the output directory, one component for each
segment of the package.** -/
theorem directory_spec {s : Settings} (hs : s.WellFormed) :
    Path.components s.directory = Path.components s.outputDir ++ Text.segments s.package ∧
      Path.isAbsolute s.directory = Path.isAbsolute s.outputDir := by
  rw [directory_eq hs]
  exact Path.components_foldl_join (isComponent_segments hs) s.outputDir

theorem solid_directory {s : Settings} (hs : s.WellFormed) : Solid s.directory := by
  rw [directory_eq hs]
  exact Path.solid_foldl_join (isComponent_segments hs) (Text.segments_ne_nil s.package) s.outputDir

/-! ## 2. One file -/

/-- What is joined to the directory for a generated type. -/
def fileName (s : Settings) (typeName : String) : String := typeName ++ "." ++ s.fileExtension

/-- What is joined is one component exactly if the name of the type has no slash. -/
theorem isComponent_fileName {s : Settings} (hs : s.WellFormed) {typeName : String} :
    IsComponent (fileName s typeName) ↔ '/' ∉ typeName.toList := by
  have hslash : '/' ∉ s.fileExtension.toList := fun hmem => (hs.extensionChars _ hmem).2.1 rfl
  have htext : (fileName s typeName).toList = typeName.toList ++ '.' :: s.fileExtension.toList := by
    simp [fileName]
  constructor
  · intro h hmem
    exact h.slash (by simp [htext, hmem])
  · intro h
    -- the extension is not empty, and its last character is no dot
    have hne : s.fileExtension.toList ≠ [] := by simpa using hs.extension
    obtain ⟨front, last, hlast⟩ := (List.eq_nil_or_concat' _).resolve_left hne
    have hdot : last ≠ '.' := (hs.extensionChars last (by simp [hlast])).1
    have hend : (fileName s typeName).toList.getLast? = some last := by
      rw [htext, hlast, ← List.cons_append, ← List.append_assoc, List.getLast?_concat]
    exact Path.isComponent_of_getLast? (by simp [htext, h, hslash]) hend hdot

/-- **A file stands in the directory of the sources under its own name exactly if this name has no
slash.** -/
theorem parent?_artifactPath_iff {s : Settings} (hs : s.WellFormed) {typeName : String} :
    (Path.parent? (s.artifactPath typeName) = some s.directory ∧
        Path.fileName? (s.artifactPath typeName) = some (fileName s typeName)) ↔
      '/' ∉ typeName.toList := by
  constructor
  · rintro ⟨-, hf⟩ hmem
    exact Path.slash_not_mem_of_fileName? hf (by simp [fileName, hmem])
  · intro h
    have hc := (isComponent_fileName hs).2 h
    exact ⟨Path.parent?_join (solid_directory hs) hc, Path.fileName?_join (solid_directory hs) hc⟩

/-- Files that stand in the directory are told apart by the components of their paths. -/
theorem typeName_inj {s : Settings} (hs : s.WellFormed) {typeName other : String}
    (ht : '/' ∉ typeName.toList) (ho : '/' ∉ other.toList)
    (e : Path.components (s.artifactPath typeName) = Path.components (s.artifactPath other)) :
    typeName = other := by
  have hsplit : Path.components s.directory ++ [fileName s typeName] =
      Path.components s.directory ++ [fileName s other] := by
    rw [← Path.components_join ((isComponent_fileName hs).2 ht),
      ← Path.components_join ((isComponent_fileName hs).2 ho)]
    exact e
  have hname : fileName s typeName = fileName s other := by simpa using hsplit
  have htext := congrArg String.toList hname
  simp only [fileName, String.toList_append] at htext
  exact String.toList_inj.1 (List.append_cancel_right (List.append_cancel_right htext))

/-! ## 3. The names of files -/

/-- The name of a builder has a slash only from the class or from the class around it. -/
theorem slash_mem_builderNameOf {c : HostClass} :
    '/' ∈ (Hierarchy.builderNameOf c).toList ↔
      '/' ∈ c.name.toList ∨ ∃ outer, c.outerName = some outer ∧ '/' ∈ outer.toList := by
  rw [Hierarchy.builderNameOf, Name.builderName]
  cases c.outerName with
  | none => simp
  | some outer => simp [or_comm]

/-- The name of an entry file has no slash. -/
theorem slash_not_mem_entryFileName {function : String} (h : Name.isIdentifier function = true) :
    '/' ∉ (Name.entryFileName function).toList := by
  have hfunction := Text.slash_not_mem_capitalize (isComponent_of_isIdentifier h).slash
  simp [Name.entryFileName, hfunction]

/-- A file is the builder of an element or the file of the entry point. -/
theorem typeName_cases {h : Hierarchy} {s : Settings} {entry : List GeneratedFile}
    (he : entryFiles h s = .ok entry) {f : GeneratedFile}
    (hf : f ∈ (shapes h s.package).map (builderFile s) ++ entry) :
    (∃ i ∈ h.elements, f.typeName = h.builderName i) ∨
      ∃ e, s.entry = some e ∧ f.typeName = Name.entryFileName e.function := by
  rcases List.mem_append.1 hf with hf | hf
  · left
    have hname := List.mem_map_of_mem (f := GeneratedFile.typeName) hf
    rw [map_typeName_shapes] at hname
    obtain ⟨i, hi, e⟩ := List.mem_map.1 hname
    exact ⟨i, (List.mem_filter.1 hi).1, e.symm⟩
  · right
    rcases entryFiles_cases he with ⟨-, rfl⟩ | ⟨e, root, element, hs, -, rfl⟩
    · cases hf
    · rw [List.mem_singleton.1 hf]
      exact ⟨e, hs, rfl⟩

/-- **Only a class with a slash in its name or around it gives a file a name with a slash.** -/
theorem exists_class_of_slash {h : Hierarchy} {s : Settings} (hs : s.WellFormed)
    {entry : List GeneratedFile} (he : entryFiles h s = .ok entry) {f : GeneratedFile}
    (hf : f ∈ (shapes h s.package).map (builderFile s) ++ entry) (hslash : '/' ∈ f.typeName.toList) :
    ∃ c ∈ h.classes, c.isElement = true ∧ f.typeName = Hierarchy.builderNameOf c ∧
      ('/' ∈ c.name.toList ∨ ∃ outer, c.outerName = some outer ∧ '/' ∈ outer.toList) := by
  rcases typeName_cases he hf with ⟨i, hi, e⟩ | ⟨e, hentry, hname⟩
  · refine ⟨h.get i, List.get_mem _ _, Hierarchy.mem_elements.1 hi, e, ?_⟩
    rw [e] at hslash
    exact slash_mem_builderNameOf.1 hslash
  · rw [hname] at hslash
    exact absurd hslash (slash_not_mem_entryFileName (hs.entry e hentry).1)

/-! ## 4. All files -/

/-- **Where the files of a report are placed.** The directory of the sources is reached from the
output directory, one component for each segment of the package. A file stands in it under its own
name exactly if this name has no slash, and such files stand in different places. All other files
are builders of classes with a slash in their names. -/
structure Placed (m : Manifest) (s : Settings) (r : Report) : Prop where
  base : Path.isAbsolute s.directory = Path.isAbsolute s.outputDir
  directory : Path.components s.directory = Path.components s.outputDir ++ Text.segments s.package
  inside : ∀ f ∈ r.files, (Path.parent? (s.artifactPath f.typeName) = some s.directory ∧
    Path.fileName? (s.artifactPath f.typeName) = some (fileName s f.typeName)) ↔
      '/' ∉ f.typeName.toList
  apart : ∀ f ∈ r.files, ∀ g ∈ r.files, '/' ∉ f.typeName.toList → '/' ∉ g.typeName.toList →
    Path.components (s.artifactPath f.typeName) = Path.components (s.artifactPath g.typeName) →
      f.typeName = g.typeName
  outside : ∀ f ∈ r.files, '/' ∈ f.typeName.toList → ∃ c ∈ m.classes, c.isElement = true ∧
    f.typeName = Hierarchy.builderNameOf c ∧
      ('/' ∈ c.name.toList ∨ ∃ outer, c.outerName = some outer ∧ '/' ∈ outer.toList)

/-- **Every file of a report stands in the directory of the sources, unless its class has a slash in
its name.** -/
theorem placed_of_check {m : Manifest} {s : Settings} {r : Report}
    (hc : (check m s).result = .ok r) : Placed m s r := by
  obtain ⟨hs, h, entry, hb, he, rfl⟩ := check_ok.1 hc
  have hw := Settings.check_ok.1 hs
  exact {
    base := (directory_spec hw).2
    directory := (directory_spec hw).1
    inside := fun f _ => parent?_artifactPath_iff hw
    apart := fun f _ g _ hf hg => typeName_inj hw hf hg
    outside := fun f hf hslash => by
      rw [← Hierarchy.classes_of_build hb]
      exact exists_class_of_slash hw he hf hslash }

/-- A door, and a gate whose name leads out of the directory. -/
def shed : Manifest := ⟨{ Settings.default with package := "d", outputDir := "out" }, [
  { HostClass.plain "p" "Door" with element := some "door" },
  { HostClass.plain "p" "../Gate" with element := some "gate" }]⟩

/-- The hierarchy of these classes. -/
def shedHierarchy : Hierarchy := .ofLineages shed.classes [[0], [1]]

/-- The report for these classes. -/
def shedReport : Report :=
  ⟨(shapes shedHierarchy "d").map (builderFile shed.settings), faults shedHierarchy "d"⟩

theorem check_shed : (check shed shed.settings).result = .ok shedReport := by
  have hs : shed.settings.check = .ok () := by decide +kernel
  have hb : Hierarchy.build shed = .ok shedHierarchy :=
    Hierarchy.build_of_lineages (by decide) (by decide) (by decide) rfl
  exact check_ok.2 ⟨hs, shedHierarchy, [], hb, rfl, by rw [List.append_nil]; rfl⟩

theorem typeNames_shed :
    shedReport.files.map GeneratedFile.typeName = ["DoorSpec", "../GateSpec"] := by
  decide +kernel

/-- The gate stands in another directory. -/
theorem artifact_in_shed :
    (check shed shed.settings).result = .ok shedReport ∧
    shedReport.files.map GeneratedFile.typeName = ["DoorSpec", "../GateSpec"] ∧
    shed.settings.directory = "out/d" ∧
    shed.settings.artifactPath "../GateSpec" = "out/d/../GateSpec.kt" ∧
    Path.parent? (shed.settings.artifactPath "../GateSpec") = some "out/d/.." :=
  ⟨check_shed, typeNames_shed, by decide +kernel, by decide +kernel, by decide +kernel⟩

theorem placed_shed :
    (check shed shed.settings).result = .ok shedReport ∧ Placed shed shed.settings shedReport :=
  ⟨check_shed, placed_of_check check_shed⟩

end BuilderGen.Generation
