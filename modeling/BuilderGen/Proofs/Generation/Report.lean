import BuilderGen.Generation
import BuilderGen.Proofs.Hierarchy.Acceptance

/-!
# What a report holds

A check of the settings, the hierarchy and the entry point can fail as a whole. Otherwise the report
holds the files of the shapes that can be derived, in the order of the elements, then the file of
the entry point, and the faults of the other elements.

* `shapes`, `faults`: what becomes of the elements;
* `entrySources_ok`, `entryFiles_ok`, `entryFiles_cases`: what becomes of the entry point;
* `check_ok`: when there is a report, and what it is.
-/

namespace BuilderGen.Generation

open BuilderGen.Builder (Fault Shape)
open BuilderGen.Log (Traced)
open BuilderGen.Result
open BuilderGen.Schema
open BuilderGen.Source (File)

/-! ## 1. Elements -/

/-- The shapes that can be derived, in the order of the elements. -/
def shapes (h : Hierarchy) (package : String) : List Shape :=
  h.elements.filterMap fun i => (Builder.derive h package i).result.toOption

/-- A shape is that of an element. -/
theorem mem_shapes {h : Hierarchy} {package : String} {shape : Shape} :
    shape ∈ shapes h package ↔
      ∃ i ∈ h.elements, (Builder.derive h package i).result = .ok shape := by
  rw [shapes, List.mem_filterMap]
  refine exists_congr fun i => and_congr_right fun _ => ?_
  cases (Builder.derive h package i).result <;> simp [Except.toOption]

/-- The fault of a derivation. -/
def faultOf (h : Hierarchy) (package : String) (i : h.Id) : Option Fault :=
  match (Builder.derive h package i).result with
  | .ok _ => none
  | .error fault => some fault

/-- The faults of the other elements, in the same order. -/
def faults (h : Hierarchy) (package : String) : List Fault :=
  h.elements.filterMap (faultOf h package)

theorem file?_generateElement (h : Hierarchy) (s : Settings) (i : h.Id) :
    file? (generateElement h s i).1 =
      (Builder.derive h s.package i).result.toOption.map (builderFile s) := by
  rw [generateElement]
  cases (Builder.derive h s.package i).result <;> rfl

theorem fault?_generateElement (h : Hierarchy) (s : Settings) (i : h.Id) :
    fault? (generateElement h s i).1 = faultOf h s.package i := by
  rw [generateElement, faultOf]
  cases (Builder.derive h s.package i).result <;> rfl

/-! ## 2. The entry point -/

/-- The source of the entry file, with the classes that the entry point means. -/
def entrySource (h : Hierarchy) (s : Settings) (e : EntryPoint) (root element : h.Id) : File :=
  Builder.entryFile e.function (h.classRef root) (Builder.builderClass h s.package element)
    s.package

/-- The source of the entry point, if one is configured. -/
def entrySources (h : Hierarchy) (s : Settings) : Except SchemaError (List File) :=
  match s.entry with
  | none => .ok []
  | some e => (h.entryPoint e).map fun found => [entrySource h s e found.1 found.2]

/-- There is a source exactly if an entry point is configured, and it has to mean something. -/
theorem entrySources_ok {h : Hierarchy} {s : Settings} {files : List File} :
    entrySources h s = .ok files ↔
      s.entry = none ∧ files = [] ∨
      ∃ e root element, s.entry = some e ∧ h.entryPoint e = .ok (root, element) ∧
        files = [entrySource h s e root element] := by
  rw [entrySources]
  cases s.entry with
  | none =>
    constructor
    · intro hf
      cases hf
      exact .inl ⟨rfl, rfl⟩
    · intro hf
      rcases hf with ⟨-, rfl⟩ | ⟨e, root, element, hs, -⟩
      · rfl
      · cases hs
  | some e =>
    dsimp only
    rw [map_ok]
    constructor
    · intro ⟨found, hp, hf⟩
      exact .inr ⟨e, found.1, found.2, rfl, hp, hf.symm⟩
    · intro hf
      rcases hf with ⟨hs, -⟩ | ⟨e', root, element, hs, hp, rfl⟩
      · cases hs
      · cases hs
        exact ⟨(root, element), hp, rfl⟩

/-- The file that is written from the source of an entry point. -/
def entryFileOf (s : Settings) (f : File) : GeneratedFile :=
  { typeName := f.name, source := f.render s.indentation, functions := f.functions.length }

/-- The file of the entry point is written from its source. -/
theorem entryFiles_eq (h : Hierarchy) (s : Settings) :
    entryFiles h s = (entrySources h s).map (List.map (entryFileOf s)) := by
  rw [entryFiles, entrySources]
  cases s.entry with
  | none => rfl
  | some e =>
    dsimp only
    cases h.entryPoint e <;> rfl

theorem entryFiles_ok {h : Hierarchy} {s : Settings} {entry : List GeneratedFile} :
    entryFiles h s = .ok entry ↔
      ∃ files, entrySources h s = .ok files ∧ entry = files.map (entryFileOf s) := by
  rw [entryFiles_eq, map_ok]
  exact exists_congr fun files => and_congr_right fun _ => eq_comm

/-- The entry files are the file of the entry point, or none. -/
theorem entryFiles_cases {h : Hierarchy} {s : Settings} {entry : List GeneratedFile}
    (he : entryFiles h s = .ok entry) :
    s.entry = none ∧ entry = [] ∨ ∃ e root element, s.entry = some e ∧
      h.entryPoint e = .ok (root, element) ∧
      entry = [entryFileOf s (entrySource h s e root element)] := by
  obtain ⟨files, hf, rfl⟩ := entryFiles_ok.1 he
  rcases entrySources_ok.1 hf with ⟨hs, rfl⟩ | ⟨e, root, element, hs, hp, rfl⟩
  · exact .inl ⟨hs, rfl⟩
  · exact .inr ⟨e, root, element, hs, hp, rfl⟩

/-! ## 3. Whole runs -/

/-- A hierarchy is reported with its entry file, if there is one. -/
theorem result_generate (h : Hierarchy) (s : Settings) :
    (generate h s).result = (entryFiles h s).map fun entry =>
      ⟨(shapes h s.package).map (builderFile s) ++ entry, faults h s.package⟩ := by
  have hfiles : (outcomes h s).filterMap (file? ·.1) =
      (shapes h s.package).map (builderFile s) := by
    rw [outcomes, shapes, List.filterMap_map, List.map_filterMap]
    exact List.filterMap_congr fun i _ => file?_generateElement h s i
  have hfaults : (outcomes h s).filterMap (fault? ·.1) = faults h s.package := by
    rw [outcomes, faults, List.filterMap_map]
    exact List.filterMap_congr fun i _ => fault?_generateElement h s i
  rw [← hfiles, ← hfaults]
  rfl

theorem result_generate_of_entryPoint {h : Hierarchy} {s : Settings} {e : EntryPoint}
    {root element : h.Id} (hs : s.entry = some e) (hp : h.entryPoint e = .ok (root, element)) :
    (generate h s).result = .ok ⟨(shapes h s.package).map (builderFile s) ++
      [entryFileOf s (entrySource h s e root element)], faults h s.package⟩ := by
  have hf := entrySources_ok.2 (.inr ⟨e, root, element, hs, hp, rfl⟩)
  have he := entryFiles_ok.2 ⟨_, hf, rfl⟩
  exact (result_generate h s).trans (map_ok.2 ⟨_, he, rfl⟩)

theorem result_index (m : Manifest) : (index m).result = Hierarchy.build m := by
  rw [index, Traced.result_bind]
  show (Hierarchy.build m).bind _ = _
  cases Hierarchy.build m <;> rfl

/-- **There is a report if the settings and the classes pass and the entry point has a file.** -/
theorem check_ok {m : Manifest} {s : Settings} {r : Report} :
    (check m s).result = .ok r ↔ s.check = .ok () ∧
      ∃ h entry, Hierarchy.build m = .ok h ∧ entryFiles h s = .ok entry ∧
        r = ⟨(shapes h s.package).map (builderFile s) ++ entry, faults h s.package⟩ := by
  have hc : (check m s).result =
      s.check.bind fun _ => (Hierarchy.build m).bind fun h => (generate h s).result := by
    rw [check, Traced.result_bind]
    simp only [generateUnchecked, Traced.result_bind, result_index]
    rfl
  simp only [hc, bind_ok, result_generate, map_ok]
  constructor
  · intro ⟨_, hs, h, hb, entry, he, hr⟩
    exact ⟨hs, h, entry, hb, he, hr.symm⟩
  · intro ⟨hs, h, entry, hb, he, hr⟩
    exact ⟨(), hs, h, hb, entry, he, hr.symm⟩

/-! ## 4. A menu -/

/-- A menu and its dishes. -/
def menu : Manifest := ⟨{ Settings.default with entry := some ⟨"menu", "Menu"⟩ }, [
  { HostClass.plain "p" "Menu" with
    element := some "menu", children := [⟨"setDishes", "List<Dish>"⟩] },
  { HostClass.plain "p" "Dish" with isAbstract := true },
  { HostClass.plain "p" "Soup" with element := some "soup", supertypes := ["Dish"] },
  { HostClass.plain "p" "Stew" with element := some "stew", supertypes := ["Dish"] }]⟩

/-- The hierarchy of these classes. -/
def menuHierarchy : Hierarchy := .ofLineages menu.classes [[0], [1], [1, 2], [1, 3]]

theorem build_menu : Hierarchy.build menu = .ok menuHierarchy :=
  Hierarchy.build_of_lineages (by decide) (by decide) (by decide) rfl

/-- The source of the function that creates a menu. -/
def menuEntry : File :=
  Builder.entryFile "menu" ⟨"p", ["Menu"]⟩ (.topLevel menu.settings.package "MenuSpec")
    menu.settings.package

theorem entrySources_menu : entrySources menuHierarchy menu.settings = .ok [menuEntry] := by
  have hp : menuHierarchy.entryPoint ⟨"menu", "Menu"⟩ = .ok ((0 : Fin 4), (0 : Fin 4)) := by
    decide +kernel
  exact entrySources_ok.2 (.inr ⟨_, _, _, rfl, hp, rfl⟩)

/-- The menu passes. -/
theorem exists_check_menu : ∃ r, (check menu menu.settings).result = .ok r := by
  have hs : menu.settings.check = .ok () := by decide
  have he := entryFiles_ok.2 ⟨_, entrySources_menu, rfl⟩
  exact ⟨_, check_ok.2 ⟨hs, menuHierarchy, _, build_menu, he, rfl⟩⟩

end BuilderGen.Generation
