import BuilderGen.Proofs.Generation.Accounting
import BuilderGen.Proofs.Generation.Sources
import BuilderGen.Proofs.Hierarchy.EntryPoint
import BuilderGen.Proofs.Hierarchy.Members

/-!
# Complete reports are closed

A function that creates an element with nested elements refers to the builder of that element, and
so does the entry function. When no element fails, every such builder is there.

* `functions_eq_nil`: a builder has no functions exactly if its class takes no nested elements;
* `Provides`: what it means that a builder is there, with `provides_of_mem_shapes`;
* `entryPoint_ok`: the entry point means a class and an element among its ancestors;
* `Closed`: what it means that each builder that is referred to is there, with
  `closed_of_complete`.
-/

namespace BuilderGen.Generation

open Relation
open BuilderGen.Builder (Fault Relationship Shape Target builderClass derive targetOf)
open BuilderGen.Hierarchy (Extends)
open BuilderGen.Result
open BuilderGen.Schema
open BuilderGen.Source (ClassRef File Parameter)

/-! ## 1. Functions -/

/-- A builder has no functions exactly if its class takes no nested elements. -/
theorem functions_eq_nil {h : Hierarchy} {package : String} {i : h.Id} {shape : Shape}
    (hd : (derive h package i).result = .ok shape) :
    shape.functions = [] ↔ h.takesElements i = false := by
  have htargets : ∀ r ∈ shape.relationships, r.targets ≠ [] := by
    intro r hr
    obtain ⟨slot, -, hslot⟩ := Builder.exists_slot_of_relationship hd hr
    obtain ⟨read, hread, -, rfl⟩ := Builder.relationship_ok.1 hslot
    rw [ne_eq, List.map_eq_nil_iff]
    exact (Builder.classes_of_readSlot hread).1
  have hrelationships : shape.functions = [] ↔ shape.relationships = [] := by
    rw [Shape.functions, List.flatMap_eq_nil_iff, List.eq_nil_iff_forall_not_mem]
    simp only [List.map_eq_nil_iff]
    exact forall_congr' fun r => forall_congr' fun hr => iff_false_intro (htargets r hr)
  have hslots : shape.relationships = [] ↔ h.children i = [] := by
    obtain ⟨rs, hrs, -, rfl⟩ := Builder.derive_ok.1 hd
    rw [← List.length_eq_zero_iff, ← hrs.length_eq, List.length_eq_zero_iff]
  rw [hrelationships, hslots, ← Bool.not_eq_true, Hierarchy.takesElements_iff, not_not]

/-! ## 2. Shapes -/

/-- Without faults each element has a shape. -/
theorem exists_shape {h : Hierarchy} {package : String} (hf : faults h package = []) {i : h.Id}
    (hi : i ∈ h.elements) : ∃ shape ∈ shapes h package, (derive h package i).result = .ok shape := by
  cases hd : (derive h package i).result with
  | ok shape => exact ⟨shape, mem_shapes.2 ⟨i, hi, hd⟩, rfl⟩
  | error fault =>
    have hmem : fault ∈ faults h package :=
      List.mem_filterMap.2 ⟨i, hi, by rw [faultOf, hd]⟩
    rw [hf] at hmem
    cases hmem

/-- No two shapes are for one class. -/
theorem nodup_hosts {h : Hierarchy} (hv : h.Valid) (package : String) :
    ((shapes h package).map Shape.host).Nodup := by
  have hhost : (shapes h package).map Shape.host = (derived h package).map h.classRef :=
    map_shapes fun _ _ hd => (Builder.head_of_derive hd).2.1
  have hderived : (derived h package).Nodup :=
    ((Hierarchy.pairwise_elements h).filter _).imp Fin.ne_of_lt
  rw [hhost]
  exact hderived.map hv.classRef_injective

/-! ## 3. Builders that are there -/

/-- **The sources provide a builder around instances of a class**: one source has its name, stands
in the package and declares the builder alone, whose constructor takes an instance of exactly this
class. -/
def Provides (files : List File) (package : String) (builder host : ClassRef) : Prop :=
  ∃ f d, files.filter (fun f => f.name = builder.simpleName) = [f] ∧ f.package = package ∧
    f.classes = [d] ∧ f.declared = [builder] ∧
    d.properties.map Parameter.type = [.plain host false]

/-- No two sources have one name. -/
theorem nodup_name_sources {h : Hierarchy} (hv : h.Valid) {s : Settings} {files : List File}
    (hf : sources h s = .ok files) : (files.map File.name).Nodup := by
  obtain ⟨entry, he, rfl⟩ := map_ok.1 hf
  have hnd := (nodup_names hv (entryFiles_ok.2 ⟨entry, he, rfl⟩)).sublist
    (List.sublist_append_left _ _)
  rw [List.map_append, List.map_map, List.map_map] at hnd
  rwa [List.map_append, List.map_map]

/-- The builder of a shape is there. -/
theorem provides_of_mem_shapes {h : Hierarchy} (hv : h.Valid) {s : Settings} {files : List File}
    (hf : sources h s = .ok files) {shape : Shape} (hs : shape ∈ shapes h s.package) :
    Provides files s.package shape.builder shape.host := by
  have hmem : shape.file s.package ∈ files := (mem_sources hf).2 (.inl ⟨shape, hs, rfl⟩)
  have hbuilder : shape.builder = .topLevel s.package shape.builder.simpleName := by
    obtain ⟨i, -, hd⟩ := mem_shapes.1 hs
    rw [(Builder.head_of_derive hd).1]
    rfl
  refine ⟨_, _, filter_key_eq (nodup_name_sources hv hf) hmem, rfl, rfl, ?_, rfl⟩
  rw [hbuilder]
  rfl

/-! ## 4. The entry point -/

/-- The entry point means a class and an element that is this class or one of its ancestors. -/
theorem entryPoint_ok {h : Hierarchy} (hv : h.Valid) {e : EntryPoint} {root element : h.Id}
    (hp : h.entryPoint e = .ok (root, element)) :
    h.resolve? e.root = .ok root ∧ element ∈ h.elements ∧
      ReflTransGen (Extends h.classes) root element := by
  obtain ⟨hroot, hn, -⟩ := Hierarchy.entryPoint_eq_ok.1 hp
  have hc := Hierarchy.configures_of_nearestElement hv hn
  exact ⟨hroot, Hierarchy.mem_elements.2 hc.isElement, hc.ancestor⟩

/-! ## 5. Closed sources -/

/-- **Each builder that a source refers to is there.** The builder of a target is there, around
instances of the class that is created. This class has exactly one shape, and the target refers to
the builder exactly if this shape has functions. The builder of the entry function is there, around
instances of the created class or of one of its ancestors. -/
structure Closed (h : Hierarchy) (s : Settings) (files : List File) : Prop where
  nested : ∀ shape ∈ shapes h s.package, ∀ rel ∈ shape.relationships, ∀ t ∈ rel.targets,
    ∀ b, t.nested = some b → Provides files s.package b t.host
  own : ∀ shape ∈ shapes h s.package, ∀ rel ∈ shape.relationships, ∀ t ∈ rel.targets,
    ∃ o, (shapes h s.package).filter (fun o => o.host = t.host) = [o] ∧
      t.nested = if o.functions = [] then none else some o.builder
  entry : ∀ e, s.entry = some e → ∃ root element, h.entryPoint e = .ok (root, element) ∧
    entrySource h s e root element ∈ files ∧
    Provides files s.package (builderClass h s.package element) (h.classRef element) ∧
    ReflTransGen (Extends h.classes) root element

/-- A report is complete if it has no failures. -/
theorem isComplete_iff {files : List GeneratedFile} {failures : List Fault} :
    (Report.mk files failures).isComplete = true ↔ failures = [] := List.isEmpty_iff

/-- A target refers to the builder of its own class if that has functions. -/
theorem nested_eq {h : Hierarchy} {package property : String} {c : h.Id} {own : Shape}
    (hd : (derive h package c).result = .ok own) :
    (targetOf h package property c).nested =
      if own.functions = [] then none else some own.builder := by
  rw [targetOf, (Builder.head_of_derive hd).1]
  by_cases hn : h.takesElements c = true
  · rw [if_pos hn, if_neg fun e => ?_]
    rw [functions_eq_nil hd, hn] at e
    cases e
  · rw [if_neg hn, if_pos ((functions_eq_nil hd).2 (Bool.not_eq_true _ ▸ hn))]

/-- Without faults the class of a target has a shape of its own, which tells whether the target
refers to a builder. -/
theorem exists_own {h : Hierarchy} {package : String} (hf : faults h package = []) {shape : Shape}
    (hs : shape ∈ shapes h package) {rel : Relationship} (hrel : rel ∈ shape.relationships)
    {t : Target} (ht : t ∈ rel.targets) :
    ∃ o ∈ shapes h package, o.host = t.host ∧
      t.nested = if o.functions = [] then none else some o.builder := by
  obtain ⟨i, -, hd⟩ := mem_shapes.1 hs
  obtain ⟨c, helement, -, rfl⟩ := Builder.exists_class_of_target hd hrel ht
  obtain ⟨o, ho, hown⟩ := exists_shape hf (Hierarchy.mem_elements.2 helement)
  exact ⟨o, ho, (Builder.head_of_derive hown).2.1, nested_eq hown⟩

/-- Without faults the builder of each element is there. -/
theorem provides_of_mem_elements {h : Hierarchy} (hv : h.Valid) {s : Settings} {files : List File}
    (hf : sources h s = .ok files) (hfaults : faults h s.package = []) {i : h.Id}
    (hi : i ∈ h.elements) :
    Provides files s.package (builderClass h s.package i) (h.classRef i) := by
  obtain ⟨o, ho, hd⟩ := exists_shape hfaults hi
  obtain ⟨hbuilder, hhost, -⟩ := Builder.head_of_derive hd
  rw [← hbuilder, ← hhost]
  exact provides_of_mem_shapes hv hf ho

/-- **The sources of a complete report are closed.** -/
theorem closed_of_complete {m : Manifest} {h : Hierarchy} (hb : Hierarchy.build m = .ok h)
    {s : Settings} {r : Report} (hr : (generate h s).result = .ok r) (hc : r.isComplete = true) :
    ∃ files, sources h s = .ok files ∧ r.files.map contents = files.map (written s) ∧
      Closed h s files := by
  have hv := Hierarchy.valid_of_build hb
  rw [result_generate] at hr
  obtain ⟨entryFiles, he, rfl⟩ := map_ok.1 hr
  obtain ⟨files, hf, hw⟩ := sources_of_entryFiles he
  have hfaults : faults h s.package = [] := isComplete_iff.1 hc
  refine ⟨files, hf, hw, {
    nested := fun shape hs rel hrel t ht b hb => ?_
    own := fun shape hs rel hrel t ht => ?_
    entry := fun e he => ?_ }⟩
  · obtain ⟨o, ho, hhost, hnested⟩ := exists_own hfaults hs hrel ht
    rw [hb] at hnested
    by_cases hn : o.functions = []
    · rw [if_pos hn] at hnested
      cases hnested
    · rw [if_neg hn] at hnested
      cases hnested
      rw [← hhost]
      exact provides_of_mem_shapes hv hf ho
  · obtain ⟨o, ho, hhost, hnested⟩ := exists_own hfaults hs hrel ht
    rw [← hhost]
    exact ⟨o, filter_key_eq (nodup_hosts hv s.package) ho, hnested⟩
  · obtain ⟨entry, hentry, rfl⟩ := map_ok.1 hf
    rcases entrySources_ok.1 hentry with ⟨hnone, -⟩ | ⟨e', root, element, hsome, hp, rfl⟩
    · rw [he] at hnone
      cases hnone
    · rw [he] at hsome
      cases hsome
      obtain ⟨-, helement, hancestor⟩ := entryPoint_ok hv hp
      exact ⟨root, element, hp, List.mem_append_right _ (List.mem_singleton_self _),
        provides_of_mem_elements hv hf hfaults helement, hancestor⟩

/-- A dinner of courses with dishes, and the gala, which is a dinner but no element. -/
def dinner : Manifest := ⟨{ Settings.default with entry := some ⟨"gala", "Gala"⟩ }, [
  { HostClass.plain "p" "Gala" with supertypes := ["Dinner"] },
  { HostClass.plain "p" "Dinner" with
    element := some "dinner", children := [⟨"setCourses", "List<Course>"⟩] },
  { HostClass.plain "p" "Course" with
    element := some "course", children := [⟨"setDish", "Dish"⟩] },
  { HostClass.plain "p" "Dish" with element := some "dish" }]⟩

/-- The hierarchy of these classes. -/
def dinnerHierarchy : Hierarchy := .ofLineages dinner.classes [[1, 0], [1], [2], [3]]

theorem build_dinner : Hierarchy.build dinner = .ok dinnerHierarchy :=
  Hierarchy.build_of_lineages (by decide) (by decide) (by decide) rfl

theorem closed_dinner :
    Hierarchy.build dinner = .ok dinnerHierarchy ∧
    (shapes dinnerHierarchy dinner.settings.package).map (fun shape =>
      (shape.builder.simpleName, shape.functions.length)) =
        [("DinnerSpec", 1), ("CourseSpec", 1), ("DishSpec", 0)] ∧
    ∃ r, (generate dinnerHierarchy dinner.settings).result = .ok r ∧ r.isComplete = true ∧
      ∃ files, sources dinnerHierarchy dinner.settings = .ok files ∧
        r.files.map contents = files.map (written dinner.settings) ∧
        Closed dinnerHierarchy dinner.settings files := by
  have hp : dinnerHierarchy.entryPoint ⟨"gala", "Gala"⟩ = .ok ((0 : Fin 4), (1 : Fin 4)) := by
    decide +kernel
  have hr := result_generate_of_entryPoint (s := dinner.settings) rfl hp
  have hc : faults dinnerHierarchy dinner.settings.package = [] := by decide +kernel
  exact ⟨build_dinner, by decide +kernel, _, hr, isComplete_iff.2 hc,
    closed_of_complete build_dinner hr (isComplete_iff.2 hc)⟩

end BuilderGen.Generation
