import BuilderGen.Proofs.Hierarchy.Names
import BuilderGen.Proofs.Source.ClassRef

/-!
# References to one class

A class is referred to in two ways: by what the schema says of it, and by its full name alone, of
which the letters tell where the package ends. The two references agree where the letters keep to the
usual convention.

* `Conventional`: a class whose name keeps to it;
* `Agrees`, `agrees_ofQualified`: what the two references to such a class have in common;
* `classRefs_of_build`: full names, and which references agree.
-/

namespace BuilderGen.Hierarchy

open BuilderGen.Schema (HostClass Manifest Settings)
open BuilderGen.Source (ClassRef)

/-- **The name of a class keeps to the convention**: no segment of its package starts with a capital
letter, and its outermost class does. -/
structure Conventional (c : HostClass) : Prop where
  package : ∀ s ∈ Text.segments c.package, ClassRef.isClassSegment s = false
  nested : ∀ s ∈ (Text.segments c.nestedName).head?, ClassRef.isClassSegment s = true

/-- **A reference from the full name of a class agrees with the one to the class.** The two are the
same if the class has no dot in its own name, and if it has one, they differ in the innermost
name. -/
structure Agrees (h : Hierarchy) (i : h.Id) (c : ClassRef) : Prop where
  package : c.package = (h.classRef i).package
  nestedName : c.nestedName = (h.classRef i).nestedName
  simpleName : c.simpleName = (h.classRef i).simpleName ↔ '.' ∉ (h.get i).name.toList
  same : c = h.classRef i ↔ '.' ∉ (h.get i).name.toList

section

variable (h : Hierarchy) (i : h.Id)

/-- The innermost name of the reference to a class is the name of the class. -/
theorem simpleName_classRef : (h.classRef i).simpleName = (h.get i).name := by
  rw [classRef, ClassRef.simpleName, List.getLast?_concat, Option.getD_some]

/-- The name of a class inside its package ends like the name of the class. -/
theorem lastSegment_nestedName :
    Text.lastSegment (h.get i).nestedName = Text.lastSegment (h.get i).name := by
  unfold HostClass.nestedName
  cases (h.get i).enclosing with
  | none => rfl
  | some outer => exact Text.lastSegment_append outer (h.get i).name

/-- The segments of a name without a dot in the class are the names of the reference. -/
theorem segments_nestedName (hdot : '.' ∉ (h.get i).name.toList) :
    Text.segments (h.get i).nestedName = (h.classRef i).names := by
  unfold HostClass.nestedName classRef
  dsimp only
  cases (h.get i).enclosing with
  | none => exact Text.segments_of_not_mem hdot
  | some outer =>
    show Text.segments (outer ++ "." ++ (h.get i).name) = Text.segments outer ++ [(h.get i).name]
    rw [Text.segments_append, Text.segments_of_not_mem hdot]

/-- **The reference from the full name agrees with the one to the class if the letters keep to the
convention.** -/
theorem agrees_ofQualified (hc : Conventional (h.get i)) :
    Agrees h i (.ofQualified (h.get i).qualifiedName) := by
  have hclass : ClassRef.ofQualified (h.get i).qualifiedName =
      ⟨(h.get i).package, Text.segments (h.get i).nestedName⟩ :=
    ClassRef.ofQualified_append hc.package hc.nested
  rw [hclass]
  have hsimple : ClassRef.simpleName ⟨(h.get i).package, Text.segments (h.get i).nestedName⟩ =
      (h.classRef i).simpleName ↔ '.' ∉ (h.get i).name.toList := by
    rw [simpleName_classRef, ← Text.lastSegment_eq_self_iff, ← lastSegment_nestedName,
      Text.lastSegment, ClassRef.simpleName,
      List.getLast?_eq_some_getLast (Text.segments_ne_nil _), Option.getD_some]
  refine ⟨rfl, ?_, hsimple, ?_⟩
  · rw [nestedName_classRef]
    exact Text.joinDots_segments _
  · constructor
    · intro e
      exact hsimple.1 (congrArg ClassRef.simpleName e)
    · intro hdot
      rw [segments_nestedName h i hdot]
      rfl

end

/-- **The reference to a class has its full name, and no other class has it.** The reference from
this name agrees with it where the letters of the name keep to the convention. From any text that
does not start with a dot the reference has this text for its full name. -/
theorem classRefs_of_build :
    (∀ {m : Manifest} {h : Hierarchy}, build m = .ok h →
      (∀ i, (h.classRef i).canonical = (h.get i).qualifiedName) ∧
      (∀ i j, (h.classRef i).canonical = (h.classRef j).canonical → i = j) ∧
      ∀ i, Conventional (h.get i) → Agrees h i (.ofQualified (h.get i).qualifiedName)) ∧
    ∀ q : String, q.toList.head? ≠ some '.' → (ClassRef.ofQualified q).canonical = q := by
  refine ⟨fun hb => ?_, fun q => ClassRef.canonical_ofQualified⟩
  have hv := valid_of_build hb
  refine ⟨canonical_classRef _, fun i j e => hv.qualifiedName_injective ?_, agrees_ofQualified _⟩
  rw [canonical_classRef, canonical_classRef] at e
  exact e

/-! ## A garden -/

/-- A garden with a row in a bed, and a class without a package. -/
def garden : Manifest := ⟨Settings.default, [
  { HostClass.plain "org.garden" "Row" with enclosing := some "Plot.Bed" },
  HostClass.plain "" "Shed"]⟩

/-- The hierarchy of these classes. -/
def gardenHierarchy : Hierarchy := .ofLineages garden.classes [[0], [1]]

theorem build_garden : build garden = .ok gardenHierarchy :=
  build_of_lineages (by decide) (by decide) (by decide) rfl

/-- The row is the innermost class, whichever way it is referred to. -/
theorem classRefs_in_garden :
    build garden = .ok gardenHierarchy ∧ Conventional (gardenHierarchy.get (0 : Fin 2)) ∧
    "org.garden.Plot.Bed.Row".toList.head? ≠ some '.' ∧
    ClassRef.ofQualified "org.garden.Plot.Bed.Row" = gardenHierarchy.classRef (0 : Fin 2) ∧
    (gardenHierarchy.classRef (0 : Fin 2)).canonical = "org.garden.Plot.Bed.Row" ∧
    (ClassRef.ofQualified "org.garden.Plot.Bed.Row").canonical = "org.garden.Plot.Bed.Row" := by
  have hrow : Conventional (gardenHierarchy.get (0 : Fin 2)) :=
    ⟨by decide +kernel, by decide +kernel⟩
  have hhead : "org.garden.Plot.Bed.Row".toList.head? ≠ some '.' := by decide +kernel
  have hname : (gardenHierarchy.get (0 : Fin 2)).qualifiedName = "org.garden.Plot.Bed.Row" := by
    decide +kernel
  obtain ⟨hcanonical, -, hagrees⟩ := classRefs_of_build.1 build_garden
  refine ⟨build_garden, hrow, hhead, ?_, ?_, classRefs_of_build.2 _ hhead⟩
  · rw [← hname]
    exact (hagrees (0 : Fin 2) hrow).same.2 (by decide +kernel)
  · exact (hcanonical (0 : Fin 2)).trans hname

end BuilderGen.Hierarchy
