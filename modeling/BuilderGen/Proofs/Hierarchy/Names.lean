import BuilderGen.Proofs.Hierarchy.Acceptance
import BuilderGen.Proofs.Text.Segments

/-!
# Names tell classes apart

* `canonical_classRef`: the reference to a class has the full name of the class;
* `Valid.classRef_injective`: no two classes are referred to in the same way;
* `Valid.nodup_builderName`: no two elements have builders of one name.
-/

namespace BuilderGen.Hierarchy

open BuilderGen.Schema

/-- The reference to a class has the name of the class inside its package. -/
theorem nestedName_classRef (h : Hierarchy) (i : h.Id) :
    (h.classRef i).nestedName = (h.get i).nestedName := by
  rw [classRef, Source.ClassRef.nestedName, HostClass.nestedName]
  cases (h.get i).enclosing with
  | none => exact Text.joinDots_singleton _
  | some outer =>
    have hne := Text.segments_ne_nil outer
    show Text.joinDots (Text.segments outer ++ [(h.get i).name]) = _
    rw [Text.joinDots_concat hne, Text.joinDots_segments]

/-- **The reference to a class has the full name of the class.** -/
theorem canonical_classRef (h : Hierarchy) (i : h.Id) :
    (h.classRef i).canonical = (h.get i).qualifiedName := by
  rw [Source.ClassRef.canonical, HostClass.qualifiedName, nestedName_classRef]
  rfl

theorem map_get_ids (h : Hierarchy) : h.ids.map h.get = h.classes := List.map_get_finRange _

/-- The classes of the elements. -/
theorem map_get_elements (h : Hierarchy) :
    h.elements.map h.get = h.classes.filter HostClass.isElement := by
  rw [← map_get_ids, List.filter_map]
  rfl

/-- The elements stand in the order of the schema. -/
theorem pairwise_elements (h : Hierarchy) : h.elements.Pairwise (· < ·) :=
  (List.pairwise_lt_finRange _).filter _

theorem mem_elements {h : Hierarchy} {i : h.Id} :
    i ∈ h.elements ↔ (h.get i).isElement = true := by
  simp [elements, ids]

namespace Valid

variable {h : Hierarchy} (hv : h.Valid)
include hv

/-- No two classes have one full name. -/
theorem qualifiedName_injective : Function.Injective fun i => (h.get i).qualifiedName := by
  have hnd := hv.wellFormed.names
  rw [← map_get_ids, List.map_map] at hnd
  intro i j hij
  exact List.inj_on_of_nodup_map hnd (List.mem_finRange i) (List.mem_finRange j) hij

/-- **No two classes are referred to in the same way.** -/
theorem classRef_injective : Function.Injective h.classRef := by
  intro i j hij
  apply hv.qualifiedName_injective
  show (h.get i).qualifiedName = (h.get j).qualifiedName
  rw [← canonical_classRef, ← canonical_classRef, hij]

/-- **No two elements have builders of one name.** -/
theorem nodup_builderName : (h.elements.map h.builderName).Nodup := by
  have hnd := hv.wellFormed.builders
  rw [← map_get_elements, List.map_map] at hnd
  exact hnd

end Valid

end BuilderGen.Hierarchy
