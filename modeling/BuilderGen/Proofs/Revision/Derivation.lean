import BuilderGen.Proofs.Builder.Derivation
import BuilderGen.Proofs.Revision.Hierarchy

/-!
# Shapes behind a revision

A slot is read from names and references, so it reads the same when a class was revised, and it
takes the classes at the same positions. What is read of these classes themselves are their
attributes, their samples, and whether they can be created. So the shape of a builder stays the same
unless the revised class is one of the classes in its slots, or an ancestor of one.

* `readSlot_revised`: each slot takes the classes at the same positions;
* `Avoids`: the class at a position counts for no class in the slots of a builder;
* `derive_revised`: a builder that avoids the revised class is derived with the same result.
-/

namespace BuilderGen.Builder

open BuilderGen.Hierarchy (Revised)
open BuilderGen.Log (Traced)
open BuilderGen.Schema (ChildSlot HostClass)

/-- **The class at a position counts for none of the classes that go into the slots of a class**: it
is none of them, and no ancestor of one. -/
def Avoids (h : Hierarchy) (i : h.Id) (d : Nat) : Prop :=
  ∀ slot ∈ h.children i, ∀ s, readSlot h slot = .ok s →
    ∀ c ∈ s.classes, ∀ a ∈ h.lineage c, a.val ≠ d

instance (h : Hierarchy) (i : h.Id) (d : Nat) : Decidable (Avoids h i d) :=
  decidable_of_iff (∀ slot ∈ h.children i, ∀ s ∈ (readSlot h slot).toOption,
      ∀ c ∈ s.classes, ∀ a ∈ h.lineage c, a.val ≠ d) <|
    forall_congr' fun slot => forall_congr' fun _ => by
      cases readSlot h slot <;> simp [Except.toOption]

/-- The reading of a slot at other positions. -/
def Slot.move {h h' : Hierarchy} (place : h.Id ≃ h'.Id) (s : Slot h) : Slot h' :=
  ⟨s.accessor, s.repeatable, place s.declared, s.classes.map place⟩

section Revised

variable {h h' : Hierarchy} {place : h.Id ≃ h'.Id} {d : Nat} (ρ : Revised h h' place d)
include ρ

/-! ## 1. Slots -/

theorem concreteElements_revised (i : h.Id) :
    concreteElements h' (place i) = (concreteElements h i).map place := by
  rw [concreteElements, concreteElements, ρ.subtypes, List.filter_map]
  congr 1
  exact List.filter_congr fun k _ =>
    HostClass.apply_eq (f := fun c => c.isElement && !c.isAbstract) (fun _ => rfl) (ρ.frame k)

theorem declaredClass_revised (slot : ChildSlot) (declared : String) :
    declaredClass h' slot declared = (declaredClass h slot declared).map place := by
  rw [declaredClass, declaredClass, ρ.resolve]
  cases h.resolve? declared with
  | ok i => rfl
  | error fault => cases fault <;> rfl

theorem targetClasses_revised (slot : ChildSlot) (i : h.Id) :
    targetClasses h' slot (place i) = (targetClasses h slot i).map (List.map place) := by
  rw [targetClasses, targetClasses, concreteElements_revised ρ, List.isEmpty_map, ρ.isElement,
    ρ.qualifiedName]
  by_cases hn : (!(concreteElements h i).isEmpty) = true
  · rw [if_pos hn, if_pos hn]
    rfl
  · rw [if_neg hn, if_neg hn]
    by_cases he : (h.get i).isElement = true
    · rw [if_pos he, if_pos he]
      rfl
    · rw [if_neg he, if_neg he]
      rfl

/-- **A slot takes the classes at the same positions**, or cannot be read for the same cause. -/
theorem readSlot_revised (slot : ChildSlot) :
    readSlot h' slot = (readSlot h slot).map (Slot.move place) := by
  rw [readSlot_eq, readSlot_eq]
  cases slotHeader slot with
  | error cause => rfl
  | ok header =>
    simp only [Except.bind, declaredClass_revised ρ]
    cases declaredClass h slot header.2.1 with
    | error cause => rfl
    | ok i =>
      simp only [Except.map, targetClasses_revised ρ]
      cases targetClasses h slot i <;> rfl

/-! ## 2. Relationships and shapes -/

/-- A slot gives rise to the same relationship if the classes in it are the same. -/
theorem relationship_revised (package owner property : String) {slot : ChildSlot}
    (ha : ∀ s, readSlot h slot = .ok s → ∀ c ∈ s.classes, h.Alike c h' (place c)) :
    (relationship h' package owner property slot).result =
      (relationship h package owner property slot).result := by
  rw [relationship, relationship, Traced.result_bind, Traced.result_bind, readSlot_revised ρ]
  cases hs : readSlot h slot with
  | error cause => rfl
  | ok s =>
    have htargets : (Traced.each (target h' package owner property) (s.classes.map place)).result =
        (Traced.each (target h package owner property) s.classes).result := by
      rw [Traced.result_each_map]
      refine Traced.result_each_congr fun c hc => ?_
      rw [target_of_alike (ha s hs c hc)]
    show (Traced.result (_ >>= _)) = Traced.result (_ >>= _)
    rw [Traced.result_bind, Traced.result_bind]
    simp only [Slot.move, htargets, ρ.qualifiedName]

/-- **A builder that avoids the revised class is derived with the same result**: the same shape, or
the same fault. The revised class may be the class of the builder, or one of its ancestors. -/
theorem derive_revised (hv : h.Valid) {i : h.Id} (hd : Avoids h i d) (package : String) :
    (derive h' package (place i)).result = (derive h package i).result := by
  -- of the class itself only names and slots are read, so it may be the revised one
  have hproperty : propertyOf h' (place i) = propertyOf h i := by
    rw [propertyOf, propertyOf, ρ.classRef]
  have hbuilder : builderClass h' package (place i) = builderClass h package i := by
    rw [builderClass, builderClass, ρ.builderName]
  rw [result_derive, result_derive, ρ.children, ρ.builderName, ρ.classRef, hproperty, hbuilder]
  congr 1
  refine Traced.result_each_congr fun slot hslot => relationship_revised ρ _ _ _ fun s hs c hc => ?_
  exact ρ.alike (hv.mem_lineage.2 .refl) (hd slot hslot s hs c hc)

end Revised

end BuilderGen.Builder
