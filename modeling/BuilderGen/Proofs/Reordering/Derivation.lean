import BuilderGen.Proofs.Builder.Derivation
import BuilderGen.Proofs.Log.Each
import BuilderGen.Proofs.Reordering.Hierarchy

/-!
# Shapes in reordered hierarchies

The shape of a builder is derived from lineages, which do not depend on the order of the classes,
and from lists of subtypes, which follow it. So in another order a builder has the same slots, and
in each slot the same targets, possibly in another order. Whether two functions get in each other's
way does not depend on their order either.

* `Shape.Reordered`: two shapes that differ only in the order of targets;
* `firstConflict_of_perm`: whether there is a conflict does not depend on the order;
* `derive_place`: in another order a shape is derived that differs only in this way, or the
  derivation fails for the same builder.
-/

namespace BuilderGen.Builder

open BuilderGen.Hierarchy (Reordered)
open BuilderGen.Log (Traced)
open BuilderGen.Result (Agree)
open BuilderGen.Schema (ChildSlot)

/-! ## 1. Shapes with targets in another order -/

/-- **Two relationships that differ only in the order of their targets.** -/
structure Relationship.Reordered (r r' : Relationship) : Prop where
  setter : r'.setter = r.setter
  accessor : r'.accessor = r.accessor
  repeatable : r'.repeatable = r.repeatable
  declared : r'.declared = r.declared
  targets : r.targets.Perm r'.targets

/-- **Two shapes that differ only in the order of the targets of each relationship.** -/
structure Shape.Reordered (s s' : Shape) : Prop where
  builder : s'.builder = s.builder
  host : s'.host = s.host
  property : s'.property = s.property
  relationships : List.Forall₂ Relationship.Reordered s.relationships s'.relationships

/-- The reading of a slot at the new places. -/
structure Slot.Moved {h h' : Hierarchy} (place : h.Id ≃ h'.Id) (s : Slot h) (s' : Slot h') :
    Prop where
  accessor : s'.accessor = s.accessor
  repeatable : s'.repeatable = s.repeatable
  declared : s'.declared = place s.declared
  classes : (s.classes.map place).Perm s'.classes

/-- Two faults of one builder. -/
def SameOwner (f f' : Fault) : Prop := f'.owner = f.owner

/-! ## 2. Conflicts -/

/-- Relationships with their targets in another order have the same functions. -/
theorem functionKeys_perm {rs rs' : List Relationship}
    (h : List.Forall₂ Relationship.Reordered rs rs') :
    (functionKeys rs).Perm (functionKeys rs') := by
  induction h with
  | nil => exact .nil
  | cons hr _ ih =>
    rw [functionKeys, functionKeys, List.flatMap_cons, List.flatMap_cons, hr.setter]
    exact (hr.targets.map _).append ih

theorem firstConflict_of_perm {keys keys' : List FunctionKey} (hp : keys.Perm keys') :
    firstConflict [] keys = none ↔ firstConflict [] keys' = none := by
  rw [firstConflict_eq_none, firstConflict_eq_none, (hp.map FunctionKey.identity).nodup_iff]
  simp

/-! ## 3. Slots -/

section Moved

variable {h h' : Hierarchy} {place : h.Id ≃ h'.Id} (ρ : Reordered h h' place)
include ρ

theorem concreteElements_place (i : h.Id) :
    (concreteElements h' (place i)).Perm ((concreteElements h i).map place) := by
  refine ((ρ.subtypes i).filter _).trans (List.Perm.of_eq ?_)
  rw [List.filter_map, concreteElements]
  simp only [Function.comp_def, ρ.get]

theorem declaredClass_place (slot : ChildSlot) (declared : String) :
    Agree (fun _ _ => True) (fun i i' => i' = place i) (declaredClass h slot declared)
      (declaredClass h' slot declared) := by
  have hr := ρ.resolve declared
  rw [declaredClass, declaredClass]
  generalize h.resolve? declared = x, h'.resolve? declared = y at hr ⊢
  cases hr with
  | ok hi => exact .ok hi
  | @error fault fault' _ => cases fault <;> cases fault' <;> exact .error trivial

theorem targetClasses_place (slot : ChildSlot) (i : h.Id) :
    Agree (fun _ _ => True) (fun l l' => (l.map place).Perm l') (targetClasses h slot i)
      (targetClasses h' slot (place i)) := by
  have hc := (concreteElements_place ρ i).symm
  have he : (concreteElements h' (place i)).isEmpty = (concreteElements h i).isEmpty := by
    rw [Bool.eq_iff_iff, List.isEmpty_iff, List.isEmpty_iff, ← List.map_eq_nil_iff (f := place)]
    exact ⟨fun e => (e ▸ hc).eq_nil, fun e => (e ▸ hc.symm).eq_nil⟩
  rw [targetClasses, targetClasses, he, ρ.get]
  by_cases hn : (!(concreteElements h i).isEmpty) = true
  · rw [if_pos hn, if_pos hn]
    exact .ok hc
  · rw [if_neg hn, if_neg hn]
    by_cases hel : (h.get i).isElement = true
    · rw [if_pos hel, if_pos hel]
      exact .ok (List.Perm.refl _)
    · rw [if_neg hel, if_neg hel]
      exact .error trivial

theorem readSlot_place (slot : ChildSlot) :
    Agree (fun _ _ => True) (Slot.Moved place) (readSlot h slot) (readSlot h' slot) := by
  rw [readSlot_eq, readSlot_eq]
  cases slotHeader slot with
  | error cause => exact .error trivial
  | ok header =>
    refine (declaredClass_place ρ slot header.2.1).bind fun i i' hi => ?_
    subst hi
    refine (targetClasses_place ρ slot i).bind fun l l' hl => ?_
    exact .ok ⟨rfl, rfl, rfl, hl⟩

/-! ## 4. Relationships and shapes -/

/-- The targets of a slot are the same, possibly in another order. -/
theorem targets_place (package owner property : String) {l : List h.Id} {l' : List h'.Id}
    (hl : (l.map place).Perm l') :
    Agree SameOwner List.Perm (Traced.each (target h package owner property) l).result
      (Traced.each (target h' package owner property) l').result := by
  have hsame : (Traced.each (target h' package owner property) (l.map place)).result =
      (Traced.each (target h package owner property) l).result := by
    rw [Traced.result_each_map]
    simp only [target_of_alike (ρ.alike _)]
  rw [← hsame]
  refine Traced.agree_each_of_perm hl fun i j f f' hf hf' => ?_
  rw [SameOwner, owner_of_target_error hf, owner_of_target_error hf']

theorem relationship_place (package owner property : String) (slot : ChildSlot) :
    Agree SameOwner Relationship.Reordered (relationship h package owner property slot).result
      (relationship h' package owner property slot).result := by
  rw [relationship, relationship, Traced.result_bind, Traced.result_bind]
  refine Agree.bind ((readSlot_place ρ slot).mapError fun _ _ _ => rfl) fun s s' hs => ?_
  rw [Traced.result_bind, Traced.result_bind]
  refine (targets_place ρ package owner property hs.classes).bind fun ts ts' hts => ?_
  exact .ok ⟨rfl, hs.accessor, hs.repeatable, by rw [hs.declared, ρ.get], hts⟩

/-- **In another order the builder of a class has the same shape up to the order of targets, or it
fails as well.** -/
theorem derive_place (package : String) (i : h.Id) :
    Agree SameOwner Shape.Reordered (derive h package i).result
      (derive h' package (place i)).result := by
  have ha := ρ.alike i
  have hp : propertyOf h' (place i) = propertyOf h i := by
    rw [propertyOf, propertyOf, ha.classRef]
  rw [result_derive, result_derive, ha.children, ha.builderName, ha.classRef,
    builderClass_of_alike ha, hp]
  have hslots := fun slot (_ : slot ∈ h.children i) =>
    relationship_place ρ package (h.builderName i) (propertyOf h i) slot
  refine (Traced.agree_each hslots).bind fun rs rs' hrs => ?_
  have hc := firstConflict_of_perm (functionKeys_perm hrs)
  cases h1 : firstConflict [] (functionKeys rs) with
  | none =>
    rw [hc.1 h1]
    exact .ok ⟨rfl, rfl, rfl, hrs⟩
  | some cause =>
    cases h2 : firstConflict [] (functionKeys rs') with
    | none =>
      rw [hc.2 h2] at h1
      cases h1
    | some cause' => exact .error rfl

end Moved

end BuilderGen.Builder
