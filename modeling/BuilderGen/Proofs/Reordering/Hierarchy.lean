import BuilderGen.Proofs.Hierarchy.Alike
import BuilderGen.Proofs.Result
import Mathlib.Data.List.NodupEquivFin

/-!
# Hierarchies of reordered classes

A hierarchy knows its classes by their places in the schema. When the classes are put in another
order, each class has a new place, and everything in the hierarchy moves along: what a reference
means, what a class extends, and the lineages. Only lists that follow the schema, such as those of
subtypes, change their order.

* `Rearranged`: two lists of classes with a new place for each class of the first;
* `exists_build_of_perm`: whether there is a hierarchy does not depend on the order;
* `Reordered`: two hierarchies of which one is the other with its classes moved, with
  `exists_reordered`.
-/

namespace BuilderGen

open Relation
open BuilderGen.Schema

namespace Hierarchy

open BuilderGen.Result (Agree)

/-! ## 1. References in another order -/

/-- **Two lists of classes, with a place in the second for each place in the first.** -/
structure Rearranged (classes classes' : List HostClass) where
  place : Fin classes.length ≃ Fin classes'.length
  get_place : ∀ i, classes'.get (place i) = classes.get i

namespace Rearranged

/-- Distinct classes in another order have new places. -/
theorem of_perm {classes classes' : List HostClass} (hnd : classes.Nodup)
    (hp : classes.Perm classes') : Nonempty (Rearranged classes classes') := by
  have hnd' := hp.nodup_iff.1 hnd
  let same : { c // c ∈ classes } ≃ { c // c ∈ classes' } :=
    Equiv.subtypeEquivRight fun c => hp.mem_iff
  let back := (hnd'.getEquiv classes').symm
  refine ⟨⟨(hnd.getEquiv classes).trans (same.trans back), fun i => ?_⟩⟩
  have h := (hnd'.getEquiv classes').apply_symm_apply (same (hnd.getEquiv classes i))
  exact congrArg Subtype.val h

variable {classes classes' : List HostClass} (ρ : Rearranged classes classes')
include ρ

/-- A reference means the same class in any order. -/
theorem resolve_place {r : String} {i : Fin classes.length} :
    resolve classes' r = .ok (ρ.place i) ↔ resolve classes r = .ok i := by
  rw [resolve_ok, resolve_ok, ← ρ.place.forall_congr_right]
  simp only [ρ.get_place, EmbeddingLike.apply_eq_iff_eq]

/-- A reference means a class in any order or in none. -/
theorem agree_resolve (r : String) :
    Agree (fun _ _ => True) (fun i i' => i' = ρ.place i) (resolve classes r)
      (resolve classes' r) := by
  cases hr : resolve classes r with
  | ok i =>
    rw [ρ.resolve_place.2 hr]
    exact .ok rfl
  | error fault =>
    cases hr' : resolve classes' r with
    | error fault' => exact .error trivial
    | ok j =>
      obtain ⟨i, rfl⟩ := ρ.place.surjective j
      rw [ρ.resolve_place, hr] at hr'
      cases hr'

theorem parents_place (i : Fin classes.length) :
    parents classes' (ρ.place i) = (parents classes i).map ρ.place := by
  rw [parents, parents, ρ.get_place, List.map_filterMap]
  simp only [(ρ.agree_resolve _).toOption]

theorem extends_place {i j : Fin classes.length} :
    Extends classes' (ρ.place i) (ρ.place j) ↔ Extends classes i j := by
  rw [Extends, Extends, ρ.get_place]
  simp only [ρ.resolve_place]

/-- What holds of the classes of a schema holds of them in any order. -/
theorem wellFormed (hp : classes.Perm classes') (hw : WellFormed classes) :
    WellFormed classes' where
  each c hc := hw.each c (hp.mem_iff.2 hc)
  names := (hp.map _).nodup_iff.1 hw.names
  references c hc r hr := by
    obtain ⟨i, hi⟩ := exists_resolve_ok.2 (hw.references c (hp.mem_iff.2 hc) r hr)
    exact exists_resolve_ok.1 ⟨_, ρ.resolve_place.2 hi⟩
  acyclic i' h := by
    have back : ∀ a b, Extends classes' a b →
        Extends classes (ρ.place.symm a) (ρ.place.symm b) := by
      intro a b hab
      rw [← ρ.extends_place, ρ.place.apply_symm_apply, ρ.place.apply_symm_apply]
      exact hab
    exact hw.acyclic _ (h.lift _ back)
  builders := ((hp.filter _).map _).nodup_iff.1 hw.builders

end Rearranged

/-- The classes of a well formed schema are distinct. -/
theorem WellFormed.nodup {classes : List HostClass} (hw : WellFormed classes) : classes.Nodup :=
  hw.names.of_map

/-- Whether there is a hierarchy does not depend on the order of the classes. -/
theorem exists_build_of_perm {m m' : Manifest} (hp : m.classes.Perm m'.classes) {h : Hierarchy}
    (hb : build m = .ok h) : ∃ h', build m' = .ok h' := by
  have hw := wellFormed_of_build hb
  obtain ⟨ρ⟩ := Rearranged.of_perm hw.nodup hp
  exact exists_build (ρ.wellFormed hp hw)

/-! ## 2. Hierarchies in another order -/

/-- **One hierarchy is the other with its classes at new places.** -/
structure Reordered (h h' : Hierarchy) (place : h.Id ≃ h'.Id) : Prop where
  get : ∀ i, h'.get (place i) = h.get i
  resolve : ∀ r, Agree (fun _ _ => True) (fun i i' => i' = place i) (h.resolve? r) (h'.resolve? r)
  lineage : ∀ i, h'.lineage (place i) = (h.lineage i).map place
  ids : h'.ids.Perm (h.ids.map place)
  subtypes : ∀ i, (h'.subtypes (place i)).Perm ((h.subtypes i).map place)

theorem ids_perm {h h' : Hierarchy} (place : h.Id ≃ h'.Id) : h'.ids.Perm (h.ids.map place) := by
  have hnd : (h.ids.map place).Nodup := (List.nodup_finRange _).map place.injective
  refine (List.perm_ext_iff_of_nodup (List.nodup_finRange _) hnd).2 fun j => ?_
  obtain ⟨i, rfl⟩ := place.surjective j
  simp [ids]

/-- The hierarchies of the same classes in two orders are each other with the classes moved. -/
theorem exists_reordered {m m' : Manifest} (hp : m.classes.Perm m'.classes) {h h' : Hierarchy}
    (hb : build m = .ok h) (hb' : build m' = .ok h') : ∃ place, Reordered h h' place := by
  have hv := valid_of_build hb
  have hv' := valid_of_build hb'
  rw [← classes_of_build hb, ← classes_of_build hb'] at hp
  obtain ⟨ρ⟩ := Rearranged.of_perm hv.wellFormed.nodup hp
  have hl := lineage_of_parents hv hv' ρ.parents_place
  refine ⟨ρ.place, ρ.get_place, ρ.agree_resolve, hl, ids_perm ρ.place, fun i => ?_⟩
  rw [hv.subtypes_eq, hv'.subtypes_eq]
  refine ((ids_perm ρ.place).filter _).trans (List.Perm.of_eq ?_)
  rw [List.filter_map]
  congr 1
  refine List.filter_congr fun d _ => ?_
  simp [hl]

/-! ## 3. What is read from a hierarchy -/

namespace Reordered

variable {h h' : Hierarchy} {place : h.Id ≃ h'.Id} (ρ : Reordered h h' place)
include ρ

theorem elements_perm : h'.elements.Perm (h.elements.map place) := by
  refine (ρ.ids.filter _).trans (List.Perm.of_eq ?_)
  rw [List.filter_map, elements]
  simp only [Function.comp_def, ρ.get]

/-- A class is the same at its new place, with the same ancestors. -/
theorem alike (i : h.Id) : Alike h i h' (place i) where
  get := ρ.get i
  ancestry := by
    rw [ancestry, ancestry, ρ.lineage, List.map_map]
    exact List.map_congr_left fun a _ => ρ.get a

theorem nearestElement_place (i : h.Id) :
    h'.nearestElement (place i) = (h.nearestElement i).map place :=
  nearestElement_of_lineage (ρ.lineage i) fun a => by rw [ρ.get]

/-- An entry point means the same classes in any order. -/
theorem entryPoint_place (e : EntryPoint) :
    Agree (fun _ _ => True) (fun p p' => p' = (place p.1, place p.2)) (h.entryPoint e)
      (h'.entryPoint e) := by
  have hr := ρ.resolve e.root
  rw [entryPoint, entryPoint]
  generalize h.resolve? e.root = x, h'.resolve? e.root = y at hr ⊢
  cases hr with
  | error _ => exact .error trivial
  | @ok root _ hroot =>
    subst hroot
    simp only [ρ.nearestElement_place, ρ.get]
    cases h.nearestElement root with
    | none => exact .error trivial
    | some element =>
      by_cases hc : (h.get root).isCreatable = true
      · simp only [Option.map_some, if_pos hc]
        exact .ok rfl
      · simp only [Option.map_some, if_neg hc]
        exact .error trivial

end Reordered

end Hierarchy

end BuilderGen
