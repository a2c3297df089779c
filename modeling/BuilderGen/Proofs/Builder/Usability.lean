import BuilderGen.Proofs.Builder.Parameters
import BuilderGen.Proofs.Builder.Slots

/-!
# When a shape is derived

A shape is derived for a class if each of its slots can be used and no two functions are alike.
Nothing else stands in the way, and no slot is passed over.

* `functionOf`, `DifferentFunctions`: what the function for a class is told from others by, and when
  the functions of a builder are different;
* `differentFunctions_iff`: a builder whose slots all derive has a conflict unless they are;
* `fills_of_relationship`: what the relationship of a slot holds;
* `derive_ok_iff_usable`: when a shape is derived, and what the derivation fails with.
-/

namespace BuilderGen.Builder

open BuilderGen.Log (Traced)
open BuilderGen.Result
open BuilderGen.Schema (ChildSlot HostClass Manifest Settings)

/-! ## 1. Functions -/

section

variable {h : Hierarchy} {package : String} {i : h.Id}

/-- **What the function for a class is told from others by**: its name, and the classes that its
parameters are compiled to. -/
def functionOf (h : Hierarchy) (k : h.Id) : String × List String :=
  (Name.escape ((h.get k).element.getD (h.get k).name),
    (ordered (h.attributes k)).map (fun a => (valueTypeOf a).sourceClass.canonical) ++
      if h.takesElements k then [lambdaClass] else [])

/-- **The functions of a builder are different**: no class goes into two slots, and no two classes
that go into slots have one function. -/
def DifferentFunctions (h : Hierarchy) (i : h.Id) : Prop :=
  ∀ slot ∈ h.children i, ∀ slot' ∈ h.children i, ∀ k k', Takes h slot k → Takes h slot' k' →
    functionOf h k = functionOf h k' → slot = slot' ∧ k = k'

/-- The types of the parameters for the attributes of a class. -/
theorem types_targetOf (package property : String) (k : h.Id) :
    (targetOf h package property k).attributes.map AttributeShape.type =
      (ordered (h.attributes k)).map valueTypeOf := by
  rw [attributes_targetOf, List.map_map]
  rfl

theorem functionOf_eq (property : String) (k : h.Id) :
    ((targetOf h package property k).function, (targetOf h package property k).signature) =
      functionOf h k := by
  have htypes := congrArg (List.map fun type : Types.ValueType => type.sourceClass.canonical)
    (types_targetOf package property k)
  have hnested : ((targetOf h package property k).nested.map fun _ => lambdaClass).toList =
      if h.takesElements k then [lambdaClass] else [] := by
    rw [targetOf]
    cases h.takesElements k <;> rfl
  rw [List.map_map, List.map_map] at htypes
  exact Prod.ext rfl (congrArg₂ (· ++ ·) htypes hnested)

/-- The classes that a slot takes, in order. -/
def takenBy (h : Hierarchy) (slot : ChildSlot) : List h.Id :=
  match readSlot h slot with
  | .ok s => s.classes
  | .error _ => []

/-- The classes that go into the slots of a class, each with its slot. -/
def taken (h : Hierarchy) (i : h.Id) : List (ChildSlot × h.Id) :=
  (h.children i).flatMap fun slot => (takenBy h slot).map (Prod.mk slot)

theorem functions_slotTargets {owner property : String} {slots : List ChildSlot}
    {rs : List Relationship} (hrs : List.Forall₂ (fun slot r =>
      (relationship h package owner property slot).result = .ok r) slots rs) :
    (slotTargets rs).map (fun p => (p.2.function, p.2.signature)) =
      (slots.flatMap fun slot => (takenBy h slot).map (Prod.mk slot)).map
        fun p => functionOf h p.2 := by
  induction hrs with
  | nil => rfl
  | @cons slot r slots rs hr _ ih =>
    obtain ⟨s, hread, -, rfl⟩ := relationship_ok.1 hr
    have htaken : takenBy h slot = s.classes := by rw [takenBy, hread]
    rw [slotTargets] at ih
    rw [slotTargets, List.flatMap_cons, List.flatMap_cons, List.map_append, List.map_append, ih,
      htaken]
    simp only [List.map_map, Function.comp_def, functionOf_eq]

variable (hv : h.Valid)
include hv

theorem hasSetter_of_mem_children {slot : ChildSlot} (hslot : slot ∈ h.children i) :
    HasSetter slot := by
  obtain ⟨c, -, hc⟩ := Hierarchy.mem_inherited hslot
  have hwell := hv.wellFormed.each (h.get c) (List.get_mem _ _)
  exact Schema.isSome_propertyOfSetter?.2
    (hwell.setters _ (List.mem_append_right _ (List.mem_map_of_mem hc)))

theorem mem_takenBy {slot : ChildSlot} (hs : HasSetter slot) {k : h.Id} :
    k ∈ takenBy h slot ↔ Takes h slot k := by
  rw [takenBy]
  constructor
  · intro hk
    cases hread : readSlot h slot with
    | error cause =>
      rw [hread] at hk
      cases hk
    | ok s =>
      rw [hread] at hk
      obtain ⟨hd, -, hmem⟩ := readSlot_ok hv hs hread
      exact ⟨s.declared, s.repeatable, hd, (hmem k).1 hk⟩
  · rintro ⟨j, repeatable, hd, hk⟩
    obtain ⟨s, hread, rfl, -⟩ := exists_readSlot hv hs hd hk.exists_below_or_isElement
    rw [hread]
    exact ((readSlot_ok hv hs hread).2.2 k).2 hk

/-- A slot takes its classes in the order of the schema. -/
theorem pairwise_takenBy {slot : ChildSlot} (hs : HasSetter slot) :
    (takenBy h slot).Pairwise (· < ·) := by
  rw [takenBy]
  cases hread : readSlot h slot with
  | error cause => exact .nil
  | ok s => exact (readSlot_ok hv hs hread).2.1

theorem nodup_takenBy {slot : ChildSlot} (hs : HasSetter slot) : (takenBy h slot).Nodup :=
  (pairwise_takenBy hv hs).imp fun hlt => ne_of_lt hlt

theorem mem_taken {slot : ChildSlot} {k : h.Id} :
    (slot, k) ∈ taken h i ↔ slot ∈ h.children i ∧ Takes h slot k := by
  rw [taken, List.mem_flatMap]
  constructor
  · rintro ⟨slot', hslot, hk⟩
    obtain ⟨k', hk', e⟩ := List.mem_map.1 hk
    cases e
    exact ⟨hslot, (mem_takenBy hv (hasSetter_of_mem_children hv hslot)).1 hk'⟩
  · rintro ⟨hslot, hk⟩
    exact ⟨slot, hslot,
      List.mem_map_of_mem ((mem_takenBy hv (hasSetter_of_mem_children hv hslot)).2 hk)⟩

theorem nodup_taken : (taken h i).Nodup := by
  have hslots : (h.children i).Nodup := (Hierarchy.nodup_keys_inherited h _ _ i).of_map
  rw [taken, List.nodup_flatMap]
  refine ⟨fun slot hslot => ?_, hslots.imp fun {slot slot'} hne => ?_⟩
  · exact (nodup_takenBy hv (hasSetter_of_mem_children hv hslot)).map fun _ _ e => (Prod.mk.inj e).2
  · intro p hp hp'
    obtain ⟨k, -, rfl⟩ := List.mem_map.1 hp
    obtain ⟨k', -, e⟩ := List.mem_map.1 hp'
    exact hne (Prod.mk.inj e).1.symm

/-- There is no conflict exactly if the functions are different. -/
theorem differentFunctions_iff {rs : List Relationship} (hrs : SlotsDerive h package i rs) :
    firstConflict [] (functionKeys rs) = none ↔ DifferentFunctions h i := by
  have hpairs : firstConflict [] (functionKeys rs) = none ↔
      ((slotTargets rs).map fun p => (p.2.function, p.2.signature)).Nodup := by
    rw [firstConflict_functionKeys_eq_none, List.Nodup, List.pairwise_map]
    simp only [Alike, ne_eq, Prod.mk.injEq]
  rw [hpairs, functions_slotTargets hrs]
  refine (List.nodup_map_iff_inj_on (nodup_taken hv)).trans ⟨fun hinj => ?_, fun hd => ?_⟩
  · intro slot hslot slot' hslot' k k' hk hk' e
    have hp := hinj (slot, k) ((mem_taken hv).2 ⟨hslot, hk⟩) (slot', k')
      ((mem_taken hv).2 ⟨hslot', hk'⟩) e
    exact Prod.mk.inj hp
  · rintro ⟨slot, k⟩ hp ⟨slot', k'⟩ hp' e
    obtain ⟨hslot, hk⟩ := (mem_taken hv).1 hp
    obtain ⟨hslot', hk'⟩ := (mem_taken hv).1 hp'
    obtain ⟨rfl, rfl⟩ := hd slot hslot slot' hslot' k k' hk hk' e
    rfl

end

/-! ## 2. Shapes -/

section

variable {h : Hierarchy} (hv : h.Valid) {package : String} {i : h.Id}
include hv

theorem fills_of_relationship {slot : ChildSlot} (hs : HasSetter slot) {owner property : String}
    {r : Relationship} (hr : (relationship h package owner property slot).result = .ok r) :
    Fills h slot r := by
  obtain ⟨s, hread, -, rfl⟩ := relationship_ok.1 hr
  obtain ⟨hd, hsorted, -⟩ := readSlot_ok hv hs hread
  have htaken : ∀ k, k ∈ s.classes ↔ Takes h slot k := by
    intro k
    rw [← mem_takenBy hv hs, takenBy, hread]
  refine ⟨rfl, ⟨s.declared, hd, rfl⟩, ⟨s.classes, hsorted, htaken, ?_⟩, ?_⟩
  · exact List.map_map
  · exact fun e => (classes_of_readSlot hread).1 (List.map_eq_nil_iff.1 e)

/-- All slots derive a relationship exactly if all can be used. -/
theorem exists_slotsDerive_iff :
    (∃ rs, SlotsDerive h package i rs) ↔ ∀ slot ∈ h.children i, Usable h slot := by
  have husable : ∀ slot ∈ h.children i,
      ((∃ r, (relationship h package (h.builderName i) (propertyOf h i) slot).result = .ok r) ↔
        Usable h slot) :=
    fun slot hslot => relationship_ok_iff hv (hasSetter_of_mem_children hv hslot)
  rw [← forall₂_congr husable]
  unfold SlotsDerive
  induction h.children i with
  | nil => simp
  | cons slot slots ih => simp [List.forall₂_cons_left_iff, ih]

end

/-- **A shape is derived for a class exactly if each of its slots can be used and its functions are
different.** It has one relationship for each slot, in order, and no relationship is without
targets. A failure that is no conflict is that of the first slot that cannot be used, in the name of
the builder of the class. -/
theorem derive_ok_iff_usable {m : Manifest} {h : Hierarchy} (hm : Hierarchy.build m = .ok h)
    (package : String) (i : h.Id) :
    ((∃ shape, (derive h package i).result = .ok shape) ↔
      (∀ slot ∈ h.children i, Usable h slot) ∧ DifferentFunctions h i) ∧
    (∀ shape, (derive h package i).result = .ok shape →
      List.Forall₂ (Fills h) (h.children i) shape.relationships) ∧
    ∀ owner cause, (∀ function setters, cause ≠ .conflict function setters) →
      ((derive h package i).result = .error ⟨owner, cause⟩ ↔
        owner = h.builderName i ∧ ∃ front slot back, h.children i = front ++ slot :: back ∧
          (∀ s ∈ front, Usable h s) ∧ ¬ Usable h slot ∧ Refused h slot cause) := by
  have hv := Hierarchy.valid_of_build hm
  have hsetter : ∀ slot ∈ h.children i, HasSetter slot :=
    fun slot hslot => hasSetter_of_mem_children hv hslot
  refine ⟨⟨?_, ?_⟩, fun shape hd => ?_, fun owner cause hcause => ?_⟩
  · rintro ⟨shape, hd⟩
    obtain ⟨rs, hrs, hnone, -⟩ := derive_ok.1 hd
    exact ⟨(exists_slotsDerive_iff hv).1 ⟨rs, hrs⟩, (differentFunctions_iff hv hrs).1 hnone⟩
  · rintro ⟨husable, hdifferent⟩
    obtain ⟨rs, hrs⟩ : ∃ rs, SlotsDerive h package i rs := (exists_slotsDerive_iff hv).2 husable
    exact ⟨_, derive_ok.2 ⟨rs, hrs, (differentFunctions_iff hv hrs).2 hdifferent, rfl⟩⟩
  · obtain ⟨rs, hrs, -, rfl⟩ := derive_ok.1 hd
    exact ((List.forall₂_and_left _ _).2 ⟨hsetter, hrs⟩).imp
      fun slot r ⟨hs, hr⟩ => fills_of_relationship hv hs hr
  · -- Only a conflict fails behind the slots.
    have hslots : (derive h package i).result = .error ⟨owner, cause⟩ ↔
        (Traced.each (relationship h package (h.builderName i) (propertyOf h i))
          (h.children i)).result = .error ⟨owner, cause⟩ := by
      rw [result_derive, bind_error]
      refine or_iff_left ?_
      rintro ⟨rs, -, he⟩
      cases hc : firstConflict [] (functionKeys rs) with
      | none =>
        rw [hc] at he
        cases he
      | some cause' =>
        rw [hc] at he
        cases he
        obtain ⟨p, q, -, rfl⟩ := firstConflict_functionKeys_eq_some.1 hc
        exact hcause _ _ rfl
    rw [hslots, Traced.result_each_eq_error]
    constructor
    · rintro ⟨front, slot, back, hsplit, hfront, he⟩
      have hs : ∀ s ∈ front ++ slot :: back, HasSetter s := hsplit ▸ hsetter
      obtain ⟨rfl, hr⟩ :=
        (relationship_error_iff hv (hs slot (by simp))).1 he
      refine ⟨rfl, front, slot, back, hsplit, fun s hmem => ?_, ?_, hr⟩
      · exact (relationship_ok_iff hv (hs s (List.mem_append_left _ hmem))).1 (hfront s hmem)
      · exact (not_usable_iff hv (hs slot (by simp))).2 ⟨cause, hr⟩
    · rintro ⟨rfl, front, slot, back, hsplit, hfront, -, hr⟩
      have hs : ∀ s ∈ front ++ slot :: back, HasSetter s := hsplit ▸ hsetter
      refine ⟨front, slot, back, hsplit, fun s hmem => ?_, ?_⟩
      · exact (relationship_ok_iff hv (hs s (List.mem_append_left _ hmem))).2 (hfront s hmem)
      · exact (relationship_error_iff hv (hs slot (by simp))).2 ⟨rfl, hr⟩

/-! ## 3. A cupboard -/

/-- A rack with cups, and a cupboard that is to have a jug too, of which nothing is known. -/
def cupboard : Manifest := ⟨Settings.default, [
  { HostClass.plain "p" "Rack" with
    element := some "rack", children := [⟨"setCups", "List<Cup>"⟩] },
  { HostClass.plain "p" "Cupboard" with
    element := some "cupboard", children := [⟨"setCups", "List<Cup>"⟩, ⟨"setJug", "Jug"⟩] },
  { HostClass.plain "p" "Cup" with element := some "cup" }]⟩

/-- The hierarchy of these classes. -/
def cupboardHierarchy : Hierarchy := .ofLineages cupboard.classes [[0], [1], [2]]

/-- The shape of the builder of the rack. -/
def rackShape : Shape := ⟨.topLevel "d" "RackSpec", ⟨"p", ["Rack"]⟩, "rack",
  [⟨"setCups", "cups", true, "p.Cup", [⟨⟨"p", ["Cup"]⟩, "cup", "cup", [], none⟩]⟩]⟩

theorem build_cupboard : Hierarchy.build cupboard = .ok cupboardHierarchy :=
  Hierarchy.build_of_lineages (by decide) (by decide) (by decide) rfl

/-- The rack has its function for cups. The cupboard fails with the jug, behind the cups. -/
theorem slots_of_cupboard :
    Hierarchy.build cupboard = .ok cupboardHierarchy ∧
    (derive cupboardHierarchy "d" (0 : Fin 3)).result = .ok rackShape ∧
    (∀ slot ∈ cupboardHierarchy.children (0 : Fin 3), Usable cupboardHierarchy slot) ∧
    List.Forall₂ (Fills cupboardHierarchy) (cupboardHierarchy.children (0 : Fin 3))
      rackShape.relationships ∧
    (derive cupboardHierarchy "d" (1 : Fin 3)).result =
      .error ⟨"CupboardSpec", .unknownType "setJug" "Jug"⟩ ∧
    ∃ front slot back, cupboardHierarchy.children (1 : Fin 3) = front ++ slot :: back ∧
      (∀ s ∈ front, Usable cupboardHierarchy s) ∧ ¬ Usable cupboardHierarchy slot ∧
      Refused cupboardHierarchy slot (.unknownType "setJug" "Jug") := by
  have hrack : (derive cupboardHierarchy "d" (0 : Fin 3)).result = .ok rackShape := by
    decide +kernel
  have hcupboard : (derive cupboardHierarchy "d" (1 : Fin 3)).result =
      .error ⟨"CupboardSpec", .unknownType "setJug" "Jug"⟩ := by
    decide +kernel
  obtain ⟨hok, hfills, -⟩ := derive_ok_iff_usable build_cupboard "d" (0 : Fin 3)
  obtain ⟨-, -, herror⟩ := derive_ok_iff_usable build_cupboard "d" (1 : Fin 3)
  exact ⟨build_cupboard, hrack, (hok.1 ⟨rackShape, hrack⟩).1, hfills rackShape hrack, hcupboard,
    ((herror _ (.unknownType "setJug" "Jug") fun _ _ => nofun).1 hcupboard).2⟩

end BuilderGen.Builder
