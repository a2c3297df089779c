import BuilderGen.Builder.Derivation
import BuilderGen.Proofs.Hierarchy.Alike
import BuilderGen.Proofs.Log.Each

/-!
# What a derivation comes to

* `firstConflict_eq_none`: there is no conflict exactly if all functions are distinct;
* `target_ok`, `relationship_ok`, `derive_ok`: when targets, relationships and shapes are derived,
  and what they are; `head_of_derive`: what a shape is for;
* `readSlot_eq`: the steps in which a slot is read;
* `target_of_alike`: the target for a class depends on the class and its ancestors alone;
* `owner_of_derive_error`: a derivation fails in the name of its own builder;
* `exists_class_of_target`: the class behind a target of a shape.
-/

namespace BuilderGen.Builder

open BuilderGen.Log (Traced)
open BuilderGen.Result
open BuilderGen.Schema (Attribute ChildSlot)
open BuilderGen.Types (TypeExpression)

/-! ## 1. Conflicts -/

/-- What tells a function from others. -/
def FunctionKey.identity (k : FunctionKey) : String × List String := (k.function, k.signature)

/-- There is no conflict exactly if all functions are distinct, and none is an earlier one. -/
theorem firstConflict_eq_none {seen keys : List FunctionKey} :
    firstConflict seen keys = none ↔ (keys.map FunctionKey.identity).Nodup ∧
      ∀ k ∈ keys, k.identity ∉ seen.map FunctionKey.identity := by
  induction keys generalizing seen with
  | nil => simp [firstConflict]
  | cons k rest ih =>
    have hseen : (seen.find? fun s => s.function == k.function && s.signature == k.signature) =
        none ↔ k.identity ∉ seen.map FunctionKey.identity := by
      simp [List.find?_eq_none, FunctionKey.identity]
    rw [firstConflict, List.map_cons, List.nodup_cons, List.forall_mem_cons, ← hseen]
    cases hf : seen.find? fun s => s.function == k.function && s.signature == k.signature with
    | some first => simp
    | none =>
      simp only [ih, List.map_append, List.map_cons, List.map_nil, List.mem_append,
        List.mem_singleton, not_or, true_and]
      constructor
      · intro ⟨hnd, hrest⟩
        refine ⟨⟨fun hk => ?_, hnd⟩, fun d hd => (hrest d hd).1⟩
        obtain ⟨d, hd, e⟩ := List.mem_map.1 hk
        exact (hrest d hd).2 e
      · intro ⟨⟨hk, hnd⟩, hrest⟩
        refine ⟨hnd, fun d hd => ⟨hrest d hd, fun e => hk ?_⟩⟩
        rw [← e]
        exact List.mem_map_of_mem hd

/-! ## 2. Targets -/

section

variable {h : Hierarchy} {package owner property : String}

/-- The target for a class that can be created. -/
def targetOf (h : Hierarchy) (package property : String) (c : h.Id) : Target :=
  let nests := h.takesElements c
  let attributes := renameInit nests (attributesOf h c).1
  { host := h.classRef c
    function := Name.escape ((h.get c).element.getD (h.get c).name)
    instanceName := localFor property (h.classRef c).simpleName attributes nests
    attributes
    nested := if nests then some (builderClass h package c) else none }

theorem target_ok {c : h.Id} {t : Target} : (target h package owner property c).result = .ok t ↔
    (h.get c).isCreatable = true ∧ targetOf h package property c = t := by
  rw [target]
  by_cases hc : (h.get c).isCreatable = true
  · rw [if_pos hc]
    simp only [hc, true_and, Except.ok.injEq]
    rfl
  · rw [if_neg hc]
    simp [hc, Traced.ofExcept]

/-- The faults of the targets of one builder have its name. -/
theorem owner_of_target_error {c : h.Id} {fault : Fault}
    (he : (target h package owner property c).result = .error fault) : fault.owner = owner := by
  rw [target] at he
  by_cases hc : (h.get c).isCreatable = true
  · rw [if_pos hc] at he
    cases he
  · rw [if_neg hc] at he
    cases he
    rfl

/-- The targets of some classes are derived if each of the classes can be created. -/
theorem targets_ok {classes : List h.Id} {ts : List Target} :
    (Traced.each (target h package owner property) classes).result = .ok ts ↔
      (∀ c ∈ classes, (h.get c).isCreatable = true) ∧
        classes.map (targetOf h package property) = ts := by
  rw [Traced.result_each_ok]
  induction classes generalizing ts with
  | nil =>
    rw [List.forall₂_nil_left_iff, List.map_nil, eq_comm]
    exact ⟨fun e => ⟨fun _ hc => absurd hc List.not_mem_nil, e⟩, fun e => e.2⟩
  | cons c rest ih =>
    rw [List.forall₂_cons_left_iff, List.forall_mem_cons, List.map_cons]
    constructor
    · rintro ⟨t, ts, ht, hts, rfl⟩
      obtain ⟨hc, rfl⟩ := target_ok.1 ht
      obtain ⟨hrest, rfl⟩ := ih.1 hts
      exact ⟨⟨hc, hrest⟩, rfl⟩
    · rintro ⟨⟨hc, hrest⟩, rfl⟩
      exact ⟨_, _, target_ok.2 ⟨hc, rfl⟩, ih.2 ⟨hrest, rfl⟩, rfl⟩

/-! ## 3. Slots -/

/-- A slot takes at least one class, and all that it takes are elements. -/
theorem classes_of_targetClasses {slot : ChildSlot} {declared : h.Id} {classes : List h.Id}
    (ht : targetClasses h slot declared = .ok classes) :
    classes ≠ [] ∧ ∀ c ∈ classes, (h.get c).isElement = true := by
  rw [targetClasses] at ht
  by_cases hn : (!(concreteElements h declared).isEmpty) = true
  · rw [if_pos hn] at ht
    cases ht
    refine ⟨by simpa using hn, fun c hc => ?_⟩
    have := (List.mem_filter.1 hc).2
    rw [Bool.and_eq_true] at this
    exact this.1
  · rw [if_neg hn] at ht
    by_cases he : (h.get declared).isElement = true
    · rw [if_pos he] at ht
      cases ht
      exact ⟨List.cons_ne_nil _ _, fun c hc => List.mem_singleton.1 hc ▸ he⟩
    · rw [if_neg he] at ht
      cases ht

/-- What a slot tells by itself: its accessor, the declared type, and whether it is repeatable. -/
def slotHeader (slot : ChildSlot) : Except Cause (String × String × Bool) :=
  let unsupported := fun reason => Except.error (.unsupported slot.setter slot.parameter reason)
  match Name.propertyOfSetter? slot.setter with
  | none => unsupported .notASetter
  | some property =>
    match TypeExpression.parse slot.parameter with
    | .error fault => unsupported (.malformed fault)
    | .ok t => (elementType slot t).map fun e => (Name.escape property, e.1, e.2)

/-- A slot is read from what it tells by itself, the declared class and the classes below it. -/
theorem readSlot_eq (h : Hierarchy) (slot : ChildSlot) :
    readSlot h slot = (slotHeader slot).bind fun header =>
      (declaredClass h slot header.2.1).bind fun declared =>
        (targetClasses h slot declared).bind fun classes =>
          .ok ⟨header.1, header.2.2, declared, classes⟩ := by
  rw [readSlot, slotHeader]
  cases Name.propertyOfSetter? slot.setter with
  | none => rfl
  | some property =>
    cases TypeExpression.parse slot.parameter with
    | error fault => rfl
    | ok t =>
      dsimp only
      cases elementType slot t <;> rfl

theorem classes_of_readSlot {slot : ChildSlot} {s : Slot h} (hs : readSlot h slot = .ok s) :
    s.classes ≠ [] ∧ ∀ c ∈ s.classes, (h.get c).isElement = true := by
  rw [readSlot_eq] at hs
  obtain ⟨header, -, hs⟩ := bind_ok.1 hs
  obtain ⟨declared, -, hs⟩ := bind_ok.1 hs
  obtain ⟨classes, hc, hs⟩ := bind_ok.1 hs
  cases hs
  exact classes_of_targetClasses hc

/-- A relationship is derived from a slot that can be read, if each class in it can be created. -/
theorem relationship_ok {slot : ChildSlot} {r : Relationship} :
    (relationship h package owner property slot).result = .ok r ↔
      ∃ s, readSlot h slot = .ok s ∧ (∀ c ∈ s.classes, (h.get c).isCreatable = true) ∧
        r = ⟨slot.setter, s.accessor, s.repeatable, (h.get s.declared).qualifiedName,
          s.classes.map (targetOf h package property)⟩ := by
  rw [relationship, Traced.result_bind, bind_ok]
  refine exists_congr fun s => and_congr mapError_ok ?_
  rw [Traced.result_bind, bind_ok]
  constructor
  · rintro ⟨ts, hts, hr⟩
    obtain ⟨hc, rfl⟩ := targets_ok.1 hts
    exact ⟨hc, (Except.ok.inj hr).symm⟩
  · rintro ⟨hc, rfl⟩
    exact ⟨_, targets_ok.2 ⟨hc, rfl⟩, rfl⟩

theorem owner_of_relationship_error {slot : ChildSlot} {fault : Fault}
    (he : (relationship h package owner property slot).result = .error fault) :
    fault.owner = owner := by
  rw [relationship, Traced.result_bind] at he
  rcases bind_error.1 he with he | ⟨s, -, he⟩
  · obtain ⟨cause, -, rfl⟩ := mapError_error.1 he
    rfl
  · rw [Traced.result_bind] at he
    rcases bind_error.1 he with he | ⟨ts, -, he⟩
    · obtain ⟨c, -, hc⟩ := Traced.result_each_error he
      exact owner_of_target_error hc
    · cases he

end

/-! ## 4. Targets of classes that are alike -/

section Alike

variable {h h' : Hierarchy} {i : h.Id} {i' : h'.Id} (ha : h.Alike i h' i')
include ha

theorem sampleOf_of_alike (a : Attribute) : sampleOf h' i' a = sampleOf h i a := by
  have hfield : h'.fieldSample i' = h.fieldSample i := funext fun f => ha.sampled _ f
  rw [sampleOf, sampleOf, hfield, Hierarchy.getterSample, ha.sampled, ← Hierarchy.getterSample]

theorem optional_of_alike : optional h' i' = optional h i := by
  funext a
  simp only [optional, defaultOf, sampleOf_of_alike ha, ha.get]

theorem attributesOf_of_alike : attributesOf h' i' = attributesOf h i := by
  rw [attributesOf, attributesOf, ha.attributes, optional_of_alike ha]

theorem builderClass_of_alike (package : String) :
    builderClass h' package i' = builderClass h package i := by
  rw [builderClass, builderClass, ha.builderName]

/-- **A class gives the same target in any hierarchy where it has the same ancestors.** -/
theorem target_of_alike (package owner property : String) :
    target h' package owner property i' = target h package owner property i := by
  simp only [target, ha.get, attributesOf_of_alike ha, ha.takesElements, ha.classRef,
    builderClass_of_alike ha]

end Alike

/-! ## 5. Shapes -/

/-- A shape is derived from its relationships, unless two of their functions are alike. -/
theorem result_derive (h : Hierarchy) (package : String) (i : h.Id) :
    (derive h package i).result =
      (Traced.each (relationship h package (h.builderName i) (propertyOf h i))
        (h.children i)).result.bind fun relationships =>
          match firstConflict [] (functionKeys relationships) with
          | some cause => .error ⟨h.builderName i, cause⟩
          | none =>
            .ok ⟨builderClass h package i, h.classRef i, propertyOf h i, relationships⟩ := by
  rw [derive, Traced.result_bind]
  congr 1
  funext relationships
  cases firstConflict [] (functionKeys relationships) with
  | some cause => rfl
  | none => rw [Traced.result_bind]; rfl

section

variable {h : Hierarchy} {package : String} {i : h.Id}

/-- A shape is derived if all its relationships are and no two of their functions are alike. -/
theorem derive_ok {shape : Shape} : (derive h package i).result = .ok shape ↔
    ∃ rs, List.Forall₂ (fun slot r =>
        (relationship h package (h.builderName i) (propertyOf h i) slot).result = .ok r)
        (h.children i) rs ∧
      firstConflict [] (functionKeys rs) = none ∧
      shape = ⟨builderClass h package i, h.classRef i, propertyOf h i, rs⟩ := by
  rw [result_derive, bind_ok]
  refine exists_congr fun rs => and_congr Traced.result_each_ok ?_
  cases firstConflict [] (functionKeys rs) with
  | some cause => simp
  | none => simp [eq_comm]

/-- A shape tells which builder it is for, around instances of which class. -/
theorem head_of_derive {shape : Shape} (hd : (derive h package i).result = .ok shape) :
    shape.builder = builderClass h package i ∧ shape.host = h.classRef i ∧
      shape.property = propertyOf h i := by
  obtain ⟨rs, -, -, rfl⟩ := derive_ok.1 hd
  exact ⟨rfl, rfl, rfl⟩

/-- **A derivation fails in the name of its own builder**, whatever class causes the failure. -/
theorem owner_of_derive_error {fault : Fault} (he : (derive h package i).result = .error fault) :
    fault.owner = h.builderName i := by
  rw [result_derive] at he
  rcases bind_error.1 he with he | ⟨rs, -, he⟩
  · obtain ⟨slot, -, hslot⟩ := Traced.result_each_error he
    exact owner_of_relationship_error hslot
  · cases hc : firstConflict [] (functionKeys rs) with
    | some cause =>
      rw [hc] at he
      cases he
      rfl
    | none =>
      rw [hc] at he
      cases he

/-- Each relationship of a shape belongs to a slot of its class. -/
theorem exists_slot_of_relationship {shape : Shape}
    (hd : (derive h package i).result = .ok shape) {r : Relationship}
    (hr : r ∈ shape.relationships) :
    ∃ slot ∈ h.children i,
      (relationship h package (h.builderName i) shape.property slot).result = .ok r := by
  obtain ⟨rs, hrs, -, rfl⟩ := derive_ok.1 hd
  dsimp only at hr ⊢
  exact Traced.exists_of_mem_result_each (Traced.result_each_ok.2 hrs) hr

/-- Each slot of a class has its relationship in the shape. -/
theorem exists_relationship_of_slot {shape : Shape} (hd : (derive h package i).result = .ok shape)
    {slot : ChildSlot} (hslot : slot ∈ h.children i) : ∃ r ∈ shape.relationships,
      (relationship h package (h.builderName i) shape.property slot).result = .ok r := by
  obtain ⟨rs, hrs, -, rfl⟩ := derive_ok.1 hd
  exact Traced.exists_mem_of_result_each (Traced.result_each_ok.2 hrs) hslot

/-- **Behind each target of a shape stands an element that can be created.** -/
theorem exists_class_of_target {shape : Shape} (hd : (derive h package i).result = .ok shape)
    {r : Relationship} (hr : r ∈ shape.relationships) {t : Target} (ht : t ∈ r.targets) :
    ∃ c, (h.get c).isElement = true ∧ (h.get c).isCreatable = true ∧
      targetOf h package shape.property c = t := by
  obtain ⟨slot, -, hslot⟩ := exists_slot_of_relationship hd hr
  obtain ⟨s, hs, hc, rfl⟩ := relationship_ok.1 hslot
  obtain ⟨c, hmem, rfl⟩ := List.mem_map.1 ht
  exact ⟨c, (classes_of_readSlot hs).2 c hmem, hc c hmem, rfl⟩

end

end BuilderGen.Builder
