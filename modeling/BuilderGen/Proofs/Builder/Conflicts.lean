import BuilderGen.Builder.Assembly
import BuilderGen.Proofs.Builder.Derivation
import BuilderGen.Proofs.Hierarchy.Members

/-!
# Functions that get in each other's way

Two functions of a builder with one name must differ in their compiled parameters, which tell
neither nullability nor the receivers of lambdas. The first function that an earlier one already is
stops the derivation.

* `firstConflict_eq_some`: which function is the first to be there already, and what is told of it;
* `readSlot_ne_conflict`, `relationship_ne_conflict`: no slot by itself has a conflict;
* `erasure_childFunction`: what is compared is the name and the compiled parameters that a function
  has in the end;
* `conflict_iff_alike`: when a derivation ends in a conflict and which setters it names, and that
  the functions of a shape are all different.
-/

namespace BuilderGen.Builder

open BuilderGen.Log (Traced)
open BuilderGen.Result
open BuilderGen.Schema (ChildSlot HostClass Manifest Settings)
open BuilderGen.Source (Function TypeUse)

/-! ## 1. The first function that is there already -/

/-- The functions are checked in order: the first one that an earlier one is stops the check. -/
theorem firstConflict_eq_some {seen keys : List FunctionKey} {cause : Cause} :
    firstConflict seen keys = some cause ↔
      ∃ front k back first, keys = front ++ k :: back ∧ firstConflict seen front = none ∧
        ((seen ++ front).find? fun s => s.function == k.function && s.signature == k.signature) =
          some first ∧
        cause = .conflict k.function
          (if first.setter = k.setter then [first.setter] else [first.setter, k.setter]) := by
  induction keys generalizing seen with
  | nil => simp [firstConflict]
  | cons k rest ih =>
    rw [firstConflict]
    cases hf : seen.find? fun s => s.function == k.function && s.signature == k.signature with
    | some first =>
      constructor
      · intro hc
        exact ⟨[], k, rest, first, rfl, rfl, by rwa [List.append_nil], (Option.some.inj hc).symm⟩
      · rintro ⟨front, k', back, first', hk, hnone, hfirst, rfl⟩
        cases front with
        | nil =>
          obtain ⟨rfl, -⟩ := List.cons.inj hk
          rw [List.append_nil, hf] at hfirst
          cases hfirst
          rfl
        | cons k₀ front =>
          obtain ⟨rfl, -⟩ := List.cons.inj hk
          rw [firstConflict, hf] at hnone
          cases hnone
    | none =>
      dsimp only
      rw [ih]
      constructor
      · rintro ⟨front, k', back, first, rfl, hnone, hfirst, rfl⟩
        refine ⟨k :: front, k', back, first, rfl, ?_, ?_, rfl⟩
        · rw [firstConflict, hf]
          exact hnone
        · rwa [List.append_assoc, List.singleton_append] at hfirst
      · rintro ⟨front, k', back, first, hk, hnone, hfirst, rfl⟩
        cases front with
        | nil =>
          obtain ⟨rfl, -⟩ := List.cons.inj hk
          rw [List.append_nil, hf] at hfirst
          cases hfirst
        | cons k₀ front =>
          obtain ⟨rfl, rfl⟩ := List.cons.inj hk
          rw [firstConflict, hf] at hnone
          refine ⟨front, k', back, first, rfl, hnone, ?_, rfl⟩
          rwa [List.append_assoc, List.singleton_append]

/-- Among different functions at most one is like a given one. -/
theorem find?_eq_some_of_nodup {keys : List FunctionKey} {k first : FunctionKey}
    (hnd : (keys.map FunctionKey.identity).Nodup) :
    (keys.find? fun s => s.function == k.function && s.signature == k.signature) = some first ↔
      first ∈ keys ∧ first.identity = k.identity := by
  have hlike : (fun s : FunctionKey => s.function == k.function && s.signature == k.signature) =
      fun s => decide (s.identity = k.identity) := by
    funext s
    simp [FunctionKey.identity, beq_eq_decide]
  rw [hlike]
  constructor
  · intro hf
    exact ⟨List.mem_of_find?_eq_some hf, by simpa using List.find?_some hf⟩
  · rintro ⟨hmem, hid⟩
    cases hf : keys.find? fun s => decide (s.identity = k.identity) with
    | none => exact absurd (decide_eq_true hid) (List.find?_eq_none.1 hf first hmem)
    | some other =>
      have hother : other.identity = k.identity := by simpa using List.find?_some hf
      rw [List.inj_on_of_nodup_map hnd (List.mem_of_find?_eq_some hf) hmem (hother.trans hid.symm)]

/-! ## 2. Classes in slots -/

/-- The classes in some slots, each with its slot, in the order of their functions. -/
def slotTargets (rs : List Relationship) : List (Relationship × Target) :=
  rs.flatMap fun r => r.targets.map fun t => (r, t)

/-- **Whether the functions for two classes in slots have one name and one signature.** -/
def Alike (p q : Relationship × Target) : Prop :=
  p.2.function = q.2.function ∧ p.2.signature = q.2.signature

/-- **The first function that an earlier one already is**: `q` is the function, `p` the earlier one,
and all functions in front of `q` are different. -/
def FirstAlike (rs : List Relationship) (p q : Relationship × Target) : Prop :=
  ∃ front back, slotTargets rs = front ++ q :: back ∧ p ∈ front ∧ Alike p q ∧
    front.Pairwise fun a b => ¬ Alike a b

/-- The key of the function for a class in a slot. -/
def keyOf (p : Relationship × Target) : FunctionKey := ⟨p.2.function, p.2.signature, p.1.setter⟩

theorem functionKeys_eq (rs : List Relationship) : functionKeys rs = (slotTargets rs).map keyOf := by
  rw [functionKeys, slotTargets, List.map_flatMap]
  simp only [List.map_map, Function.comp_def, keyOf]

theorem identity_keyOf {p q : Relationship × Target} :
    (keyOf p).identity = (keyOf q).identity ↔ Alike p q := by
  rw [FunctionKey.identity, FunctionKey.identity, Prod.ext_iff]
  exact Iff.rfl

theorem nodup_keys_iff {ps : List (Relationship × Target)} :
    ((ps.map keyOf).map FunctionKey.identity).Nodup ↔ ps.Pairwise fun p q => ¬ Alike p q := by
  rw [List.map_map, List.Nodup, List.pairwise_map]
  simp only [Function.comp_apply, ne_eq, identity_keyOf]

/-- There is no conflict exactly if all functions are different. -/
theorem firstConflict_functionKeys_eq_none {rs : List Relationship} :
    firstConflict [] (functionKeys rs) = none ↔
      (slotTargets rs).Pairwise fun p q => ¬ Alike p q := by
  rw [firstConflict_eq_none, functionKeys_eq, nodup_keys_iff]
  exact and_iff_left fun k _ => List.not_mem_nil

/-- A conflict tells of the first function that an earlier one already is. -/
theorem firstConflict_functionKeys_eq_some {rs : List Relationship} {cause : Cause} :
    firstConflict [] (functionKeys rs) = some cause ↔ ∃ p q, FirstAlike rs p q ∧
      cause = .conflict q.2.function
        (if p.1.setter = q.1.setter then [p.1.setter] else [p.1.setter, q.1.setter]) := by
  rw [firstConflict_eq_some, functionKeys_eq]
  have hnone : ∀ front : List (Relationship × Target),
      firstConflict [] (front.map keyOf) = none ↔ front.Pairwise fun a b => ¬ Alike a b := by
    intro front
    rw [firstConflict_eq_none, nodup_keys_iff]
    exact and_iff_left fun k _ => List.not_mem_nil
  constructor
  · rintro ⟨front', k, back', first, hsplit, hfront, hfirst, rfl⟩
    obtain ⟨front, rest, hrs, rfl, hrest⟩ := List.map_eq_append_iff.1 hsplit
    obtain ⟨q, back, rfl, rfl, rfl⟩ := List.map_eq_cons_iff.1 hrest
    rw [hnone] at hfront
    rw [List.nil_append, find?_eq_some_of_nodup (nodup_keys_iff.2 hfront)] at hfirst
    obtain ⟨p, hp, rfl⟩ := List.mem_map.1 hfirst.1
    exact ⟨p, q, ⟨front, back, hrs, hp, identity_keyOf.1 hfirst.2, hfront⟩, rfl⟩
  · rintro ⟨p, q, ⟨front, back, hrs, hp, halike, hfront⟩, rfl⟩
    refine ⟨front.map keyOf, keyOf q, back.map keyOf, keyOf p, ?_, (hnone front).2 hfront, ?_, rfl⟩
    · rw [hrs, List.map_append, List.map_cons]
    · rw [List.nil_append, find?_eq_some_of_nodup (nodup_keys_iff.2 hfront)]
      exact ⟨List.mem_map_of_mem hp, identity_keyOf.2 halike⟩

/-- Of two functions in order, the slots are in order too, or are one. -/
theorem slots_of_sublist {rs : List Relationship} {p q : Relationship × Target}
    (hpq : [p, q].Sublist (slotTargets rs)) : p.1 = q.1 ∨ [p.1, q.1].Sublist rs := by
  have hpairwise : (slotTargets rs).Pairwise fun p q => p.1 = q.1 ∨ [p.1, q.1].Sublist rs := by
    rw [slotTargets, List.pairwise_flatMap]
    constructor
    · intro r _
      rw [List.pairwise_map]
      exact List.pairwise_of_forall fun _ _ => .inl rfl
    · refine List.pairwise_iff_forall_sublist.2 fun {a b} hab p hp q hq => .inr ?_
      obtain ⟨t, -, rfl⟩ := List.mem_map.1 hp
      obtain ⟨u, -, rfl⟩ := List.mem_map.1 hq
      exact hab
  exact List.pairwise_iff_forall_sublist.1 hpairwise hpq

theorem FirstAlike.sublist {rs : List Relationship} {p q : Relationship × Target}
    (hf : FirstAlike rs p q) : [p, q].Sublist (slotTargets rs) := by
  obtain ⟨front, back, hrs, hp, -, -⟩ := hf
  rw [hrs, ← List.singleton_append (x := p)]
  exact (List.singleton_sublist.2 hp).append ((List.nil_sublist back).cons_cons q)

theorem fst_mem_of_mem_slotTargets {rs : List Relationship} {p : Relationship × Target}
    (hp : p ∈ slotTargets rs) : p.1 ∈ rs := by
  obtain ⟨r, hr, hp⟩ := List.mem_flatMap.1 hp
  obtain ⟨t, -, rfl⟩ := List.mem_map.1 hp
  exact hr

/-! ## 3. Faults of one slot -/

section

variable {h : Hierarchy} {slot : ChildSlot} {function : String} {setters : List String}

theorem elementType_ne_conflict {t : Types.TypeExpression} :
    elementType slot t ≠ .error (.conflict function setters) := by
  rw [elementType]
  split
  · split
    · simp
    · split <;> simp
    · simp
  · split <;> simp

theorem declaredClass_ne_conflict {declared : String} :
    declaredClass h slot declared ≠ .error (.conflict function setters) := by
  rw [declaredClass]
  split <;> simp

theorem targetClasses_ne_conflict {declared : h.Id} :
    targetClasses h slot declared ≠ .error (.conflict function setters) := by
  rw [targetClasses]
  split
  · simp
  · split <;> simp

theorem slotHeader_ne_conflict : slotHeader slot ≠ .error (.conflict function setters) := by
  intro he
  rw [slotHeader] at he
  cases hp : Name.propertyOfSetter? slot.setter with
  | none =>
    rw [hp] at he
    cases he
  | some accessor =>
    cases ht : Types.TypeExpression.parse slot.parameter with
    | error fault =>
      rw [hp, ht] at he
      cases he
    | ok t =>
      rw [hp, ht] at he
      exact elementType_ne_conflict (map_error.1 he)

/-- The reading of a slot has no conflict. -/
theorem readSlot_ne_conflict : readSlot h slot ≠ .error (.conflict function setters) := by
  intro he
  rw [readSlot_eq] at he
  rcases bind_error.1 he with he | ⟨header, -, he⟩
  · exact slotHeader_ne_conflict he
  · rcases bind_error.1 he with he | ⟨declared, -, he⟩
    · exact declaredClass_ne_conflict he
    · rcases bind_error.1 he with he | ⟨classes, -, he⟩
      · exact targetClasses_ne_conflict he
      · cases he

variable {package owner property : String}

theorem target_ne_conflict {c : h.Id} {name : String} :
    (target h package owner property c).result ≠ .error ⟨name, .conflict function setters⟩ := by
  rw [target]
  by_cases hc : (h.get c).isCreatable = true
  · rw [if_pos hc]
    simp
  · rw [if_neg hc]
    simp [Traced.ofExcept]

/-- The derivation of a relationship has no conflict. -/
theorem relationship_ne_conflict {name : String} :
    (relationship h package owner property slot).result ≠
      .error ⟨name, .conflict function setters⟩ := by
  intro he
  rw [relationship, Traced.result_bind] at he
  rcases bind_error.1 he with he | ⟨s, -, he⟩
  · obtain ⟨cause, hcause, e⟩ := mapError_error.1 he
    cases e
    exact readSlot_ne_conflict hcause
  · rw [Traced.result_bind] at he
    rcases bind_error.1 he with he | ⟨ts, -, he⟩
    · obtain ⟨c, -, hc⟩ := Traced.result_each_error he
      exact target_ne_conflict hc
    · cases he

end

/-! ## 4. Derivations -/

/-- **Each slot of a class derives a relationship**, in order. -/
def SlotsDerive (h : Hierarchy) (package : String) (i : h.Id) (rs : List Relationship) : Prop :=
  List.Forall₂ (fun slot r =>
    (relationship h package (h.builderName i) (propertyOf h i) slot).result = .ok r)
    (h.children i) rs

section

variable {h : Hierarchy} {package : String} {i : h.Id} {rs : List Relationship}

/-- A derivation ends in a conflict if all its slots derive and their functions have one. -/
theorem derive_conflict {owner function : String} {setters : List String} :
    (derive h package i).result = .error ⟨owner, .conflict function setters⟩ ↔
      owner = h.builderName i ∧ ∃ rs, SlotsDerive h package i rs ∧
        firstConflict [] (functionKeys rs) = some (.conflict function setters) := by
  rw [result_derive, bind_error, or_iff_right fun he => ?_]
  · constructor
    · rintro ⟨rs, hrs, he⟩
      cases hc : firstConflict [] (functionKeys rs) with
      | none =>
        rw [hc] at he
        cases he
      | some cause =>
        rw [hc] at he
        cases he
        exact ⟨rfl, rs, Traced.result_each_ok.1 hrs, hc⟩
    · rintro ⟨rfl, rs, hrs, hc⟩
      refine ⟨rs, Traced.result_each_ok.2 hrs, ?_⟩
      rw [hc]
  · obtain ⟨slot, -, hslot⟩ := Traced.result_each_error he
    exact relationship_ne_conflict hslot

/-- No two relationships of a class have one setter. -/
theorem SlotsDerive.nodup_setter (hrs : SlotsDerive h package i rs) :
    (rs.map Relationship.setter).Nodup := by
  have hsetters : (h.children i).map ChildSlot.setter = rs.map Relationship.setter := by
    rw [← List.forall₂_eq_eq_eq, List.forall₂_map_left_iff, List.forall₂_map_right_iff]
    refine hrs.imp fun slot r hr => ?_
    obtain ⟨s, -, -, rfl⟩ := relationship_ok.1 hr
    rfl
  rw [← hsetters]
  exact Hierarchy.nodup_keys_inherited h _ _ i

/-- A conflict names one setter for one slot, and those of two slots in their order. -/
theorem SlotsDerive.setters (hrs : SlotsDerive h package i rs) {p q : Relationship × Target}
    (hf : FirstAlike rs p q) {setters : List String} :
    setters = (if p.1.setter = q.1.setter then [p.1.setter] else [p.1.setter, q.1.setter]) ↔
      p.1 = q.1 ∧ setters = [p.1.setter] ∨
      p.1 ≠ q.1 ∧ [p.1, q.1].Sublist rs ∧ setters = [p.1.setter, q.1.setter] := by
  by_cases heq : p.1 = q.1
  · rw [if_pos (congrArg _ heq)]
    simp [heq]
  · have hmem : p ∈ slotTargets rs ∧ q ∈ slotTargets rs := by
      simpa using hf.sublist.subset
    have hsetter : p.1.setter ≠ q.1.setter := fun e => heq <|
      List.inj_on_of_nodup_map hrs.nodup_setter (fst_mem_of_mem_slotTargets hmem.1)
        (fst_mem_of_mem_slotTargets hmem.2) e
    have horder := (slots_of_sublist hf.sublist).resolve_left heq
    rw [if_neg hsetter]
    simp [heq, horder]

end

/-! ## 5. Compiled functions -/

/-- What a type is compiled to: a class that may be null or not, and one class for all lambdas. -/
def erasedType : TypeUse → String
  | .plain c _ => c.canonical
  | .receiverLambda _ => lambdaClass

/-- The name of a function, with the compiled types of its parameters. -/
def erasure (f : Function) : String × List String :=
  (f.name, f.parameters.map fun p => erasedType p.type)

/-- **The signature of a target is what the parameters of its function are compiled to.** -/
theorem erasure_childFunction (property : String) (r : Relationship) (t : Target) :
    erasure (childFunction property r t) = (t.function, t.signature) := by
  have hinit : (t.nested.map initParameter).toList.map (fun p => erasedType p.type) =
      (t.nested.map fun _ => lambdaClass).toList := by
    cases t.nested <;> rfl
  rw [erasure, childFunction, Target.signature, List.map_append, List.map_map, hinit]
  rfl

theorem erasure_functions (shape : Shape) : shape.functions.map erasure =
    (slotTargets shape.relationships).map fun p => (p.2.function, p.2.signature) := by
  rw [Shape.functions, slotTargets, List.map_flatMap, List.map_flatMap]
  simp only [List.map_map, Function.comp_def, erasure_childFunction]

/-- **A derivation ends in a conflict exactly if all slots derive and two functions are alike.** It
is the first function that an earlier one is, and it is told with the setters of both slots in their
order, or with the one setter if the slot is the same. So the functions of a shape are different as
they are compiled. -/
theorem conflict_iff_alike (h : Hierarchy) (package : String) (i : h.Id) :
    ((∃ owner function setters,
        (derive h package i).result = .error ⟨owner, .conflict function setters⟩) ↔
      ∃ rs, SlotsDerive h package i rs ∧
        ∃ p q, [p, q].Sublist (slotTargets rs) ∧ Alike p q) ∧
    (∀ owner function setters,
      (derive h package i).result = .error ⟨owner, .conflict function setters⟩ ↔
        owner = h.builderName i ∧ ∃ rs, SlotsDerive h package i rs ∧
          ∃ p q, FirstAlike rs p q ∧ function = q.2.function ∧
            (p.1 = q.1 ∧ setters = [p.1.setter] ∨
              p.1 ≠ q.1 ∧ [p.1, q.1].Sublist rs ∧ setters = [p.1.setter, q.1.setter])) ∧
    ∀ shape, (derive h package i).result = .ok shape →
      shape.functions.map erasure =
        (slotTargets shape.relationships).map (fun p => (p.2.function, p.2.signature)) ∧
      (shape.functions.map erasure).Nodup := by
  refine ⟨⟨?_, ?_⟩, fun owner function setters => ?_, fun shape hd => ?_⟩
  · rintro ⟨owner, function, setters, he⟩
    obtain ⟨-, rs, hrs, hc⟩ := derive_conflict.1 he
    obtain ⟨p, q, hf, -⟩ := firstConflict_functionKeys_eq_some.1 hc
    obtain ⟨front, back, -, -, halike, -⟩ := id hf
    exact ⟨rs, hrs, p, q, hf.sublist, halike⟩
  · rintro ⟨rs, hrs, p, q, hpq, halike⟩
    cases hc : firstConflict [] (functionKeys rs) with
    | none =>
      have hdifferent := firstConflict_functionKeys_eq_none.1 hc
      exact absurd halike (List.pairwise_iff_forall_sublist.1 hdifferent hpq)
    | some cause =>
      obtain ⟨p', q', -, rfl⟩ := firstConflict_functionKeys_eq_some.1 hc
      exact ⟨_, _, _, derive_conflict.2 ⟨rfl, rs, hrs, hc⟩⟩
  · rw [derive_conflict]
    refine and_congr_right fun _ => exists_congr fun rs => and_congr_right fun hrs => ?_
    rw [firstConflict_functionKeys_eq_some]
    refine exists_congr fun p => exists_congr fun q => and_congr_right fun hf => ?_
    rw [Cause.conflict.injEq, hrs.setters hf]
  · obtain ⟨rs, -, hc, rfl⟩ := derive_ok.1 hd
    refine ⟨erasure_functions _, ?_⟩
    rw [erasure_functions, List.Nodup, List.pairwise_map]
    simp only [ne_eq, Prod.mk.injEq]
    exact firstConflict_functionKeys_eq_none.1 hc

/-! ## 6. A kennel -/

/-- A kennel with guards and a pet, all of them dogs, and a walk with one dog. -/
def kennel : Manifest := ⟨Settings.default, [
  { HostClass.plain "p" "Kennel" with
    element := some "kennel", children := [⟨"setGuards", "List<Dog>"⟩, ⟨"setPet", "Dog"⟩] },
  { HostClass.plain "p" "Dog" with element := some "dog" },
  { HostClass.plain "p" "Walk" with element := some "walk", children := [⟨"setDog", "Dog"⟩] }]⟩

/-- The hierarchy of these classes. -/
def kennelHierarchy : Hierarchy := .ofLineages kennel.classes [[0], [1], [2]]

/-- The shape of the builder of the walk. -/
def walkShape : Shape := ⟨.topLevel "d" "WalkSpec", ⟨"p", ["Walk"]⟩, "walk",
  [⟨"setDog", "dog", false, "p.Dog", [⟨⟨"p", ["Dog"]⟩, "dog", "dog", [], none⟩]⟩]⟩

theorem build_kennel : Hierarchy.build kennel = .ok kennelHierarchy :=
  Hierarchy.build_of_lineages (by decide) (by decide) (by decide) rfl

theorem derive_walk : (derive kennelHierarchy "d" (2 : Fin 3)).result = .ok walkShape := by
  decide +kernel

theorem conflict_in_kennel :
    Hierarchy.build kennel = .ok kennelHierarchy ∧
    (derive kennelHierarchy "d" (0 : Fin 3)).result =
      .error ⟨"KennelSpec", .conflict "dog" ["setGuards", "setPet"]⟩ ∧
    (∃ rs, SlotsDerive kennelHierarchy "d" (0 : Fin 3) rs ∧
      ∃ p q, [p, q].Sublist (slotTargets rs) ∧ Alike p q) ∧
    (derive kennelHierarchy "d" (2 : Fin 3)).result = .ok walkShape ∧
    (walkShape.functions.map erasure).Nodup := by
  have hd : (derive kennelHierarchy "d" (0 : Fin 3)).result =
      .error ⟨"KennelSpec", .conflict "dog" ["setGuards", "setPet"]⟩ := by
    decide +kernel
  have halike := (conflict_iff_alike kennelHierarchy "d" (0 : Fin 3)).1.1 ⟨_, _, _, hd⟩
  have hwalk := (conflict_iff_alike kennelHierarchy "d" (2 : Fin 3)).2.2 _ derive_walk
  exact ⟨build_kennel, hd, halike, derive_walk, hwalk.2⟩

end BuilderGen.Builder
