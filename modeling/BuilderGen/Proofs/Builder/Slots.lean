import BuilderGen.Proofs.Builder.Conflicts
import BuilderGen.Proofs.Hierarchy.Ancestry

/-!
# Which slots can be used

What it takes to use a slot is said here without the derivation: the parameter asks for a type, the
name of the type means one class, this class stands for at least one element, and each class that it
stands for can be created.

* `Asks`, `Declares`, `StandsFor`, `Usable`: when a slot can be used;
* `Fills`: what the relationship of a slot holds;
* `Refused`: why a slot cannot be used, one rule for each way to fail;
* `readSlot_ok`, `refused_of_readSlot_error`: what the reading of a slot comes to;
* `relationship_ok_iff`, `relationship_error_iff`: a relationship is derived for exactly the slots
  that can be used, and fails with what the slot is refused for;
* `not_usable_iff`: a slot is refused exactly if it cannot be used.
-/

namespace BuilderGen.Builder

open Relation
open BuilderGen.Hierarchy (Extends candidates spellings)
open BuilderGen.Log (Traced)
open BuilderGen.Result
open BuilderGen.Schema (ChildSlot HostClass)
open BuilderGen.Types (TypeExpression)

/-! ## 1. Slots that can be used -/

/-- **What a type expression asks for**: one element of a type that is told by its name alone, or
any number of them if such a type is the one argument of a collection. -/
inductive Asks : TypeExpression → String → Bool → Prop where
  | one {name : String} :
      (TypeExpression.mk name []).isCollection = false → Asks (.mk name []) name false
  | many {collection name : String} :
      (TypeExpression.mk collection [.mk name []]).isCollection = true →
      Asks (.mk collection [.mk name []]) name true

section

variable (h : Hierarchy)

/-- A class is a concrete element below another one. -/
def ConcreteBelow (j k : h.Id) : Prop :=
  TransGen (Extends h.classes) k j ∧ (h.get k).isElement = true ∧ (h.get k).isAbstract = false

/-- **What a declared class stands for**: the concrete elements below it, or the class itself if
there are none and it is an element. -/
inductive StandsFor (j : h.Id) : h.Id → Prop where
  | below {k : h.Id} : ConcreteBelow h j k → StandsFor j k
  | itself : (∀ k, ¬ ConcreteBelow h j k) → (h.get j).isElement = true → StandsFor j j

/-- A class that stands for something has concrete elements below it, or is an element. -/
theorem StandsFor.exists_below_or_isElement {j k : h.Id} (hk : StandsFor h j k) :
    (∃ k, ConcreteBelow h j k) ∨ (h.get j).isElement = true := by
  cases hk with
  | below hb => exact .inl ⟨k, hb⟩
  | itself _ he => exact .inr he

/-- **A slot declares a class**: its parameter asks for a type whose name spells this class and no
other. -/
def Declares (slot : ChildSlot) (j : h.Id) (repeatable : Bool) : Prop :=
  ∃ t name, TypeExpression.parse slot.parameter = .ok t ∧ Asks t name repeatable ∧
    ∀ k, Text.trim name ∈ spellings (h.get k) ↔ k = j

/-- **A slot can be used**: it declares a class that has concrete elements below it or is an element
itself, and each class that this one stands for can be created. -/
def Usable (slot : ChildSlot) : Prop :=
  ∃ j repeatable, Declares h slot j repeatable ∧
    ((∃ k, ConcreteBelow h j k) ∨ (h.get j).isElement = true) ∧
    ∀ k, StandsFor h j k → (h.get k).isCreatable = true

/-- A slot takes the classes that its declared class stands for. -/
def Takes (slot : ChildSlot) (k : h.Id) : Prop :=
  ∃ j repeatable, Declares h slot j repeatable ∧ StandsFor h j k

/-- **What a relationship holds**: the setter of the slot, the class that it declares, and the
classes that this one stands for, in the order of the schema. There is at least one. -/
structure Fills (slot : ChildSlot) (r : Relationship) : Prop where
  setter : r.setter = slot.setter
  declares : ∃ j, Declares h slot j r.repeatable ∧ r.declared = (h.get j).qualifiedName
  takes : ∃ classes : List h.Id, classes.Pairwise (· < ·) ∧ (∀ k, k ∈ classes ↔ Takes h slot k) ∧
    r.targets.map Target.host = classes.map h.classRef
  targets : r.targets ≠ []

end

/-! ## 2. Slots that are refused -/

/-- Why a type expression asks for nothing. -/
inductive RefusedType (slot : ChildSlot) : TypeExpression → Cause → Prop where
  | raw {name : String} : (TypeExpression.mk name []).isCollection = true →
      RefusedType slot (.mk name []) (.rawCollection slot.setter slot.parameter)
  | nested {name element : String} {args : List TypeExpression} :
      (TypeExpression.mk name [.mk element args]).isCollection = true → args ≠ [] →
      RefusedType slot (.mk name [.mk element args])
        (.unsupported slot.setter slot.parameter .nestedGeneric)
  | several {name : String} {args : List TypeExpression} :
      (TypeExpression.mk name args).isCollection = true → 2 ≤ args.length →
      RefusedType slot (.mk name args)
        (.unsupported slot.setter slot.parameter .severalArguments)
  | arguments {name : String} {args : List TypeExpression} :
      (TypeExpression.mk name args).isCollection = false → args ≠ [] →
      RefusedType slot (.mk name args)
        (.unsupported slot.setter slot.parameter (.notACollection name))

/-- Why no instance of a class can be created, if none can. -/
def reasonOf (c : HostClass) : NotCreatable := if c.isAbstract then .isAbstract else .noConstructor

/-- **Why a slot cannot be used.** The classes that its declared class stands for are looked at in
the order of the schema. -/
inductive Refused (h : Hierarchy) (slot : ChildSlot) : Cause → Prop where
  | malformed {fault : Types.TypeFault} : TypeExpression.parse slot.parameter = .error fault →
      Refused h slot (.unsupported slot.setter slot.parameter (.malformed fault))
  | type {t : TypeExpression} {cause : Cause} : TypeExpression.parse slot.parameter = .ok t →
      RefusedType slot t cause → Refused h slot cause
  | unknown {t : TypeExpression} {name : String} {repeatable : Bool} :
      TypeExpression.parse slot.parameter = .ok t → Asks t name repeatable →
      (∀ k, Text.trim name ∉ spellings (h.get k)) → Refused h slot (.unknownType slot.setter name)
  | ambiguous {t : TypeExpression} {name : String} {repeatable : Bool} :
      TypeExpression.parse slot.parameter = .ok t → Asks t name repeatable →
      2 ≤ (candidates h.classes (Text.trim name)).length →
      Refused h slot (.unsupported slot.setter slot.parameter (.ambiguous name
        ((candidates h.classes (Text.trim name)).map fun k => (h.get k).qualifiedName)))
  | notAnElement {j : h.Id} {repeatable : Bool} : Declares h slot j repeatable →
      (∀ k, ¬ ConcreteBelow h j k) → (h.get j).isElement = false →
      Refused h slot (.notAnElement slot.setter (h.get j).qualifiedName)
  | notCreatable {j k : h.Id} {repeatable : Bool} : Declares h slot j repeatable →
      StandsFor h j k → (h.get k).isCreatable = false →
      (∀ k', StandsFor h j k' → k' < k → (h.get k').isCreatable = true) →
      Refused h slot (.notCreatable (h.get k).qualifiedName (reasonOf (h.get k)))

/-! ## 3. What a slot tells by itself -/

section

variable {slot : ChildSlot} {t : TypeExpression} {name : String} {repeatable : Bool}
  {cause : Cause}

/-- The element type is what the type expression asks for. -/
theorem elementType_ok : elementType slot t = .ok (name, repeatable) ↔ Asks t name repeatable := by
  obtain ⟨collection, args⟩ := t
  constructor
  · intro he
    rw [elementType] at he
    cases hc : (TypeExpression.mk collection args).isCollection with
    | true =>
      rw [if_pos hc] at he
      cases args with
      | nil => cases he
      | cons a rest =>
        obtain ⟨element, inner⟩ := a
        cases rest with
        | nil =>
          cases inner with
          | nil =>
            cases he
            exact .many hc
          | cons b inner => cases he
        | cons b rest => cases he
    | false =>
      rw [if_neg (Bool.eq_false_iff.1 hc)] at he
      cases args with
      | nil =>
        cases he
        exact .one hc
      | cons a rest => cases he
  · intro ha
    cases ha with
    | one hc =>
      rw [elementType, if_neg (Bool.eq_false_iff.1 hc)]
      rfl
    | many hc =>
      rw [elementType, if_pos hc]
      rfl

theorem elementType_error : elementType slot t = .error cause ↔ RefusedType slot t cause := by
  obtain ⟨collection, args⟩ := t
  constructor
  · intro he
    rw [elementType] at he
    cases hc : (TypeExpression.mk collection args).isCollection with
    | true =>
      rw [if_pos hc] at he
      cases args with
      | nil =>
        cases he
        exact .raw hc
      | cons a rest =>
        obtain ⟨element, inner⟩ := a
        cases rest with
        | nil =>
          cases inner with
          | nil => cases he
          | cons b inner =>
            cases he
            exact .nested hc (List.cons_ne_nil b inner)
        | cons b rest =>
          cases he
          exact .several hc (Nat.le_add_left 2 rest.length)
    | false =>
      rw [if_neg (Bool.eq_false_iff.1 hc)] at he
      cases args with
      | nil => cases he
      | cons a rest =>
        cases he
        exact .arguments hc (List.cons_ne_nil a rest)
  · intro hr
    cases hr with
    | raw hc =>
      rw [elementType, if_pos hc]
      rfl
    | nested hc hne =>
      rename_i element rest
      rw [elementType, if_pos hc]
      cases rest with
      | nil => exact absurd rfl hne
      | cons a rest => rfl
    | several hc hl =>
      rw [elementType, if_pos hc]
      rcases args with _ | ⟨a, _ | ⟨b, rest⟩⟩
      · simp at hl
      · simp at hl
      · rfl
    | arguments hc hne =>
      rw [elementType, if_neg (Bool.eq_false_iff.1 hc)]
      cases args with
      | nil => exact absurd rfl hne
      | cons a rest => rfl

/-- What follows holds of slots whose setter is one. -/
def HasSetter (slot : ChildSlot) : Prop := (Name.propertyOfSetter? slot.setter).isSome = true

theorem slotHeader_ok (hs : HasSetter slot) :
    (∃ accessor, slotHeader slot = .ok (accessor, name, repeatable)) ↔
      ∃ t, TypeExpression.parse slot.parameter = .ok t ∧ Asks t name repeatable := by
  obtain ⟨property, hp⟩ := Option.isSome_iff_exists.1 hs
  rw [slotHeader, hp]
  cases TypeExpression.parse slot.parameter with
  | error fault => simp
  | ok t =>
    simp only [map_ok, Except.ok.injEq, exists_eq_left']
    constructor
    · rintro ⟨accessor, ⟨declared, several⟩, he, e⟩
      cases e
      exact elementType_ok.1 he
    · intro hasks
      exact ⟨_, _, elementType_ok.2 hasks, rfl⟩

theorem slotHeader_error (hs : HasSetter slot) : slotHeader slot = .error cause ↔
    (∃ fault, TypeExpression.parse slot.parameter = .error fault ∧
      cause = .unsupported slot.setter slot.parameter (.malformed fault)) ∨
    ∃ t, TypeExpression.parse slot.parameter = .ok t ∧ RefusedType slot t cause := by
  obtain ⟨property, hp⟩ := Option.isSome_iff_exists.1 hs
  rw [slotHeader, hp]
  cases TypeExpression.parse slot.parameter with
  | error fault => simp [eq_comm]
  | ok t => simp [map_error, elementType_error]

end

/-! ## 4. Classes in slots -/

section

variable {h : Hierarchy} {slot : ChildSlot} {name : String} {j : h.Id} {cause : Cause}

theorem declaredClass_ok :
    declaredClass h slot name = .ok j ↔ ∀ k, Text.trim name ∈ spellings (h.get k) ↔ k = j := by
  have hresolve : h.resolve? name = .ok j ↔
      ∀ k, Text.trim name ∈ spellings (h.get k) ↔ k = j := Hierarchy.resolve_ok
  rw [← hresolve, declaredClass]
  cases h.resolve? name with
  | ok i => simp only [Except.ok.injEq]
  | error fault => cases fault <;> simp

theorem declaredClass_error : declaredClass h slot name = .error cause ↔
    (∀ k, Text.trim name ∉ spellings (h.get k)) ∧ cause = .unknownType slot.setter name ∨
    2 ≤ (candidates h.classes (Text.trim name)).length ∧
      cause = .unsupported slot.setter slot.parameter (.ambiguous name
        ((candidates h.classes (Text.trim name)).map fun k => (h.get k).qualifiedName)) := by
  have hmissing : h.resolve? name = .error .missing ↔
      ∀ k, Text.trim name ∉ spellings (h.get k) := Hierarchy.resolve_missing
  have hambiguous : ∀ names, h.resolve? name = .error (.ambiguous names) ↔
      2 ≤ (candidates h.classes (Text.trim name)).length ∧ names =
        (candidates h.classes (Text.trim name)).map fun k => (h.get k).qualifiedName :=
    fun names => Hierarchy.resolve_ambiguous
  constructor
  · intro he
    rw [declaredClass] at he
    cases hr : h.resolve? name with
    | ok i =>
      rw [hr] at he
      cases he
    | error fault =>
      rw [hr] at he
      cases fault with
      | missing =>
        cases he
        exact .inl ⟨hmissing.1 hr, rfl⟩
      | ambiguous names =>
        cases he
        obtain ⟨hl, rfl⟩ := (hambiguous names).1 hr
        exact .inr ⟨hl, rfl⟩
  · rintro (⟨hm, rfl⟩ | ⟨hl, rfl⟩)
    · rw [declaredClass, hmissing.2 hm]
    · rw [declaredClass, (hambiguous _).2 ⟨hl, rfl⟩]

variable (hv : h.Valid)
include hv

theorem mem_concreteElements {k : h.Id} : k ∈ concreteElements h j ↔ ConcreteBelow h j k := by
  have hbelow : k ∈ h.subtypes j ↔ TransGen (Extends h.classes) k j := by
    rw [hv.mem_subtypes, hv.mem_lineage, reflTransGen_iff_eq_or_transGen]
    constructor
    · rintro ⟨hne, e | ht⟩
      · exact absurd e.symm hne
      · exact ht
    · intro ht
      refine ⟨?_, .inr ht⟩
      rintro rfl
      exact hv.wellFormed.acyclic k ht
  rw [concreteElements, List.mem_filter, hbelow, ConcreteBelow]
  simp

/-- **The classes in a slot are those that the declared class stands for**, in the order of the
schema. -/
theorem targetClasses_ok {classes : List h.Id} (ht : targetClasses h slot j = .ok classes) :
    classes.Pairwise (· < ·) ∧ ∀ k, k ∈ classes ↔ StandsFor h j k := by
  have hmem : ∀ k, k ∈ concreteElements h j ↔ ConcreteBelow h j k :=
    fun k => mem_concreteElements hv
  rw [targetClasses] at ht
  by_cases hn : concreteElements h j = []
  · have hnone : ∀ k, ¬ ConcreteBelow h j k := fun k hk => by
      rw [← hmem, hn] at hk
      cases hk
    rw [if_neg (by simp [hn])] at ht
    by_cases he : (h.get j).isElement = true
    · rw [if_pos he] at ht
      cases ht
      refine ⟨List.pairwise_singleton _ j, fun k => List.mem_singleton.trans ⟨?_, fun hk => ?_⟩⟩
      · rintro rfl
        exact .itself hnone he
      · cases hk with
        | below hb => exact absurd hb (hnone k)
        | itself => rfl
    · rw [if_neg he] at ht
      cases ht
  · rw [if_pos (by simp [hn])] at ht
    cases ht
    refine ⟨(hv.pairwise_subtypes j).filter _, fun k => (hmem k).trans ⟨.below, fun hk => ?_⟩⟩
    cases hk with
    | below hb => exact hb
    | itself hnone =>
      exact absurd (List.eq_nil_iff_forall_not_mem.2 fun k hk => hnone k ((hmem k).1 hk)) hn

theorem exists_targetClasses : (∃ classes, targetClasses h slot j = .ok classes) ↔
    (∃ k, ConcreteBelow h j k) ∨ (h.get j).isElement = true := by
  have hmem : (∃ k, ConcreteBelow h j k) ↔ concreteElements h j ≠ [] := by
    rw [ne_eq, List.eq_nil_iff_forall_not_mem, not_forall]
    simp only [mem_concreteElements hv, not_not]
  rw [hmem, targetClasses]
  by_cases hn : concreteElements h j = []
  · by_cases he : (h.get j).isElement = true
    · simp [hn, he]
    · simp [hn, he]
  · simp [hn]

theorem targetClasses_error : targetClasses h slot j = .error cause ↔
    (∀ k, ¬ ConcreteBelow h j k) ∧ (h.get j).isElement = false ∧
      cause = .notAnElement slot.setter (h.get j).qualifiedName := by
  have hmem : (∀ k, ¬ ConcreteBelow h j k) ↔ concreteElements h j = [] := by
    simp only [← mem_concreteElements hv, List.eq_nil_iff_forall_not_mem]
  rw [hmem, targetClasses]
  by_cases hn : concreteElements h j = []
  · by_cases he : (h.get j).isElement = true
    · simp [hn, he]
    · simp [hn, he, eq_comm]
  · simp [hn]

end

/-! ## 5. Reading a slot -/

section

variable {h : Hierarchy} (hv : h.Valid) {slot : ChildSlot} (hs : HasSetter slot)
include hv hs

/-- A slot that is read declares a class, and takes what this class stands for. -/
theorem readSlot_ok {s : Slot h} (hr : readSlot h slot = .ok s) :
    Declares h slot s.declared s.repeatable ∧ s.classes.Pairwise (· < ·) ∧
      ∀ k, k ∈ s.classes ↔ StandsFor h s.declared k := by
  rw [readSlot_eq] at hr
  obtain ⟨⟨accessor, name, repeatable⟩, hheader, hr⟩ := bind_ok.1 hr
  obtain ⟨declared, hd, hr⟩ := bind_ok.1 hr
  obtain ⟨classes, hc, hr⟩ := bind_ok.1 hr
  cases hr
  obtain ⟨t, ht, hasks⟩ := (slotHeader_ok hs).1 ⟨accessor, hheader⟩
  exact ⟨⟨t, name, ht, hasks, declaredClass_ok.1 hd⟩, targetClasses_ok hv hc⟩

/-- A slot can be read if it declares a class that stands for something. -/
theorem exists_readSlot {j : h.Id} {repeatable : Bool} (hd : Declares h slot j repeatable)
    (hj : (∃ k, ConcreteBelow h j k) ∨ (h.get j).isElement = true) :
    ∃ s, readSlot h slot = .ok s ∧ s.declared = j ∧ s.repeatable = repeatable := by
  obtain ⟨t, name, ht, hasks, hj'⟩ := hd
  obtain ⟨accessor, hheader⟩ := (slotHeader_ok hs).2 ⟨t, ht, hasks⟩
  obtain ⟨classes, hc⟩ : ∃ classes, targetClasses h slot j = .ok classes :=
    (exists_targetClasses hv).2 hj
  refine ⟨⟨accessor, repeatable, j, classes⟩, ?_, rfl, rfl⟩
  rw [readSlot_eq]
  exact bind_ok.2 ⟨_, hheader, bind_ok.2 ⟨_, declaredClass_ok.2 hj', bind_ok.2 ⟨_, hc, rfl⟩⟩⟩

/-- A slot that cannot be read is refused. -/
theorem refused_of_readSlot_error {cause : Cause} (hr : readSlot h slot = .error cause) :
    Refused h slot cause := by
  rw [readSlot_eq] at hr
  rcases bind_error.1 hr with hr | ⟨⟨accessor, name, repeatable⟩, hheader, hr⟩
  · rcases (slotHeader_error hs).1 hr with ⟨fault, ht, rfl⟩ | ⟨t, ht, hr⟩
    · exact .malformed ht
    · exact .type ht hr
  · obtain ⟨t, ht, hasks⟩ := (slotHeader_ok hs).1 ⟨accessor, hheader⟩
    rcases bind_error.1 hr with hr | ⟨declared, hd, hr⟩
    · rcases declaredClass_error.1 hr with ⟨hm, rfl⟩ | ⟨hl, rfl⟩
      · exact .unknown ht hasks hm
      · exact .ambiguous ht hasks hl
    · rcases bind_error.1 hr with hr | ⟨classes, -, hr⟩
      · obtain ⟨hb, he, rfl⟩ := (targetClasses_error hv).1 hr
        exact .notAnElement ⟨t, name, ht, hasks, declaredClass_ok.1 hd⟩ hb he
      · cases hr

/-- A slot that is refused cannot be read, or takes a class that cannot be created. -/
theorem Refused.readSlot_error {cause : Cause} (hr : Refused h slot cause) :
    readSlot h slot = .error cause ∨ ∃ s k, readSlot h slot = .ok s ∧ k ∈ s.classes ∧
      (h.get k).isCreatable = false ∧ (∀ k' ∈ s.classes, k' < k → (h.get k').isCreatable = true) ∧
      cause = .notCreatable (h.get k).qualifiedName (reasonOf (h.get k)) := by
  rw [readSlot_eq]
  cases hr with
  | malformed ht => exact .inl (bind_error.2 (.inl ((slotHeader_error hs).2 (.inl ⟨_, ht, rfl⟩))))
  | type ht hr => exact .inl (bind_error.2 (.inl ((slotHeader_error hs).2 (.inr ⟨_, ht, hr⟩))))
  | unknown ht hasks hm =>
    obtain ⟨accessor, hheader⟩ := (slotHeader_ok hs).2 ⟨_, ht, hasks⟩
    exact .inl (bind_error.2 (.inr ⟨_, hheader,
      bind_error.2 (.inl (declaredClass_error.2 (.inl ⟨hm, rfl⟩)))⟩))
  | ambiguous ht hasks hl =>
    obtain ⟨accessor, hheader⟩ := (slotHeader_ok hs).2 ⟨_, ht, hasks⟩
    exact .inl (bind_error.2 (.inr ⟨_, hheader,
      bind_error.2 (.inl (declaredClass_error.2 (.inr ⟨hl, rfl⟩)))⟩))
  | notAnElement hd hb he =>
    obtain ⟨t, name, ht, hasks, hj⟩ := hd
    obtain ⟨accessor, hheader⟩ := (slotHeader_ok hs).2 ⟨t, ht, hasks⟩
    exact .inl (bind_error.2 (.inr ⟨_, hheader, bind_error.2 (.inr ⟨_, declaredClass_ok.2 hj,
      bind_error.2 (.inl ((targetClasses_error hv).2 ⟨hb, he, rfl⟩))⟩)⟩))
  | notCreatable hd hk hc hfirst =>
    obtain ⟨s, hread, rfl, rfl⟩ := exists_readSlot hv hs hd hk.exists_below_or_isElement
    have hmem := (readSlot_ok hv hs hread).2.2
    rw [readSlot_eq] at hread
    exact .inr ⟨s, _, hread, (hmem _).2 hk, hc, fun k' hk' => hfirst k' ((hmem k').1 hk'), rfl⟩

end

/-! ## 6. Relationships -/

section

variable {h : Hierarchy} {package owner property : String}

theorem target_error {k : h.Id} {name : String} {cause : Cause} :
    (target h package owner property k).result = .error ⟨name, cause⟩ ↔ name = owner ∧
      (h.get k).isCreatable = false ∧
      cause = .notCreatable (h.get k).qualifiedName (reasonOf (h.get k)) := by
  rw [target]
  by_cases hc : (h.get k).isCreatable = true
  · rw [if_pos hc]
    simp [hc]
  · rw [if_neg hc]
    constructor
    · intro he
      cases he
      exact ⟨rfl, Bool.eq_false_iff.2 hc, rfl⟩
    · rintro ⟨rfl, -, rfl⟩
      rfl

/-- Of classes in order, the first one that cannot be created stops the derivation. -/
theorem targets_error {classes : List h.Id} (hsorted : classes.Pairwise (· < ·)) {name : String}
    {cause : Cause} :
    (Traced.each (target h package owner property) classes).result = .error ⟨name, cause⟩ ↔
      name = owner ∧ ∃ k ∈ classes, (h.get k).isCreatable = false ∧
        (∀ k' ∈ classes, k' < k → (h.get k').isCreatable = true) ∧
        cause = .notCreatable (h.get k).qualifiedName (reasonOf (h.get k)) := by
  rw [Traced.result_each_eq_error]
  constructor
  · rintro ⟨front, k, back, rfl, hfront, hk⟩
    obtain ⟨rfl, hc, rfl⟩ := target_error.1 hk
    refine ⟨rfl, k, List.mem_append_right _ List.mem_cons_self, hc, fun k' hk' hlt => ?_, rfl⟩
    rcases List.mem_append.1 hk' with hk' | hk'
    · obtain ⟨t, ht⟩ := hfront k' hk'
      exact (target_ok.1 ht).1
    · -- No class from `k` on is in front of `k`.
      rcases List.mem_cons.1 hk' with rfl | hk'
      · exact absurd hlt (lt_irrefl _)
      · have hback := (List.pairwise_cons.1 (List.pairwise_append.1 hsorted).2.1).1 k' hk'
        exact absurd hlt (lt_asymm hback)
  · rintro ⟨rfl, k, hk, hc, hfirst, rfl⟩
    obtain ⟨front, back, rfl⟩ := List.append_of_mem hk
    refine ⟨front, k, back, rfl, fun k' hk' => ?_, target_error.2 ⟨rfl, hc, rfl⟩⟩
    have hlt := (List.pairwise_append.1 hsorted).2.2 k' hk' k List.mem_cons_self
    exact ⟨_, target_ok.2 ⟨hfirst k' (List.mem_append_left _ hk') hlt, rfl⟩⟩

variable (hv : h.Valid) {slot : ChildSlot} (hs : HasSetter slot)
include hv hs

/-- **A relationship is derived for exactly the slots that can be used.** -/
theorem relationship_ok_iff :
    (∃ r, (relationship h package owner property slot).result = .ok r) ↔ Usable h slot := by
  constructor
  · rintro ⟨r, hr⟩
    obtain ⟨s, hread, hc, -⟩ := relationship_ok.1 hr
    obtain ⟨hd, -, hmem⟩ := readSlot_ok hv hs hread
    obtain ⟨k, hk⟩ := List.exists_mem_of_ne_nil _ (classes_of_readSlot hread).1
    exact ⟨s.declared, s.repeatable, hd, ((hmem k).1 hk).exists_below_or_isElement,
      fun k' hk' => hc k' ((hmem k').2 hk')⟩
  · rintro ⟨j, repeatable, hd, hj, hc⟩
    obtain ⟨s, hread, rfl, rfl⟩ := exists_readSlot hv hs hd hj
    have hmem := (readSlot_ok hv hs hread).2.2
    exact ⟨_, relationship_ok.2 ⟨s, hread, fun k hk => hc k ((hmem k).1 hk), rfl⟩⟩

/-- **A relationship fails with exactly what its slot is refused for.** -/
theorem relationship_error_iff {name : String} {cause : Cause} :
    (relationship h package owner property slot).result = .error ⟨name, cause⟩ ↔
      name = owner ∧ Refused h slot cause := by
  rw [relationship, Traced.result_bind, bind_error]
  constructor
  · rintro (he | ⟨s, hread, he⟩)
    · obtain ⟨cause', hread, e⟩ := mapError_error.1 he
      cases e
      exact ⟨rfl, refused_of_readSlot_error hv hs hread⟩
    · obtain ⟨hd, hsorted, hmem⟩ := readSlot_ok hv hs (mapError_ok.1 hread)
      rw [Traced.result_bind] at he
      rcases bind_error.1 he with he | ⟨ts, -, he⟩
      · obtain ⟨rfl, k, hk, hc, hfirst, rfl⟩ := (targets_error hsorted).1 he
        exact ⟨rfl, .notCreatable hd ((hmem k).1 hk) hc fun k' hk' => hfirst k' ((hmem k').2 hk')⟩
      · cases he
  · rintro ⟨rfl, hr⟩
    rcases hr.readSlot_error hv hs with hread | ⟨s, k, hread, hk, hc, hfirst, rfl⟩
    · exact .inl (mapError_error.2 ⟨cause, hread, rfl⟩)
    · have hsorted := (readSlot_ok hv hs hread).2.1
      refine .inr ⟨s, mapError_ok.2 hread, ?_⟩
      rw [Traced.result_bind]
      exact bind_error.2 (.inl ((targets_error hsorted).2 ⟨rfl, k, hk, hc, hfirst, rfl⟩))

/-- Each slot can be used or is refused, and not both. -/
theorem not_usable_iff : ¬ Usable h slot ↔ ∃ cause, Refused h slot cause := by
  have hok : (∃ r, (relationship h "" "" "" slot).result = .ok r) ↔ Usable h slot :=
    relationship_ok_iff hv hs
  rw [← hok]
  cases hr : (relationship h "" "" "" slot).result with
  | ok r =>
    refine iff_of_false (not_not_intro ⟨r, rfl⟩) ?_
    rintro ⟨cause, hc⟩
    have he : (relationship h "" "" "" slot).result = .error ⟨"", cause⟩ :=
      (relationship_error_iff hv hs).2 ⟨rfl, hc⟩
    rw [hr] at he
    cases he
  | error fault =>
    refine iff_of_true (fun ⟨r, e⟩ => nomatch e) ⟨fault.cause, ?_⟩
    exact ((relationship_error_iff hv hs).1 hr).2

end

end BuilderGen.Builder
