import BuilderGen.Proofs.Builder.Slots
import BuilderGen.Proofs.Text.Segments

/-!
# Which slots take collections

A slot takes any number of elements if its parameter is a collection, and one element otherwise. A
collection is told by its name alone: one of nine names, by itself or behind the package of the
collections. A package further down passes for this one.

* `IsCollectionName`, `IsDeeperName`: the names of collections, and those that are taken for them;
* `isCollection_iff`: which names these are, for any text;
* `TakenAsCollection`, `TakenAsPlain`: what a slot comes to in the two cases;
* `repeatable_iff_named`: when a slot takes a collection.
-/

namespace BuilderGen.Builder

open BuilderGen.Log (Traced)
open BuilderGen.Result
open BuilderGen.Schema (ChildSlot HostClass Manifest Settings)
open BuilderGen.Types (TypeExpression)

/-! ## 1. Names -/

/-- **The name of a collection**, by itself or behind its package. -/
def IsCollectionName (name : String) : Prop :=
  ∃ simple ∈ TypeExpression.collectionNames, name = simple ∨ name = "java.util." ++ simple

/-- The name of a collection behind a package that is further down. -/
def IsDeeperName (name : String) : Prop :=
  ∃ simple ∈ TypeExpression.collectionNames, ∃ package,
    name = "java.util." ++ package ++ "." ++ simple

theorem dot_not_mem_of_mem_collectionNames {simple : String}
    (h : simple ∈ TypeExpression.collectionNames) : '.' ∉ simple.toList := by
  have hall : ∀ s ∈ TypeExpression.collectionNames, '.' ∉ s.toList := by decide
  exact hall simple h

/-- The two kinds of names have nothing in common. -/
theorem IsDeeperName.not_isCollectionName {name : String} (h : IsDeeperName name) :
    ¬ IsCollectionName name := by
  obtain ⟨simple, -, package, rfl⟩ := h
  rintro ⟨other, hother, e | e⟩
  · apply dot_not_mem_of_mem_collectionNames hother
    rw [← e]
    simp
  · apply dot_not_mem_of_mem_collectionNames hother
    rw [String.append_assoc, String.append_assoc, String.append_right_inj] at e
    rw [← e]
    simp

/-- A name is foreign unless it has no package, or starts with that of the collections. -/
theorem isForeign_eq_false_iff {name : String} : TypeExpression.isForeign name = false ↔
    '.' ∉ name.toList ∨ ∃ rest, name = "java.util." ++ rest := by
  have hprefix : "java.util.".toList <+: name.toList ↔ ∃ rest, name = "java.util." ++ rest := by
    constructor
    · rintro ⟨rest, hrest⟩
      exact ⟨String.ofList rest, String.toList_injective (by simp [← hrest])⟩
    · rintro ⟨rest, rfl⟩
      exact ⟨rest.toList, String.toList_append.symm⟩
  rw [TypeExpression.isForeign, ← hprefix, ← List.isPrefixOf_iff_prefix]
  simp [imp_iff_not_or]

/-- **The names that are taken for collections are those of collections and the deeper ones.** -/
theorem isCollection_iff {t : TypeExpression} :
    t.isCollection = true ↔ IsCollectionName t.name ∨ IsDeeperName t.name := by
  have hpackage (rest : String) : "java.util." ++ rest = "java.util" ++ "." ++ rest := rfl
  rw [TypeExpression.isCollection, Bool.and_eq_true, Bool.not_eq_true', isForeign_eq_false_iff,
    List.contains_iff_mem, TypeExpression.simpleName]
  constructor
  · rintro ⟨hdot | ⟨rest, hrest⟩, hsimple⟩
    · rw [Text.lastSegment_of_not_mem hdot] at hsimple
      exact .inl ⟨_, hsimple, .inl rfl⟩
    · rw [hrest, hpackage, Text.lastSegment_append] at hsimple
      rcases Text.eq_lastSegment_or rest with hlast | ⟨front, hlast⟩
      · exact .inl ⟨_, hsimple, .inr (by rw [hrest, ← hlast])⟩
      · refine .inr ⟨_, hsimple, front, ?_⟩
        calc t.name = "java.util." ++ rest := hrest
          _ = "java.util." ++ (front ++ "." ++ Text.lastSegment rest) :=
            congrArg ("java.util." ++ ·) hlast
          _ = "java.util." ++ front ++ "." ++ Text.lastSegment rest := by
            simp only [String.append_assoc]
  · rintro (⟨simple, hsimple, e | e⟩ | ⟨simple, hsimple, package, e⟩)
    · have hdot := dot_not_mem_of_mem_collectionNames hsimple
      rw [e, Text.lastSegment_of_not_mem hdot]
      exact ⟨.inl hdot, hsimple⟩
    · have hdot := dot_not_mem_of_mem_collectionNames hsimple
      refine ⟨.inr ⟨simple, e⟩, ?_⟩
      rw [e, hpackage, (Text.lastSegment_eq_iff hdot).2 (.inr ⟨_, rfl⟩)]
      exact hsimple
    · have hdot := dot_not_mem_of_mem_collectionNames hsimple
      refine ⟨.inr ⟨package ++ "." ++ simple, by rw [e]; simp only [String.append_assoc]⟩, ?_⟩
      rw [e, (Text.lastSegment_eq_iff hdot).2 (.inr ⟨_, rfl⟩)]
      exact hsimple

/-! ## 2. Slots -/

/-- **What a slot comes to if its type is taken for a collection**: elements that are added, or a
fault of the arguments. -/
inductive TakenAsCollection (slot : ChildSlot) : Except Cause (String × Bool) → Prop where
  | elements (name : String) : TakenAsCollection slot (.ok (name, true))
  | raw : TakenAsCollection slot (.error (.rawCollection slot.setter slot.parameter))
  | nested : TakenAsCollection slot (.error (.unsupported slot.setter slot.parameter .nestedGeneric))
  | several :
    TakenAsCollection slot (.error (.unsupported slot.setter slot.parameter .severalArguments))

/-- **What a slot comes to if its type is taken for a plain one**: an element that is set, or a fault
because it has arguments. -/
inductive TakenAsPlain (slot : ChildSlot) : Except Cause (String × Bool) → Prop where
  | element (name : String) : TakenAsPlain slot (.ok (name, false))
  | arguments (name : String) :
    TakenAsPlain slot (.error (.unsupported slot.setter slot.parameter (.notACollection name)))

section

variable {slot : ChildSlot} {t : TypeExpression}

theorem TakenAsCollection.not_takenAsPlain {outcome : Except Cause (String × Bool)}
    (h : TakenAsCollection slot outcome) : ¬ TakenAsPlain slot outcome := by
  intro hplain
  cases h <;> cases hplain

theorem takenAsCollection_of_isCollection (h : t.isCollection = true) :
    TakenAsCollection slot (elementType slot t) := by
  cases he : elementType slot t with
  | ok found =>
    obtain ⟨name, repeatable⟩ := found
    cases elementType_ok.1 he with
    | one hc =>
      rw [h] at hc
      cases hc
    | many _ => exact .elements name
  | error cause =>
    cases elementType_error.1 he with
    | raw _ => exact .raw
    | nested _ _ => exact .nested
    | several _ _ => exact .several
    | arguments hc _ =>
      rw [h] at hc
      cases hc

theorem takenAsPlain_of_isCollection (h : t.isCollection = false) :
    TakenAsPlain slot (elementType slot t) := by
  cases he : elementType slot t with
  | ok found =>
    obtain ⟨name, repeatable⟩ := found
    cases elementType_ok.1 he with
    | one _ => exact .element name
    | many hc =>
      rw [h] at hc
      cases hc
  | error cause =>
    cases elementType_error.1 he with
    | arguments _ _ => exact .arguments _
    | raw hc | nested hc _ | several hc _ =>
      rw [h] at hc
      cases hc

/-- A slot is taken in one of the two ways, as its type says. -/
theorem takenAsCollection_iff :
    TakenAsCollection slot (elementType slot t) ↔ t.isCollection = true := by
  refine ⟨fun h => ?_, takenAsCollection_of_isCollection⟩
  by_contra hc
  exact h.not_takenAsPlain (takenAsPlain_of_isCollection (Bool.eq_false_iff.2 hc))

theorem takenAsPlain_iff : TakenAsPlain slot (elementType slot t) ↔ t.isCollection = false := by
  refine ⟨fun h => ?_, takenAsPlain_of_isCollection⟩
  by_contra hc
  exact (takenAsCollection_of_isCollection (Bool.eq_true_of_not_eq_false hc)).not_takenAsPlain h

variable {h : Hierarchy} {package owner property : String}
  (ht : TypeExpression.parse slot.parameter = .ok t)
include ht

/-- The relationship of a slot takes over what its type comes to. -/
theorem elementType_of_relationship {r : Relationship}
    (hr : (relationship h package owner property slot).result = .ok r) :
    ∃ name, elementType slot t = .ok (name, r.repeatable) := by
  obtain ⟨s, hread, -, rfl⟩ := relationship_ok.1 hr
  rw [readSlot_eq] at hread
  obtain ⟨⟨accessor, name, repeatable⟩, hheader, hread⟩ := bind_ok.1 hread
  obtain ⟨declared, -, hread⟩ := bind_ok.1 hread
  obtain ⟨classes, -, hread⟩ := bind_ok.1 hread
  cases hread
  rw [slotHeader] at hheader
  split at hheader
  · cases hheader
  · rw [ht] at hheader
    obtain ⟨found, hfound, e⟩ := map_ok.1 hheader
    cases e
    exact ⟨_, hfound⟩

/-- The fault of a type is that of the relationship. -/
theorem relationship_error_of_elementType (hs : HasSetter slot) {cause : Cause}
    (he : elementType slot t = .error cause) :
    (relationship h package owner property slot).result = .error ⟨owner, cause⟩ := by
  obtain ⟨word, hword⟩ := Option.isSome_iff_exists.1 hs
  have hheader : slotHeader slot = .error cause := by
    rw [slotHeader, hword, ht]
    exact map_error.2 he
  have hread : readSlot h slot = .error cause := by
    rw [readSlot_eq]
    exact bind_error.2 (.inl hheader)
  rw [relationship, Traced.result_bind]
  exact bind_error.2 (.inl (mapError_error.2 ⟨cause, hread, rfl⟩))

end

/-- **When a slot takes a collection.** A slot whose parameter can be read is taken for a collection
exactly if the name of its type is that of a collection or a deeper one, which is none, and for a
plain type otherwise. Its relationship is repeatable, or fails, accordingly. -/
theorem repeatable_iff_named {slot : ChildSlot} {t : TypeExpression}
    (ht : TypeExpression.parse slot.parameter = .ok t) :
    (TakenAsCollection slot (elementType slot t) ↔
      IsCollectionName t.name ∨ IsDeeperName t.name) ∧
    (TakenAsPlain slot (elementType slot t) ↔
      ¬ IsCollectionName t.name ∧ ¬ IsDeeperName t.name) ∧
    (IsDeeperName t.name → ¬ IsCollectionName t.name) ∧
    ∀ (h : Hierarchy) (package owner property : String),
      (∀ r, (relationship h package owner property slot).result = .ok r →
        (r.repeatable = true ↔ IsCollectionName t.name ∨ IsDeeperName t.name)) ∧
      (HasSetter slot → ∀ cause, elementType slot t = .error cause →
        (relationship h package owner property slot).result = .error ⟨owner, cause⟩) := by
  refine ⟨?_, ?_, IsDeeperName.not_isCollectionName, fun h package owner property =>
    ⟨fun r hr => ?_, fun hs cause => relationship_error_of_elementType ht hs⟩⟩
  · rw [takenAsCollection_iff, isCollection_iff]
  · rw [takenAsPlain_iff, Bool.eq_false_iff, ne_eq, isCollection_iff, not_or]
  · obtain ⟨name, hname⟩ := elementType_of_relationship ht hr
    have htakes : TakenAsCollection slot (elementType slot t) ↔ t.isCollection = true :=
      takenAsCollection_iff
    rw [← isCollection_iff, ← htakes, hname]
    constructor
    · intro hrepeatable
      rw [hrepeatable]
      exact .elements name
    · intro htaken
      cases hr' : r.repeatable with
      | true => rfl
      | false =>
        rw [hr'] at htaken
        cases htaken

/-! ## 3. A crate -/

/-- A slot for items, in a list whose package lies below that of the collections. -/
def listSlot : ChildSlot := ⟨"setItem", "java.util.concurrent.List<Item>"⟩

/-- The type of the list, as it is read. -/
def listOfItems : TypeExpression := .mk "java.util.concurrent.List" [.mk "Item" []]

/-- A slot for a set, which names no type for its elements. -/
def setSlot : ChildSlot := ⟨"setItem", "java.util.Set"⟩

/-- A crate for items. -/
def crate : Manifest := ⟨Settings.default, [
  { HostClass.plain "p" "Crate" with element := some "crate", children := [listSlot] },
  { HostClass.plain "p" "Item" with element := some "item" }]⟩

/-- The hierarchy of these classes. -/
def crateHierarchy : Hierarchy := .ofLineages crate.classes [[0], [1]]

/-- The relationship of the crate to its items. -/
def itemSlot : Relationship :=
  ⟨"setItem", "item", true, "p.Item", [⟨⟨"p", ["Item"]⟩, "item", "item", [], none⟩]⟩

theorem build_crate : Hierarchy.build crate = .ok crateHierarchy :=
  Hierarchy.build_of_lineages (by decide) (by decide) (by decide) rfl

theorem parse_listSlot : TypeExpression.parse listSlot.parameter = .ok listOfItems := by
  cbv

/-- The slot is read step by step: its setter, its type, the class of the items. -/
theorem readSlot_listSlot :
    readSlot crateHierarchy listSlot = .ok ⟨"item", true, (1 : Fin 2), [(1 : Fin 2)]⟩ := by
  have hword : Name.propertyOfSetter? listSlot.setter = some "item" := rfl
  have hasks : elementType listSlot listOfItems = .ok ("Item", true) := rfl
  have hheader : slotHeader listSlot = .ok ("item", "Item", true) := by
    rw [slotHeader, hword, parse_listSlot]
    exact map_ok.2 ⟨_, hasks, rfl⟩
  have hdeclared : declaredClass crateHierarchy listSlot "Item" = .ok (1 : Fin 2) := rfl
  have hclasses : targetClasses crateHierarchy listSlot (1 : Fin 2) = .ok [(1 : Fin 2)] := rfl
  rw [readSlot_eq]
  exact bind_ok.2 ⟨_, hheader, bind_ok.2 ⟨_, hdeclared, bind_ok.2 ⟨_, hclasses, rfl⟩⟩⟩

theorem relationship_listSlot :
    (relationship crateHierarchy "d" "CrateSpec" "crate" listSlot).result = .ok itemSlot :=
  relationship_ok.2 ⟨_, readSlot_listSlot, by decide, rfl⟩

/-- The items are added to the list, although it is none of the collections. -/
theorem repeatable_in_crate :
    Hierarchy.build crate = .ok crateHierarchy ∧
    listSlot ∈ crateHierarchy.children (0 : Fin 2) ∧
    TypeExpression.parse listSlot.parameter = .ok listOfItems ∧
    ¬ IsCollectionName listOfItems.name ∧
    (relationship crateHierarchy "d" "CrateSpec" "crate" listSlot).result = .ok itemSlot ∧
    itemSlot.repeatable = true := by
  have hname : ¬ IsCollectionName listOfItems.name := by
    simp [IsCollectionName, TypeExpression.collectionNames, listOfItems, TypeExpression.name]
  exact ⟨build_crate, by decide, parse_listSlot, hname, relationship_listSlot, rfl⟩

/-- The name of the list is a deeper one. A set is a collection, and refused without an argument. -/
theorem named_in_crate :
    TypeExpression.parse listSlot.parameter = .ok listOfItems ∧
    (relationship crateHierarchy "d" "CrateSpec" "crate" listSlot).result = .ok itemSlot ∧
    (IsCollectionName listOfItems.name ∨ IsDeeperName listOfItems.name) ∧
    ¬ IsCollectionName listOfItems.name ∧
    TypeExpression.parse setSlot.parameter = .ok (.mk "java.util.Set" []) ∧
    HasSetter setSlot ∧
    IsCollectionName "java.util.Set" ∧
    (relationship crateHierarchy "d" "CrateSpec" "crate" setSlot).result =
      .error ⟨"CrateSpec", .rawCollection "setItem" "java.util.Set"⟩ := by
  have hdeeper : IsDeeperName listOfItems.name := ⟨"List", by decide, "concurrent", by decide⟩
  obtain ⟨-, -, hnone, hlist⟩ := repeatable_iff_named parse_listSlot
  have hparse : TypeExpression.parse setSlot.parameter = .ok (.mk "java.util.Set" []) := by cbv
  have hword : (Name.propertyOfSetter? setSlot.setter).isSome = true := rfl
  have hsetter : HasSetter setSlot := hword
  have hraw : elementType setSlot (.mk "java.util.Set" []) =
      .error (.rawCollection "setItem" "java.util.Set") := rfl
  obtain ⟨-, -, -, hset⟩ := repeatable_iff_named hparse
  exact ⟨parse_listSlot, relationship_listSlot,
    ((hlist crateHierarchy "d" "CrateSpec" "crate").1 _ relationship_listSlot).1 rfl,
    hnone hdeeper, hparse, hsetter, ⟨"Set", by decide, .inr rfl⟩,
    (hset crateHierarchy "d" "CrateSpec" "crate").2 hsetter _ hraw⟩

end BuilderGen.Builder
