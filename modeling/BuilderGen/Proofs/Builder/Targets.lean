import BuilderGen.Proofs.Builder.Usability
import BuilderGen.Proofs.Hierarchy.Names

/-!
# Which classes go into a slot

Into the slot for a declared class go the concrete elements below it, and if there are none, the
class itself. Each of them has one function, which bears the name of the element.

* `Expands`, `expands_of_standsFor`: the classes that a declared class stands for, in order;
* `Attachable`: when an instance of a class can be created and fits a slot;
* `created?`, `Creates`: of which class a function creates an instance, and under which name;
* `functions_of_relationships`: the functions of a relationship among those of a builder;
* `targets_of_derive`: the targets of a relationship, and its functions.
-/

namespace BuilderGen.Builder

open Relation
open BuilderGen.Hierarchy (Extends)
open BuilderGen.Schema (ChildSlot HostClass Manifest Settings)
open BuilderGen.Source (ClassRef Function)

/-! ## 1. Classes -/

section

variable (h : Hierarchy)

/-- **The classes that a declared class stands for, in the order of the schema**: all concrete
elements below it if there is one, and else the class itself. -/
structure Expands (d : h.Id) (classes : List h.Id) : Prop where
  inOrder : classes.Pairwise (· < ·)
  below : (∃ k, ConcreteBelow h d k) → ∀ k, k ∈ classes ↔ ConcreteBelow h d k
  itself : (¬ ∃ k, ConcreteBelow h d k) → classes = [d]

/-- **An instance of a class fits a slot for a declared one**: the class is the declared one or below
it, it is an element, and an instance of it can be created. -/
structure Attachable (d k : h.Id) : Prop where
  subtype : ReflTransGen (Extends h.classes) k d
  element : (h.get k).isElement = true
  creatable : (h.get k).isCreatable = true

end

section

variable {h : Hierarchy} {d : h.Id}

/-- A list of what a declared class stands for is complete. -/
theorem expands_of_standsFor {classes : List h.Id} (hsorted : classes.Pairwise (· < ·))
    (hmem : ∀ k, k ∈ classes ↔ StandsFor h d k) (hne : classes ≠ []) : Expands h d classes where
  inOrder := hsorted
  below := by
    intro hbelow k
    rw [hmem]
    refine ⟨fun hk => ?_, StandsFor.below⟩
    cases hk with
    | below hb => exact hb
    | itself hnone => exact absurd hbelow (not_exists.2 hnone)
  itself := by
    intro hnone
    have hself : ∀ k ∈ classes, k = d := by
      intro k hk
      have hstands := (hmem k).1 hk
      cases hstands with
      | below hb => exact absurd ⟨k, hb⟩ hnone
      | itself => rfl
    obtain ⟨k, rest, rfl⟩ := List.exists_cons_of_ne_nil hne
    obtain ⟨hk, hrest⟩ := List.forall_mem_cons.1 hself
    -- A second class would be the declared one once more, in front of itself.
    have hnil : rest = [] := by
      rw [List.eq_nil_iff_forall_not_mem]
      intro k' hk'
      have hlt : k < k' := (List.pairwise_cons.1 hsorted).1 k' hk'
      rw [hk, hrest k' hk'] at hlt
      exact lt_irrefl d hlt
    rw [hk, hnil]

/-- What a declared class stands for fits, if it can be created. -/
theorem StandsFor.attachable {k : h.Id} (hk : StandsFor h d k) (hc : (h.get k).isCreatable = true) :
    Attachable h d k := by
  cases hk with
  | below hb => exact ⟨hb.1.to_reflTransGen, hb.2.1, hc⟩
  | itself _ he => exact ⟨.refl, he, hc⟩

end

/-! ## 2. Functions -/

/-- The class of which a function creates an instance: the first that its body mentions. -/
def created? (f : Function) : Option ClassRef := (f.body.flatMap fun s => s.code.refs).head?

/-- **A function creates instances of a class**, and has the name of the element. -/
structure Creates (h : Hierarchy) (k : h.Id) (f : Function) : Prop where
  name : ∃ element, (h.get k).element = some element ∧ f.name = Name.escape element
  created : created? f = some (h.classRef k)

/-- The function for an element creates instances of it. -/
theorem creates_childFunction {h : Hierarchy} {package property : String} {k : h.Id}
    (r : Relationship) (he : (h.get k).isElement = true) :
    Creates h k (childFunction property r (targetOf h package property k)) where
  name := by
    obtain ⟨element, hk⟩ := Option.isSome_iff_exists.1 he
    refine ⟨element, hk, ?_⟩
    show Name.escape ((h.get k).element.getD (h.get k).name) = Name.escape element
    rw [hk, Option.getD_some]
  created := by
    have hhost : (targetOf h package property k).host = h.classRef k := by rw [targetOf]
    rw [← hhost]
    unfold created? childFunction creation
    cases (targetOf h package property k).attributes.isEmpty <;> rfl

/-- The functions of a relationship stand between those of the relationships around it. -/
theorem functions_of_relationships {shape : Shape} {front back : List Relationship}
    {r : Relationship} (hrs : shape.relationships = front ++ r :: back) : shape.functions =
      { shape with relationships := front }.functions ++
        r.targets.map (childFunction shape.property r) ++
          { shape with relationships := back }.functions := by
  unfold Shape.functions
  rw [hrs, List.flatMap_append, List.flatMap_cons, List.append_assoc]

/-! ## 3. Relationships -/

/-- **What a relationship offers**: a target for each class that its declared class stands for, in
order, and no class twice. -/
structure Offers (h : Hierarchy) (d : h.Id) (classes : List h.Id) (r : Relationship) : Prop where
  declared : ∀ j, (h.get j).qualifiedName = r.declared ↔ j = d
  expands : Expands h d classes
  attachable : ∀ k ∈ classes, Attachable h d k
  targets : r.targets.map Target.host = classes.map h.classRef
  nodup : (r.targets.map Target.host).Nodup

/-- **Each relationship of a shape has one target for each class that its declared class stands
for.** The functions of the relationship stand side by side among those of the builder, one for each
of these classes, in their order and under the names of the elements. -/
theorem targets_of_derive {m : Manifest} {h : Hierarchy} (hm : Hierarchy.build m = .ok h)
    {package : String} {i : h.Id} {shape : Shape} (hd : (derive h package i).result = .ok shape)
    {r : Relationship} (hr : r ∈ shape.relationships) :
    ∃ d classes, (∃ slot ∈ h.children i, slot.setter = r.setter ∧ Declares h slot d r.repeatable) ∧
      Offers h d classes r ∧
      ∀ front back, shape.relationships = front ++ r :: back →
        ∃ fs, List.Forall₂ (Creates h) classes fs ∧ shape.functions =
          { shape with relationships := front }.functions ++ fs ++
            { shape with relationships := back }.functions := by
  have hv := Hierarchy.valid_of_build hm
  obtain ⟨slot, hslot, hrel⟩ := exists_slot_of_relationship hd hr
  obtain ⟨s, hread, hcreatable, hrs⟩ := relationship_ok.1 hrel
  obtain ⟨hdeclares, hsorted, hmem⟩ := readSlot_ok hv (hasSetter_of_mem_children hv hslot) hread
  obtain ⟨hne, helement⟩ := classes_of_readSlot hread
  have htargets : r.targets = s.classes.map (targetOf h package shape.property) := by rw [hrs]
  have hhosts : r.targets.map Target.host = s.classes.map h.classRef := by
    rw [htargets, List.map_map]
    rfl
  have hdeclared : r.declared = (h.get s.declared).qualifiedName := by rw [hrs]
  refine ⟨s.declared, s.classes, ⟨slot, hslot, ?_, ?_⟩, ?_, ?_⟩
  · rw [hrs]
  · rw [hrs]
    exact hdeclares
  · exact {
      declared := fun j => by
        rw [hdeclared]
        exact ⟨fun e => hv.qualifiedName_injective e, congrArg fun k => (h.get k).qualifiedName⟩
      expands := expands_of_standsFor hsorted hmem hne
      attachable := fun k hk => ((hmem k).1 hk).attachable (hcreatable k hk)
      targets := hhosts
      nodup := by
        have hclasses : s.classes.Nodup := hsorted.imp fun hlt => ne_of_lt hlt
        rw [hhosts]
        exact hclasses.map hv.classRef_injective }
  · intro front back hsplit
    refine ⟨_, ?_, functions_of_relationships hsplit⟩
    rw [htargets, List.map_map, List.forall₂_map_right_iff, List.forall₂_same]
    exact fun k hk => creates_childFunction r (helement k hk)

/-! ## 4. A gallery -/

/-- A gallery with works. An etching is a painting and a print, both of which are works; a print is
no element, and a painting is abstract. The element of the frescos is named by a keyword. -/
def gallery : Manifest := ⟨Settings.default, [
  { HostClass.plain "p" "Gallery" with
    element := some "gallery", children := [⟨"setWorks", "List<Work>"⟩, ⟨"setBench", "Bench"⟩] },
  { HostClass.plain "p" "Etching" with
    element := some "etching", supertypes := ["Painting", "Print"] },
  { HostClass.plain "p" "Work" with isAbstract := true },
  { HostClass.plain "p" "Painting" with
    element := some "painting", isAbstract := true, supertypes := ["Work"] },
  { HostClass.plain "p" "Print" with supertypes := ["Work"] },
  { HostClass.plain "p" "Fresco" with element := some "object", supertypes := ["Painting"] },
  { HostClass.plain "p" "Bench" with element := some "bench" }]⟩

/-- The hierarchy of these classes. -/
def galleryHierarchy : Hierarchy :=
  .ofLineages gallery.classes [[0], [2, 3, 4, 1], [2], [2, 3], [2, 4], [2, 3, 5], [6]]

/-- The slot of the works. -/
def worksSlot : Relationship := ⟨"setWorks", "works", true, "p.Work",
  [⟨⟨"p", ["Etching"]⟩, "etching", "etching", [], none⟩,
    ⟨⟨"p", ["Fresco"]⟩, "\x60object\x60", "fresco", [], none⟩]⟩

/-- The slot of the bench. -/
def benchSlot : Relationship :=
  ⟨"setBench", "bench", false, "p.Bench", [⟨⟨"p", ["Bench"]⟩, "bench", "bench", [], none⟩]⟩

/-- The shape of the builder of the gallery. -/
def galleryShape : Shape :=
  ⟨.topLevel "d" "GallerySpec", ⟨"p", ["Gallery"]⟩, "gallery", [worksSlot, benchSlot]⟩

theorem build_gallery : Hierarchy.build gallery = .ok galleryHierarchy :=
  Hierarchy.build_of_lineages (by decide) (by decide) (by decide) rfl

theorem derive_gallery :
    (derive galleryHierarchy "d" (0 : Fin 7)).result = .ok galleryShape := by
  decide +kernel

/-- The works are etchings and frescos, and the name of the function for a fresco is escaped. -/
theorem targets_in_gallery :
    Hierarchy.build gallery = .ok galleryHierarchy ∧
    (derive galleryHierarchy "d" (0 : Fin 7)).result = .ok galleryShape ∧
    worksSlot ∈ galleryShape.relationships ∧
    galleryShape.relationships = [] ++ worksSlot :: [benchSlot] ∧
    galleryShape.functions.map Function.name = ["etching", "\x60object\x60", "bench"] ∧
    ∃ d classes, (∃ slot ∈ galleryHierarchy.children (0 : Fin 7), slot.setter = worksSlot.setter ∧
        Declares galleryHierarchy slot d worksSlot.repeatable) ∧
      Offers galleryHierarchy d classes worksSlot ∧
      ∃ fs, List.Forall₂ (Creates galleryHierarchy) classes fs ∧ galleryShape.functions =
        { galleryShape with relationships := [] }.functions ++ fs ++
          { galleryShape with relationships := [benchSlot] }.functions := by
  have hr : worksSlot ∈ galleryShape.relationships := List.mem_cons_self
  obtain ⟨d, classes, hslot, hoffers, hfunctions⟩ :=
    targets_of_derive build_gallery derive_gallery hr
  exact ⟨build_gallery, derive_gallery, hr, rfl, rfl, d, classes, hslot, hoffers,
    hfunctions [] [benchSlot] rfl⟩

end BuilderGen.Builder
