import BuilderGen.Proofs.Hierarchy.Ancestry

/-!
# The element that an entry point means

The root of a configuration need not be an element. It is configured by the builder of the element
that is nearest to it, and this one is looked for from the end of the lineage. Since no class stands
there in front of its ancestors, the search passes over no element that is more specific than the one
it finds.

* `nearestElement_eq_some`, `nearestElement_eq_none`: what the search finds;
* `Configures`, `configures_of_nearestElement`: what the found element is to the root;
* `entryPoint_eq_ok`, `exists_entryPoint_iff`: when an entry point has a root and an element.
-/

namespace BuilderGen.Hierarchy

open Relation
open BuilderGen.Schema

/-! ## 1. The nearest element -/

section

variable {h : Hierarchy} {root element : h.Id}

/-- The nearest element is the last one of the lineage. -/
theorem nearestElement_eq_some : h.nearestElement root = some element ↔
    (h.get element).isElement = true ∧ ∃ front back, h.lineage root = front ++ element :: back ∧
      ∀ a ∈ back, (h.get a).isElement = false := by
  have hback : ∀ back : List h.Id,
      (∀ a ∈ back, (!(h.get a).isElement) = true) ↔ ∀ a ∈ back, (h.get a).isElement = false := by
    intro back
    simp only [Bool.not_eq_true']
  unfold nearestElement
  rw [List.find?_eq_some_iff_append]
  refine and_congr_right fun _ => ?_
  constructor
  · intro h
    obtain ⟨back, front, e, hnone⟩ := h
    have hlineage := congrArg List.reverse e
    refine ⟨front.reverse, back.reverse, by simpa using hlineage, ?_⟩
    exact fun a ha => (hback back).1 hnone a (List.mem_reverse.1 ha)
  · intro h
    obtain ⟨front, back, e, hnone⟩ := h
    refine ⟨back.reverse, front.reverse, ?_, ?_⟩
    · rw [e]
      simp
    · exact fun a ha => (hback back).2 hnone a (List.mem_reverse.1 ha)

/-- There is none exactly if no class of the lineage is an element. -/
theorem nearestElement_eq_none :
    h.nearestElement root = none ↔ ∀ a ∈ h.lineage root, (h.get a).isElement = false := by
  unfold nearestElement
  rw [List.find?_eq_none]
  simp only [List.mem_reverse, Bool.not_eq_true]

theorem exists_nearestElement_iff :
    (∃ element, h.nearestElement root = some element) ↔
      ∃ a ∈ h.lineage root, (h.get a).isElement = true := by
  rw [← Option.isSome_iff_exists, ← Option.ne_none_iff_isSome, ne_eq, nearestElement_eq_none]
  simp only [not_forall, Bool.not_eq_false, exists_prop]

end

/-- **What the element of an entry point is to the root**: the root itself if this is an element, and
else an ancestor of the root that is one, with no element between the two. -/
structure Configures (h : Hierarchy) (root element : h.Id) : Prop where
  isElement : (h.get element).isElement = true
  mem_lineage : element ∈ h.lineage root
  /-- An instance of the root is one of the element. -/
  ancestor : ReflTransGen (Extends h.classes) root element
  itself : (h.get root).isElement = true → element = root
  /-- No element of the lineage is more specific. -/
  nearest : ∀ d ∈ h.lineage root, (h.get d).isElement = true →
    ¬ TransGen (Extends h.classes) d element

section

variable {h : Hierarchy} (hv : h.Valid) {root element : h.Id}
include hv

/-- Behind a class of a lineage stand all classes of the lineage that extend it. -/
theorem Valid.mem_back_of_lineage {front back : List h.Id} {d : h.Id}
    (e : h.lineage root = front ++ element :: back) (hd : d ∈ h.lineage root)
    (hbelow : TransGen (Extends h.classes) d element) : d ∈ back := by
  have hnodup := hv.nodup_lineage root
  rw [e] at hd hnodup
  obtain ⟨-, -, hdisjoint⟩ := List.nodup_append.1 hnodup
  rcases List.mem_append.1 hd with hfront | hd
  · -- The element would stand in front of `d` once more.
    obtain ⟨before, after, rfl⟩ := List.append_of_mem hfront
    have hsplit : h.lineage root = before ++ d :: (after ++ element :: back) := by
      rw [e, List.append_assoc, List.cons_append]
    have hagain := hv.mem_front_of_lineage hsplit hbelow
    exact absurd rfl (hdisjoint element (List.mem_append_left _ hagain) element List.mem_cons_self)
  · rcases List.mem_cons.1 hd with rfl | hback
    · exact absurd hbelow (hv.wellFormed.acyclic d)
    · exact hback

/-- The nearest element configures the root. -/
theorem configures_of_nearestElement (hn : h.nearestElement root = some element) :
    Configures h root element := by
  obtain ⟨helement, front, back, e, hnone⟩ := nearestElement_eq_some.1 hn
  have hmem : element ∈ h.lineage root := by
    rw [e]
    exact List.mem_append_right _ List.mem_cons_self
  have hancestor := hv.mem_lineage.1 hmem
  have hnearest : ∀ d ∈ h.lineage root, (h.get d).isElement = true →
      ¬ TransGen (Extends h.classes) d element := by
    intro d hd hdelement hbelow
    have hfalse := hnone d (hv.mem_back_of_lineage e hd hbelow)
    rw [hdelement] at hfalse
    cases hfalse
  refine ⟨helement, hmem, hancestor, fun hroot => ?_, hnearest⟩
  -- A root that is an element would itself be a more specific one.
  rcases reflTransGen_iff_eq_or_transGen.1 hancestor with rfl | hbelow
  · rfl
  · exact absurd hbelow (hnearest root (hv.mem_lineage.2 .refl) hroot)

end

/-! ## 2. Entry points -/

section

variable {h : Hierarchy} {e : EntryPoint} {root : h.Id}

/-- An entry point means a root that can be created, and the element nearest to it. -/
theorem entryPoint_eq_ok {element : h.Id} : h.entryPoint e = .ok (root, element) ↔
    h.resolve? e.root = .ok root ∧ h.nearestElement root = some element ∧
      (h.get root).isCreatable = true := by
  unfold entryPoint
  cases hr : h.resolve? e.root with
  | error fault => simp
  | ok root' =>
    dsimp only
    cases hn : h.nearestElement root' with
    | none =>
      refine iff_of_false nofun fun hp => ?_
      obtain ⟨hroot, hsome, -⟩ := hp
      cases hroot
      rw [hn] at hsome
      cases hsome
    | some element' =>
      dsimp only
      constructor
      · intro hp
        by_cases hc : (h.get root').isCreatable = true
        · rw [if_pos hc] at hp
          cases hp
          exact ⟨rfl, hn, hc⟩
        · rw [if_neg hc] at hp
          cases hp
      · intro hp
        obtain ⟨hroot, hsome, hc⟩ := hp
        cases hroot
        rw [hn] at hsome
        cases hsome
        rw [if_pos hc]

/-- **When an entry point has a root**: its reference means it, an element is among the classes of
its lineage, and it is neither abstract nor without a constructor. -/
theorem exists_entryPoint_iff : (∃ element, h.entryPoint e = .ok (root, element)) ↔
    h.resolve? e.root = .ok root ∧ (∃ a ∈ h.lineage root, (h.get a).isElement = true) ∧
      (h.get root).isAbstract = false ∧ (h.get root).defaultConstructible = true := by
  have hcreatable : (h.get root).isCreatable = true ↔
      (h.get root).isAbstract = false ∧ (h.get root).defaultConstructible = true := by
    rw [HostClass.isCreatable, Bool.and_eq_true, Bool.not_eq_true']
  simp only [entryPoint_eq_ok, exists_and_left, exists_and_right, exists_nearestElement_iff,
    hcreatable]

end

end BuilderGen.Hierarchy
