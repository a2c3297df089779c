import BuilderGen.Proofs.Hierarchy.Ancestry

/-!
# Two hierarchies side by side

What a class inherits is read from the classes of its lineage, wherever they stand in the schema. So
a class has the same members in two hierarchies if the classes of its lineages are the same.

* `Alike`: a class of one hierarchy and one of another that are the same, with the same ancestors;
* `Alike.inherited`, `Alike.takesElements`, `Alike.sampled`: what is read from both;
* `lineage_of_parents`: lineages go along with a renaming that the parents go along with, and
  `nearestElement_of_lineage`: so do the elements nearest to their classes.
-/

namespace BuilderGen

open BuilderGen.Schema

/-! ## 1. Lineages along a renaming -/

namespace Lineage

theorem map_appendNew {α β : Type} [DecidableEq α] [DecidableEq β] {f : α → β}
    (hf : Function.Injective f) (order rest : List α) :
    (appendNew order rest).map f = appendNew (order.map f) (rest.map f) := by
  induction rest generalizing order with
  | nil => rfl
  | cons a rest ih =>
    rw [List.map_cons, appendNew, appendNew]
    by_cases ha : a ∈ order
    · rw [if_pos ha, if_pos (List.mem_map_of_mem ha), ih]
    · rw [if_neg ha, if_neg (fun h => ha ((List.mem_map_of_injective hf).1 h)), ih, List.map_append]
      rfl

theorem map_foldl_appendNew {α β : Type} [DecidableEq α] [DecidableEq β] {f : α → β}
    (hf : Function.Injective f) (order : List α) (rests : List (List α)) :
    (rests.foldl appendNew order).map f =
      (rests.map (List.map f)).foldl appendNew (order.map f) := by
  induction rests generalizing order with
  | nil => rfl
  | cons l rests ih => rw [List.map_cons, List.foldl_cons, List.foldl_cons, ih, map_appendNew hf]

/-- A lineage takes new names with those of the parents. -/
theorem map_lineageFrom {n k : Nat} {f : Fin n → Fin k} (hf : Function.Injective f)
    (ls : List (List (Fin n))) (i : Fin n) :
    (lineageFrom ls i).map f = lineageFrom (ls.map (List.map f)) (f i) := by
  rw [lineageFrom, lineageFrom, List.map_append, map_foldl_appendNew hf]
  rfl

end Lineage

namespace Hierarchy

/-- **Lineages move along with their classes if the parents do.** -/
theorem lineage_of_parents {h h' : Hierarchy} (hv : h.Valid) (hv' : h'.Valid)
    {place : h.Id ≃ h'.Id}
    (hp : ∀ i, parents h'.classes (place i) = (parents h.classes i).map place) (i : h.Id) :
    h'.lineage (place i) = (h.lineage i).map place := by
  induction i using hv.wellFounded.induction with
  | _ i ih =>
    rw [hv.lineage_eq, hv'.lineage_eq, Lineage.map_lineageFrom place.injective, hp, List.map_map,
      List.map_map]
    congr 1
    exact List.map_congr_left fun p hpi => ih p (mem_parents.1 hpi)

/-- The nearest element moves along with the lineage. -/
theorem nearestElement_of_lineage {h h' : Hierarchy} {place : h.Id ≃ h'.Id} {i : h.Id}
    (hl : h'.lineage (place i) = (h.lineage i).map place)
    (he : ∀ a, (h'.get (place a)).isElement = (h.get a).isElement) :
    h'.nearestElement (place i) = (h.nearestElement i).map place := by
  rw [nearestElement, nearestElement, hl, ← List.map_reverse, List.find?_map]
  simp only [Function.comp_def, he]

/-! ## 2. Classes with the same ancestors -/

/-- The classes of a lineage. -/
def ancestry (h : Hierarchy) (i : h.Id) : List HostClass := (h.lineage i).map h.get

/-- **A class of one hierarchy and a class of another are the same**, and so are their ancestors. -/
structure Alike (h : Hierarchy) (i : h.Id) (h' : Hierarchy) (i' : h'.Id) : Prop where
  get : h'.get i' = h.get i
  ancestry : h'.ancestry i' = h.ancestry i

theorem inherited_eq {α : Type} (h : Hierarchy) (key : α → String) (members : HostClass → List α)
    (i : h.Id) : h.inherited key members i =
      ((h.ancestry i).flatMap members).foldl (fun all m => override key m all) [] := by
  rw [inherited, ancestry, List.flatMap_map]

theorem takesElements_eq (h : Hierarchy) (i : h.Id) :
    h.takesElements i = (h.ancestry i).any fun c => !c.children.isEmpty := by
  rw [Hierarchy.takesElements, ancestry, List.any_map]
  rfl

theorem sampled_eq (h : Hierarchy) (table : Sample → List (String × Data.Value)) (name : String)
    (i : h.Id) : h.sampled table name i =
      (h.ancestry i).reverse.findSome? fun c => (table c.sample).lookup name := by
  rw [Hierarchy.sampled, ancestry, ← List.map_reverse, List.findSome?_map]
  rfl

namespace Alike

variable {h h' : Hierarchy} {i : h.Id} {i' : h'.Id} (ha : Alike h i h' i')
include ha

theorem inherited {α : Type} (key : α → String) (members : HostClass → List α) :
    h'.inherited key members i' = h.inherited key members i := by
  rw [inherited_eq, inherited_eq, ha.ancestry]

theorem attributes : h'.attributes i' = h.attributes i := ha.inherited _ _

theorem children : h'.children i' = h.children i := ha.inherited _ _

theorem takesElements : h'.takesElements i' = h.takesElements i := by
  rw [takesElements_eq, takesElements_eq, ha.ancestry]

theorem sampled (table : Sample → List (String × Data.Value)) (name : String) :
    h'.sampled table name i' = h.sampled table name i := by
  rw [sampled_eq, sampled_eq, ha.ancestry]

theorem builderName : h'.builderName i' = h.builderName i := by
  rw [Hierarchy.builderName, Hierarchy.builderName, ha.get]

theorem classRef : h'.classRef i' = h.classRef i := by
  rw [Hierarchy.classRef, Hierarchy.classRef, ha.get]

end Alike

end Hierarchy

end BuilderGen
