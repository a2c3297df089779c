import BuilderGen.Proofs.Hierarchy.Acceptance
import Mathlib.Data.List.Basic
import Mathlib.Order.Fin.Basic

/-!
# Ancestors and descendants

A table in which each lineage follows from those of the parents holds, for each node, the node and
its ancestors, each once, and none of them in front of its own ancestors. The descendants are the
same relation read the other way round.

* `mem_iff_reflTransGen`, `nodup_of_table`, `parentsFirst_of_table`: the lineages of such a table;
* `get_descendants`: the nodes entered under their ancestors;
* `lineage_and_subtypes_of_build`: what this says of the classes of a schema.
-/

namespace BuilderGen.Lineage

open Relation

variable {n : Nat} {parents : Fin n → List (Fin n)} {f : Fin n → List (Fin n)}

/-! ## 1. Appending what is new -/

section AppendNew

variable {α : Type} [DecidableEq α]

@[simp] theorem mem_appendNew {x : α} {order rest : List α} :
    x ∈ appendNew order rest ↔ x ∈ order ∨ x ∈ rest := by
  induction rest generalizing order with
  | nil => simp [appendNew]
  | cons a rest ih =>
    rw [appendNew]
    by_cases ha : a ∈ order
    · rw [if_pos ha, ih, List.mem_cons]
      constructor
      · intro h
        exact h.imp_right .inr
      · intro h
        rcases h with h | rfl | h
        · exact .inl h
        · exact .inl ha
        · exact .inr h
    · rw [if_neg ha, ih, List.mem_append, List.mem_singleton, List.mem_cons, or_assoc]

theorem nodup_appendNew {order : List α} (rest : List α) (h : order.Nodup) :
    (appendNew order rest).Nodup := by
  induction rest generalizing order with
  | nil => exact h
  | cons a rest ih =>
    rw [appendNew]
    by_cases ha : a ∈ order
    · rw [if_pos ha]
      exact ih h
    · rw [if_neg ha]
      exact ih (List.nodup_append.2 ⟨h, List.nodup_singleton a, fun b hb c hc e =>
        ha (List.mem_singleton.1 hc ▸ e ▸ hb)⟩)

@[simp] theorem mem_foldl_appendNew {x : α} {order : List α} {rests : List (List α)} :
    x ∈ rests.foldl appendNew order ↔ x ∈ order ∨ ∃ l ∈ rests, x ∈ l := by
  induction rests generalizing order with
  | nil => simp
  | cons l rest ih => rw [List.foldl_cons, ih, mem_appendNew, or_assoc, List.exists_mem_cons_iff]

theorem nodup_foldl_appendNew {order : List α} (rests : List (List α)) (h : order.Nodup) :
    (rests.foldl appendNew order).Nodup := by
  induction rests generalizing order with
  | nil => exact h
  | cons l rest ih => exact ih (nodup_appendNew l h)

end AppendNew

/-! ## 2. Parents first -/

/-- **Each node of a list comes behind all its parents.** -/
def ParentsFirst (parents : Fin n → List (Fin n)) (l : List (Fin n)) : Prop :=
  ∀ front a, front ++ [a] <+: l → ∀ p ∈ parents a, p ∈ front

theorem parentsFirst_nil : ParentsFirst parents [] := by
  intro front a h
  simp at h

/-- A node may stand behind a list that holds its parents. -/
theorem ParentsFirst.concat {l : List (Fin n)} {a : Fin n} (h : ParentsFirst parents l)
    (ha : ∀ p ∈ parents a, p ∈ l) : ParentsFirst parents (l ++ [a]) := by
  intro front b hb
  rcases List.prefix_concat_iff.1 hb with e | hb
  · obtain ⟨hl, hb⟩ := List.append_inj' e rfl
    rw [hl, List.singleton_inj.1 hb]
    exact ha
  · exact h front b hb

/-- Appending keeps parents first, if each new node has its parents in either list in front of
it. -/
theorem ParentsFirst.appendNew {order rest : List (Fin n)} (h : ParentsFirst parents order)
    (hr : ∀ front a, front ++ [a] <+: rest → ∀ p ∈ parents a, p ∈ order ∨ p ∈ front) :
    ParentsFirst parents (appendNew order rest) := by
  induction rest generalizing order with
  | nil => exact h
  | cons b rest ih =>
    have hb : ∀ p ∈ parents b, p ∈ order := fun p hp =>
      (hr [] b (by simp) p hp).resolve_right List.not_mem_nil
    -- what stood in front of a later node stands in the first list, once `b` does
    have hrest : ∀ front a, front ++ [a] <+: rest → ∀ p ∈ parents a,
        p ∈ order ∨ p = b ∨ p ∈ front := by
      intro front a ha p hp
      have := hr (b :: front) a (List.cons_prefix_cons.2 ⟨rfl, ha⟩) p hp
      rwa [List.mem_cons] at this
    rw [Lineage.appendNew]
    by_cases hbo : b ∈ order
    · rw [if_pos hbo]
      refine ih h fun front a ha p hp => ?_
      rcases hrest front a ha p hp with hp | rfl | hp
      · exact .inl hp
      · exact .inl hbo
      · exact .inr hp
    · rw [if_neg hbo]
      refine ih (h.concat hb) fun front a ha p hp => ?_
      rw [List.mem_append, List.mem_singleton, or_assoc]
      exact hrest front a ha p hp

theorem ParentsFirst.foldl_appendNew {order : List (Fin n)} {rests : List (List (Fin n))}
    (h : ParentsFirst parents order) (hr : ∀ l ∈ rests, ParentsFirst parents l) :
    ParentsFirst parents (rests.foldl Lineage.appendNew order) := by
  induction rests generalizing order with
  | nil => exact h
  | cons l rest ih =>
    obtain ⟨hl, hrest⟩ := List.forall_mem_cons.1 hr
    exact ih (h.appendNew fun front a ha p hp => .inr (hl front a ha p hp)) hrest

/-- With parents first, each node comes behind all its strict ancestors. -/
theorem ParentsFirst.mem_front {front back : List (Fin n)} {a b : Fin n}
    (h : ParentsFirst parents (front ++ a :: back)) (hab : TransGen (HasParent parents) a b) :
    b ∈ front := by
  induction hab with
  | single hp => exact h front a ⟨back, by simp⟩ _ hp
  | @tail c b _ hp ih =>
    obtain ⟨l, r, rfl⟩ := List.append_of_mem ih
    have hb := h l c ⟨r ++ a :: back, by simp⟩ b hp
    exact List.mem_append_left _ hb

/-! ## 3. Tables of lineages -/

section Table

variable (hwf : WellFounded fun p i => HasParent parents i p)
  (hf : ∀ i, f i = lineageFrom ((parents i).map f) i)
include hwf hf

/-- **A lineage holds the node and its ancestors.** -/
theorem mem_iff_reflTransGen (i j : Fin n) : j ∈ f i ↔ ReflTransGen (HasParent parents) i j := by
  induction i using hwf.induction with
  | _ i ih =>
    rw [hf i, lineageFrom, List.mem_append, mem_foldl_appendNew, List.mem_singleton,
      ReflTransGen.cases_head_iff]
    constructor
    · intro h
      rcases h with (h | ⟨l, hl, hj⟩) | rfl
      · exact absurd h List.not_mem_nil
      · obtain ⟨p, hp, rfl⟩ := List.mem_map.1 hl
        exact .inr ⟨p, hp, (ih p hp).1 hj⟩
      · exact .inl rfl
    · intro h
      rcases h with rfl | ⟨p, hp, hj⟩
      · exact .inr rfl
      · exact .inl (.inr ⟨f p, List.mem_map_of_mem hp, (ih p hp).2 hj⟩)

/-- A node is not among its strict ancestors. -/
theorem not_mem_parent_lineages (i : Fin n) : i ∉ ((parents i).map f).foldl appendNew [] := by
  intro h
  rcases mem_foldl_appendNew.1 h with h | ⟨l, hl, hi⟩
  · cases h
  · obtain ⟨p, hp, rfl⟩ := List.mem_map.1 hl
    have hpi := (mem_iff_reflTransGen hwf hf p i).1 hi
    have hii : TransGen (HasParent parents) i i := .head' hp hpi
    exact hwf.transGen.irrefl.irrefl i (transGen_swap.2 hii)

/-- **A lineage holds each node once.** -/
theorem nodup_of_table (i : Fin n) : (f i).Nodup := by
  rw [hf i, lineageFrom]
  refine List.nodup_append.2 ⟨nodup_foldl_appendNew _ List.nodup_nil, List.nodup_singleton i, ?_⟩
  intro a ha b hb e
  rw [e, List.mem_singleton.1 hb] at ha
  exact not_mem_parent_lineages hwf hf i ha

/-- **A lineage holds no node in front of one of its parents.** -/
theorem parentsFirst_of_table (i : Fin n) : ParentsFirst parents (f i) := by
  induction i using hwf.induction with
  | _ i ih =>
    rw [hf i, lineageFrom]
    refine ParentsFirst.concat (parentsFirst_nil.foldl_appendNew fun l hl => ?_) fun p hp => ?_
    · obtain ⟨p, hp, rfl⟩ := List.mem_map.1 hl
      exact ih p hp
    · have hself : p ∈ f p := (mem_iff_reflTransGen hwf hf p p).2 .refl
      exact mem_foldl_appendNew.2 (.inr ⟨f p, List.mem_map_of_mem hp, hself⟩)

end Table

/-! ## 4. Descendants -/

/-- A node is entered under the nodes that are told, behind what stands there. -/
theorem get_enter {node : Fin n} {under : List (Fin n)} (hnd : under.Nodup)
    (t : Vector (List (Fin n)) n) (c : Fin n) :
    (enter node under t).get c = if c ∈ under then t.get c ++ [node] else t.get c := by
  induction under generalizing t with
  | nil => simp [enter]
  | cons a rest ih =>
    obtain ⟨har, hnd⟩ := List.nodup_cons.1 hnd
    have hset : (t.set a.val (t.get a ++ [node]) a.isLt).get c =
        if c = a then t.get a ++ [node] else t.get c := by
      show (t.set a.val (t.get a ++ [node]) a.isLt)[c.val] = if c = a then _ else t[c.val]
      rw [Vector.getElem_set]
      simp only [Fin.val_inj, eq_comm (a := a)]
    rw [enter, List.foldl_cons, ← enter, ih hnd, hset]
    by_cases hca : c = a
    · subst hca
      simp [har]
    · simp [hca]

/-- **A node stands under its strict ancestors, and the nodes under one stand in order.** -/
theorem get_descendants {lineages : Vector (List (Fin n)) n}
    (hnd : ∀ i, (lineages.get i).Nodup) (c : Fin n) :
    (descendants lineages).get c =
      (List.finRange n).filter fun d => d ≠ c ∧ c ∈ lineages.get d := by
  -- the invariant of the loop over the nodes, from any table on
  have loop : ∀ (nodes : List (Fin n)) (t : Vector (List (Fin n)) n),
      (nodes.foldl (fun t i => enter i ((lineages.get i).filter (· ≠ i)) t) t).get c =
        t.get c ++ nodes.filter fun d => d ≠ c ∧ c ∈ lineages.get d := by
    intro nodes
    induction nodes with
    | nil => simp
    | cons d rest ih =>
      intro t
      rw [List.foldl_cons, ih, get_enter ((hnd d).filter _)]
      by_cases hd : d ≠ c ∧ c ∈ lineages.get d
      · have hc : c ∈ (lineages.get d).filter (· ≠ d) := by
          simp [hd.2, Ne.symm hd.1]
        rw [if_pos hc, List.filter_cons_of_pos (by simpa using hd), List.append_assoc]
        rfl
      · have hc : c ∉ (lineages.get d).filter (· ≠ d) := by
          intro h
          have := List.mem_filter.1 h
          exact hd ⟨fun e => by simp [e] at this, this.1⟩
        rw [if_neg hc, List.filter_cons_of_neg (by simpa using hd)]
  have hempty : (Vector.replicate n ([] : List (Fin n))).get c = [] :=
    Vector.getElem_replicate c.isLt
  rw [descendants, loop, hempty, List.nil_append]

end BuilderGen.Lineage

namespace BuilderGen.Hierarchy

open Relation
open BuilderGen.Schema

/-! ## 5. Lineages and subtypes of classes -/

namespace Valid

variable {h : Hierarchy} (hv : h.Valid)
include hv

theorem mem_lineage {i j : h.Id} : j ∈ h.lineage i ↔ ReflTransGen (Extends h.classes) i j := by
  have hwf := hv.wellFounded
  rw [← hasParent_parents] at hwf ⊢
  exact Lineage.mem_iff_reflTransGen hwf hv.lineage_eq i j

theorem nodup_lineage (i : h.Id) : (h.lineage i).Nodup := by
  have hwf := hv.wellFounded
  rw [← hasParent_parents] at hwf
  exact Lineage.nodup_of_table hwf hv.lineage_eq i

/-- A lineage ends with its class. -/
theorem getLast?_lineage (i : h.Id) : (h.lineage i).getLast? = some i := by
  rw [hv.lineage_eq i, Lineage.lineageFrom, List.getLast?_concat]

/-- In a lineage each class comes behind all its strict ancestors. -/
theorem mem_front_of_lineage {i : h.Id} {front back : List h.Id} {a b : h.Id}
    (e : h.lineage i = front ++ a :: back) (hab : TransGen (Extends h.classes) a b) :
    b ∈ front := by
  have hwf := hv.wellFounded
  rw [← hasParent_parents] at hwf hab
  have hp := Lineage.parentsFirst_of_table hwf hv.lineage_eq i
  rw [e] at hp
  exact hp.mem_front hab

theorem subtypes_eq (i : h.Id) :
    h.subtypes i = h.ids.filter fun d => d ≠ i ∧ i ∈ h.lineage d := by
  rw [subtypes, hv.descendants_eq]
  exact Lineage.get_descendants hv.nodup_lineage i

theorem mem_subtypes {i d : h.Id} : d ∈ h.subtypes i ↔ d ≠ i ∧ i ∈ h.lineage d := by
  rw [hv.subtypes_eq, List.mem_filter]
  simp [ids]

/-- The subtypes of a class stand in the order of the schema. -/
theorem pairwise_subtypes (i : h.Id) : (h.subtypes i).Pairwise (· < ·) := by
  rw [hv.subtypes_eq]
  exact (List.pairwise_lt_finRange _).filter _

end Valid

/-- **The lineage of a class holds the class and its ancestors, each once, itself last and each
class behind its strict ancestors; its subtypes are the other classes that have it in their
lineages, in the order of the schema.** -/
theorem lineage_and_subtypes_of_build {m : Manifest} {h : Hierarchy} (hb : build m = .ok h)
    (c : h.Id) :
    h.classes = m.classes ∧
    (h.lineage c).Nodup ∧
    (∀ a, a ∈ h.lineage c ↔ ReflTransGen (Extends h.classes) c a) ∧
    (h.lineage c).getLast? = some c ∧
    (∀ front a back, h.lineage c = front ++ a :: back →
      ∀ b, TransGen (Extends h.classes) a b → b ∈ front) ∧
    (h.subtypes c).Pairwise (· < ·) ∧
    (h.subtypes c).Nodup ∧
    ∀ d, d ∈ h.subtypes c ↔ d ≠ c ∧ c ∈ h.lineage d := by
  have hv := valid_of_build hb
  have hlt := hv.pairwise_subtypes c
  exact ⟨classes_of_build hb, hv.nodup_lineage c, fun _ => hv.mem_lineage,
    hv.getLast?_lineage c, fun _ _ _ e _ => hv.mem_front_of_lineage e, hlt,
    hlt.imp Fin.ne_of_lt, fun _ => hv.mem_subtypes⟩

/-- A class that extends two others and, once more, what these two extend. -/
def diamond : Manifest := ⟨Settings.default, [
  { HostClass.plain "p" "Button" with supertypes := ["Round", "Sized", "p.Base"] },
  { HostClass.plain "p" "Round" with supertypes := ["Base"] },
  { HostClass.plain "p" "Sized" with supertypes := ["Base"] },
  HostClass.plain "p" "Base"]⟩

/-- The hierarchy of these classes. -/
def diamondHierarchy : Hierarchy where
  classes := diamond.classes
  lineages := (#v[[3, 1, 2, 0], [3, 1], [3, 2], [3]] : Vector (List (Fin 4)) 4)
  descendants := (#v[[], [0], [0], [0, 1, 2]] : Vector (List (Fin 4)) 4)

theorem lineage_diamond : build diamond = .ok diamondHierarchy ∧
    diamondHierarchy.lineage (0 : Fin 4) = ([3, 1] : List (Fin 4)) ++ (2 : Fin 4) :: [0] ∧
    TransGen (Extends diamond.classes) (2 : Fin 4) (3 : Fin 4) ∧
    (3 : Fin 4) ∈ ([3, 1] : List (Fin 4)) ∧
    (diamondHierarchy.subtypes (3 : Fin 4)).Pairwise (· < ·) := by
  have hb : build diamond = .ok diamondHierarchy :=
    build_of_lineages (by decide) (by decide) (by decide) rfl
  have he : diamondHierarchy.lineage (0 : Fin 4) = ([3, 1] : List (Fin 4)) ++ (2 : Fin 4) :: [0] :=
    rfl
  have hr : resolve diamond.classes "Base" = .ok (3 : Fin 4) := by decide +kernel
  have ht : TransGen (Extends diamond.classes) (2 : Fin 4) (3 : Fin 4) :=
    .single ⟨"Base", List.mem_cons_self, hr⟩
  refine ⟨hb, he, ht, ?_, (lineage_and_subtypes_of_build hb (3 : Fin 4)).2.2.2.2.2.1⟩
  exact (lineage_and_subtypes_of_build hb (0 : Fin 4)).2.2.2.2.1 _ _ _ he _ ht

end BuilderGen.Hierarchy
