import BuilderGen.Proofs.Hierarchy.Names
import BuilderGen.Proofs.Text.Blank
import Mathlib.Data.List.Sort

/-!
# What a reference means

A reference is read without the blanks around it. What it means depends on the classes that it then
spells: on none it is missing, on one it means that class, and on several it is ambiguous.

A full name spells its own class. It is no key for it: the name of another class inside its package
may end in the same way, and then the full name is ambiguous and nothing tells the class apart.

* `Meaning`, `resolution_iff_meaning`: what a reference means, by the classes that it spells;
* `Tidy`: a class whose names have no blanks around them;
* `fullName_means_iff`: when a full name means its class, and what it is otherwise.
-/

namespace BuilderGen.Hierarchy

open BuilderGen.Schema

/-! ## 1. Meanings -/

/-- **What a text means**, by the classes that it spells. Those of an ambiguous text are told by
their full names, each once, in the order of the schema. -/
inductive Meaning (h : Hierarchy) (s : String) : Except ReferenceFault h.Id → Prop where
  | missing : (∀ i, ¬ Spells s (h.get i)) → Meaning h s (.error .missing)
  | one {i : h.Id} : (∀ j, Spells s (h.get j) ↔ j = i) → Meaning h s (.ok i)
  | several {members : List h.Id} : members.Pairwise (· < ·) →
    (∀ i, i ∈ members ↔ Spells s (h.get i)) → 2 ≤ members.length →
    Meaning h s (.error (.ambiguous (members.map fun i => (h.get i).qualifiedName)))

theorem mem_candidates_iff {h : Hierarchy} {s : String} {i : h.Id} :
    i ∈ candidates h.classes s ↔ Spells s (h.get i) :=
  mem_candidates.trans mem_spellings_iff

/-- The classes that a text spells stand in the order of the schema. -/
theorem pairwise_candidates (classes : List HostClass) (s : String) :
    (candidates classes s).Pairwise (· < ·) :=
  (List.pairwise_lt_finRange _).filter _

theorem meaning_of_resolve? (h : Hierarchy) (r : String) :
    Meaning h (Text.trim r) (h.resolve? r) := by
  cases hr : h.resolve? r with
  | ok i =>
    have hi := resolve_ok.1 hr
    exact .one fun j => mem_spellings_iff.symm.trans (hi j)
  | error fault =>
    cases fault with
    | missing =>
      have hnone := resolve_missing.1 hr
      exact .missing fun j hj => hnone j (mem_spellings_iff.2 hj)
    | ambiguous names =>
      obtain ⟨hlength, hnames⟩ := resolve_ambiguous.1 hr
      rw [hnames]
      exact .several (pairwise_candidates _ _) (fun _ => mem_candidates_iff) hlength

/-- A text has one meaning. -/
theorem Meaning.resolve?_eq {h : Hierarchy} {r : String} {result : Except ReferenceFault h.Id}
    (hm : Meaning h (Text.trim r) result) : h.resolve? r = result := by
  cases hm with
  | missing hnone => exact resolve_missing.2 fun j hj => hnone j (mem_spellings_iff.1 hj)
  | one hone => exact resolve_ok.2 fun j => mem_spellings_iff.trans (hone j)
  | several hsorted hmem hlength =>
    have hmembers : candidates h.classes (Text.trim r) = _ :=
      (pairwise_candidates _ _).eq_of_mem_iff hsorted fun i =>
        mem_candidates_iff.trans (hmem i).symm
    exact resolve_ambiguous.2 ⟨hmembers ▸ hlength, by rw [hmembers]; rfl⟩

/-- **A reference is missing if it spells no class, means the one class that it spells, and is
ambiguous otherwise.** Only the blanks around it do not count. -/
theorem resolution_iff_meaning (h : Hierarchy) (r : String) :
    ∃ s, Text.Trimmed r s ∧ ∀ result, h.resolve? r = result ↔ Meaning h s result := by
  refine ⟨Text.trim r, Text.trim_eq_iff.1 rfl, fun result => ⟨fun hr => ?_, fun hm => ?_⟩⟩
  · rw [← hr]
    exact meaning_of_resolve? h r
  · exact hm.resolve?_eq

/-! ## 2. Full names -/

/-- **A class whose names have no blanks around them.** -/
structure Tidy (c : HostClass) : Prop where
  name : Text.trim c.name = c.name
  package : Text.trim c.package = c.package
  enclosing : ∀ outer, c.enclosing = some outer → Text.trim outer = outer

/-- The full name has no blanks around it then. -/
theorem Tidy.trim_qualifiedName {c : HostClass} (hc : Tidy c) :
    Text.trim c.qualifiedName = c.qualifiedName := by
  have hnested : Text.trim c.nestedName = c.nestedName := by
    unfold HostClass.nestedName
    cases houter : c.enclosing with
    | none => exact hc.name
    | some outer => exact Text.trim_append_dot (hc.enclosing outer houter) hc.name
  unfold HostClass.qualifiedName
  split
  · exact hnested
  · exact Text.trim_append_dot hc.package hnested

/-- A name ends with each of its ends, behind a dot if it is not the whole name. -/
theorem EndsName.eq_or_exists {s : String} {c : HostClass} (hs : EndsName s c) :
    c.nestedName = s ∨ ∃ front, c.nestedName = front ++ "." ++ s := by
  obtain ⟨names, hne, ⟨front, hsegments⟩, rfl⟩ := hs
  have hname : c.nestedName = Text.joinDots (front ++ names) := by
    rw [hsegments, Text.joinDots_segments]
  rw [hname]
  by_cases hfront : front = []
  · rw [hfront]
    exact .inl rfl
  · exact .inr ⟨Text.joinDots front, Text.joinDots_append hfront hne⟩

namespace Valid

variable {h : Hierarchy} (hv : h.Valid) {i j : h.Id}
include hv

/-- Beside its class, a full name spells those whose name inside their package ends in it. -/
theorem spells_qualifiedName_iff :
    Spells (h.get i).qualifiedName (h.get j) ↔
      j = i ∨ EndsName (h.get i).qualifiedName (h.get j) := by
  have hself : (h.get i).qualifiedName = (h.get j).qualifiedName ↔ j = i :=
    ⟨fun e => (hv.qualifiedName_injective e).symm, fun e => e ▸ rfl⟩
  unfold Spells
  rw [hself]

/-- Only a longer full name, with more in front of a dot, stands in the way of a full name. -/
theorem exists_front (hji : j ≠ i) (hends : EndsName (h.get i).qualifiedName (h.get j)) :
    ∃ front, (h.get j).qualifiedName = front ++ "." ++ (h.get i).qualifiedName := by
  have hne : (h.get j).qualifiedName ≠ (h.get i).qualifiedName :=
    fun e => hji (hv.qualifiedName_injective e)
  have hname : (h.get j).qualifiedName = (h.get j).nestedName ∨
      (h.get j).qualifiedName = (h.get j).package ++ "." ++ (h.get j).nestedName := by
    unfold HostClass.qualifiedName
    exact ite_eq_or_eq _ _ _
  rcases hends.eq_or_exists with hnested | ⟨front, hnested⟩
  · rcases hname with hname | hname
    · exact absurd (hname.trans hnested) hne
    · exact ⟨_, hnested ▸ hname⟩
  · rcases hname with hname | hname
    · exact ⟨front, hname.trans hnested⟩
    · refine ⟨(h.get j).package ++ "." ++ front, ?_⟩
      rw [hname, hnested]
      simp only [String.append_assoc]

end Valid

/-- **A full name means its class exactly if no other class has a name inside its package that ends
in it.** Otherwise it is ambiguous between its class and all of these, whose full names are longer;
it is never missing. -/
theorem fullName_means_iff {m : Manifest} {h : Hierarchy} (hm : build m = .ok h) {i : h.Id}
    (hi : Tidy (h.get i)) :
    (h.resolve? (h.get i).qualifiedName = .ok i ↔
      ∀ j, j ≠ i → ¬ EndsName (h.get i).qualifiedName (h.get j)) ∧
    ∀ j, j ≠ i → EndsName (h.get i).qualifiedName (h.get j) →
      (∃ front, (h.get j).qualifiedName = front ++ "." ++ (h.get i).qualifiedName) ∧
      ∃ members : List h.Id, members.Pairwise (· < ·) ∧
        (∀ k, k ∈ members ↔ k = i ∨ EndsName (h.get i).qualifiedName (h.get k)) ∧
        h.resolve? (h.get i).qualifiedName =
          .error (.ambiguous (members.map fun k => (h.get k).qualifiedName)) := by
  have hv := valid_of_build hm
  have hmeaning := meaning_of_resolve? h (h.get i).qualifiedName
  rw [hi.trim_qualifiedName] at hmeaning
  have hself : Spells (h.get i).qualifiedName (h.get i) := .inl rfl
  refine ⟨⟨fun hr j hji hends => ?_, fun hnone => ?_⟩, fun j hji hends =>
    ⟨hv.exists_front hji hends, ?_⟩⟩
  · rw [hr] at hmeaning
    cases hmeaning with
    | one hone => exact hji ((hone j).1 (.inr hends))
  · refine Meaning.resolve?_eq ?_
    rw [hi.trim_qualifiedName]
    refine .one fun j => hv.spells_qualifiedName_iff.trans (or_iff_left_of_imp fun hends => ?_)
    by_contra hji
    exact hnone j hji hends
  · generalize h.resolve? (h.get i).qualifiedName = result at hmeaning ⊢
    cases hmeaning with
    | missing hnone => exact absurd hself (hnone i)
    | one hone =>
      have hj := (hone j).1 (.inr hends)
      have hi := (hone i).1 hself
      exact absurd (hj.trans hi.symm) hji
    | several hsorted hmem _ =>
      exact ⟨_, hsorted, fun k => (hmem k).trans hv.spells_qualifiedName_iff, rfl⟩

/-! ## 3. A market -/

/-- A cart in a package, and one of another package that is nested in a class with the name of the
first package. -/
def market : Manifest := ⟨Settings.default, [
  HostClass.plain "shop" "Cart",
  { HostClass.plain "web" "Cart" with enclosing := some "shop" }]⟩

/-- The hierarchy of these classes. -/
def marketHierarchy : Hierarchy := .ofLineages market.classes [[0], [1]]

theorem build_market : build market = .ok marketHierarchy :=
  build_of_lineages (by decide) (by decide) (by decide) rfl

theorem tidy_market (i : marketHierarchy.Id) : Tidy (marketHierarchy.get i) := by
  have hall : ∀ i : Fin 2, let c : HostClass := marketHierarchy.get i
      Text.trim c.name = c.name ∧ Text.trim c.package = c.package ∧
        ∀ outer ∈ c.enclosing, Text.trim outer = outer := by
    decide +kernel
  obtain ⟨hname, hpackage, houter⟩ := hall i
  exact ⟨hname, hpackage, houter⟩

/-- The full name of the first cart is ambiguous. -/
theorem fullName_in_market :
    build market = .ok marketHierarchy ∧ (∀ i, Tidy (marketHierarchy.get i)) ∧
    (marketHierarchy.get (0 : Fin 2)).qualifiedName = "shop.Cart" ∧
    marketHierarchy.resolve? "shop.Cart" =
      .error (.ambiguous ["shop.Cart", "web.shop.Cart"]) := by
  have hr : marketHierarchy.resolve? "shop.Cart" =
      .error (.ambiguous ["shop.Cart", "web.shop.Cart"]) := by
    decide +kernel
  exact ⟨build_market, tidy_market, by decide +kernel, hr⟩

/-- The full name of the second cart means it, and the one of the first cart does not. -/
theorem fullNames_of_market :
    build market = .ok marketHierarchy ∧ (∀ i, Tidy (marketHierarchy.get i)) ∧
    marketHierarchy.resolve? (marketHierarchy.get (1 : Fin 2)).qualifiedName = .ok (1 : Fin 2) ∧
    marketHierarchy.resolve? (marketHierarchy.get (0 : Fin 2)).qualifiedName ≠ .ok (0 : Fin 2) := by
  have hends : ∀ j : Fin 2, j ≠ 1 →
      ¬ EndsName (marketHierarchy.get (1 : Fin 2)).qualifiedName (marketHierarchy.get j) := by
    simp only [endsName_iff_mem]
    decide +kernel
  have hfirst : EndsName (marketHierarchy.get (0 : Fin 2)).qualifiedName
      (marketHierarchy.get (1 : Fin 2)) := by
    rw [endsName_iff_mem]
    decide +kernel
  obtain ⟨hsecond, -⟩ := fullName_means_iff build_market (tidy_market (1 : Fin 2))
  obtain ⟨hiff, -⟩ := fullName_means_iff build_market (tidy_market (0 : Fin 2))
  refine ⟨build_market, tidy_market, hsecond.2 hends, fun hr => ?_⟩
  have hne : (1 : Fin 2) ≠ 0 := by decide
  exact hiff.1 hr (1 : Fin 2) hne hfirst

end BuilderGen.Hierarchy
