import BuilderGen.Hierarchy.Basic
import BuilderGen.Proofs.Hierarchy.Spellings
import BuilderGen.Proofs.Hierarchy.Visit
import BuilderGen.Proofs.Schema.Check
import Mathlib.Data.List.Nodup
import Mathlib.Order.WellFounded

/-!
# Which schemas have a hierarchy

A hierarchy is built in steps: every class is checked by itself, every reference has to mean a
class, the lineages must not run in a circle, and no two elements may share a builder.

* `Extends`: a class lists a reference that means another class as a supertype;
* `WellFormed`: what has to hold of the classes of a schema, said without the checks;
* `build_ok_iff_wellFormed`: there is a hierarchy exactly for well formed classes. The fault of a
  cycle names a class on the cycle, and the walk that looks for cycles ends on every graph;
* `ofLineages`, `build_of_lineages`: a hierarchy that is told by its lineages;
* `Valid`: what is known of a hierarchy that was built, with `valid_of_build`.
-/

namespace BuilderGen.Hierarchy

open Relation
open BuilderGen.Result
open BuilderGen.Schema

/-! ## 1. References -/

/-- **A class lists a reference that means another class as a supertype.** -/
def Extends (classes : List HostClass) (i j : Fin classes.length) : Prop :=
  ∃ r ∈ (classes.get i).supertypes, resolve classes r = .ok j

theorem nodup_candidates (classes : List HostClass) (spelling : String) :
    (candidates classes spelling).Nodup :=
  (List.nodup_finRange _).filter _

/-- A reference means the one class that it spells. -/
theorem resolve_ok {classes : List HostClass} {r : String} {i : Fin classes.length} :
    resolve classes r = .ok i ↔ ∀ j, Text.trim r ∈ spellings (classes.get j) ↔ j = i := by
  have hnd := nodup_candidates classes (Text.trim r)
  simp only [← mem_candidates]
  rw [resolve_eq]
  generalize candidates classes (Text.trim r) = l at hnd ⊢
  match l, hnd with
  | [], _ =>
    constructor
    · intro h
      cases h
    · intro h
      exact absurd ((h i).2 rfl) List.not_mem_nil
  | [k], _ =>
    constructor
    · intro h j
      cases h
      exact List.mem_singleton
    · intro h
      rw [(h k).1 List.mem_cons_self]
  | k :: k' :: rest, hnd =>
    constructor
    · intro h
      cases h
    · intro h
      have hk := (h k).1 List.mem_cons_self
      have hk' := (h k').1 (List.mem_cons_of_mem _ List.mem_cons_self)
      rw [hk, hk'] at hnd
      exact absurd List.mem_cons_self (List.nodup_cons.1 hnd).1

/-- A reference means a class if it spells exactly one. -/
theorem exists_resolve_ok {classes : List HostClass} {r : String} :
    (∃ i, resolve classes r = .ok i) ↔ ∃! i, Text.trim r ∈ spellings (classes.get i) := by
  simp only [resolve_ok]
  constructor
  · intro ⟨i, h⟩
    exact ⟨i, (h i).2 rfl, fun j hj => (h j).1 hj⟩
  · intro ⟨i, hi, h⟩
    exact ⟨i, fun j => ⟨h j, fun e => e ▸ hi⟩⟩

/-- A reference is missing if it spells no class. -/
theorem resolve_missing {classes : List HostClass} {r : String} :
    resolve classes r = .error .missing ↔ ∀ j, Text.trim r ∉ spellings (classes.get j) := by
  simp only [← mem_candidates, ← List.eq_nil_iff_forall_not_mem]
  rw [resolve_eq]
  generalize candidates classes (Text.trim r) = l
  match l with
  | [] => simp
  | [i] => simp
  | i :: j :: rest => simp

/-- A reference is ambiguous if it spells several classes, which are told in order. -/
theorem resolve_ambiguous {classes : List HostClass} {r : String} {names : List String} :
    resolve classes r = .error (.ambiguous names) ↔
      2 ≤ (candidates classes (Text.trim r)).length ∧
        names = (candidates classes (Text.trim r)).map fun i => (classes.get i).qualifiedName := by
  rw [resolve_eq]
  generalize candidates classes (Text.trim r) = l
  match l with
  | [] => simp
  | [i] => simp
  | i :: j :: rest =>
    rw [Except.error.injEq, ReferenceFault.ambiguous.injEq, eq_comm]
    exact (and_iff_right (Nat.le_add_left 2 rest.length)).symm

theorem mem_parents {classes : List HostClass} {i p : Fin classes.length} :
    p ∈ parents classes i ↔ Extends classes i p := by
  unfold parents Extends
  rw [List.mem_filterMap]
  refine exists_congr fun r => and_congr_right fun _ => ?_
  cases resolve classes r <;> simp [Except.toOption]

/-- Lineages are taken along the references. -/
theorem hasParent_parents (classes : List HostClass) :
    Lineage.HasParent (parents classes) = Extends classes := by
  funext i p
  exact propext mem_parents

theorem checkReferences_ok {classes : List HostClass} {name : String} {references : List String} :
    checkReferences classes name references = .ok () ↔
      ∀ r ∈ references, ∃! i, Text.trim r ∈ spellings (classes.get i) := by
  induction references with
  | nil => simp [checkReferences]
  | cons r rest ih =>
    rw [List.forall_mem_cons, ← ih, ← exists_resolve_ok, checkReferences]
    cases resolve classes r <;> simp

/-- The supertypes pass exactly if each of them spells one class. -/
theorem checkSupertypes_ok {classes cs : List HostClass} :
    checkSupertypes classes cs = .ok () ↔
      ∀ c ∈ cs, ∀ r ∈ c.supertypes, ∃! i, Text.trim r ∈ spellings (classes.get i) := by
  induction cs with
  | nil => simp [checkSupertypes]
  | cons c rest ih =>
    rw [checkSupertypes, andThen_ok, checkReferences_ok, ih, List.forall_mem_cons]

theorem supertypeFault_ne_cycle {name reference q : String} (fault : ReferenceFault) :
    supertypeFault name reference fault ≠ .inheritanceCycle q := by
  cases fault <;> simp [supertypeFault]

theorem checkReferences_ne_cycle {classes : List HostClass} {name q : String}
    {references : List String} :
    checkReferences classes name references ≠ .error (.inheritanceCycle q) := by
  induction references with
  | nil => simp [checkReferences]
  | cons r rest ih =>
    rw [checkReferences]
    cases resolve classes r with
    | ok i => exact ih
    | error fault => simp [supertypeFault_ne_cycle]

theorem checkSupertypes_ne_cycle {classes cs : List HostClass} {q : String} :
    checkSupertypes classes cs ≠ .error (.inheritanceCycle q) := by
  induction cs with
  | nil => simp [checkSupertypes]
  | cons c rest ih => simp [checkSupertypes, andThen_error, checkReferences_ne_cycle, ih]

/-! ## 2. Builders -/

/-- The builders pass exactly if no two elements share one, and none has that of an element before
them. -/
theorem checkBuilderNames_ok {seen : List (String × String)} {cs : List HostClass} :
    checkBuilderNames seen cs = .ok () ↔
      ((cs.filter HostClass.isElement).map builderNameOf).Nodup ∧
        ∀ c ∈ cs, c.isElement = true → builderNameOf c ∉ seen.map (·.1) := by
  induction cs generalizing seen with
  | nil => simp [checkBuilderNames]
  | cons c rest ih =>
    rw [checkBuilderNames, List.forall_mem_cons]
    by_cases he : c.isElement = true
    · rw [if_pos he, List.filter_cons_of_pos he, List.map_cons, List.nodup_cons]
      cases hl : seen.lookup (builderNameOf c) with
      | some first =>
        have hmem : builderNameOf c ∈ seen.map (·.1) := by
          obtain ⟨p, hp, e⟩ := List.lookup_isSome_iff.1 (by rw [hl]; rfl)
          exact List.mem_map.2 ⟨p, hp, (beq_iff_eq.1 e).symm⟩
        simp [he, hmem]
      | none =>
        have hnot : builderNameOf c ∉ seen.map (·.1) := by
          intro h
          obtain ⟨p, hp, e⟩ := List.mem_map.1 h
          simpa [e] using List.lookup_eq_none_iff.1 hl p hp
        simp only [ih, List.map_cons, List.mem_cons, List.mem_map, List.mem_filter]
        constructor
        · intro ⟨hnd, hrest⟩
          refine ⟨⟨?_, hnd⟩, fun _ => by simpa using hnot, fun d hd hde h => ?_⟩
          · intro ⟨d, ⟨hd, hde⟩, e⟩
            exact hrest d hd hde (.inl e)
          · exact hrest d hd hde (.inr h)
        · rintro ⟨⟨hne, hnd⟩, -, hrest⟩
          refine ⟨hnd, fun d hd hde h => ?_⟩
          rcases h with e | h
          · exact hne ⟨d, ⟨hd, hde⟩, e⟩
          · exact hrest d hd hde h
    · rw [if_neg he, List.filter_cons_of_neg he, ih]
      simp [he]

theorem checkBuilderNames_ne_cycle {seen : List (String × String)} {cs : List HostClass}
    {q : String} : checkBuilderNames seen cs ≠ .error (.inheritanceCycle q) := by
  induction cs generalizing seen with
  | nil => simp [checkBuilderNames]
  | cons c rest ih =>
    rw [checkBuilderNames]
    split
    · split
      · simp
      · exact ih
    · exact ih

/-! ## 3. Acceptance -/

/-- **What has to hold of the classes of a schema.** -/
structure WellFormed (classes : List HostClass) : Prop where
  each : ∀ c ∈ classes, c.WellFormed
  names : (classes.map HostClass.qualifiedName).Nodup
  references : ∀ c ∈ classes, ∀ r ∈ c.supertypes, ∃! i, Text.trim r ∈ spellings (classes.get i)
  acyclic : ∀ i, ¬ TransGen (Extends classes) i i
  builders : ((classes.filter HostClass.isElement).map builderNameOf).Nodup

/-- The steps of building a hierarchy. -/
theorem build_eq (m : Manifest) : build m =
    (m.check >>= fun _ => checkSupertypes m.classes m.classes >>= fun _ =>
      match Lineage.table (parents m.classes) with
      | .error i => .error (.inheritanceCycle (m.classes.get i).qualifiedName)
      | .ok lineages => checkBuilderNames [] m.classes >>= fun _ =>
          .ok ⟨m.classes, lineages, Lineage.descendants lineages⟩) := by
  have hget : (Vector.ofFn (parents m.classes)).get = parents m.classes := by
    funext i
    exact Vector.getElem_ofFn i.isLt
  rw [← hget]
  rfl

/-- What a hierarchy is built from. -/
theorem build_ok {m : Manifest} {h : Hierarchy} :
    build m = .ok h ↔
      m.check = .ok () ∧ checkSupertypes m.classes m.classes = .ok () ∧
        ∃ lineages, Lineage.table (parents m.classes) = .ok lineages ∧
          checkBuilderNames [] m.classes = .ok () ∧
            h = ⟨m.classes, lineages, Lineage.descendants lineages⟩ := by
  rw [build_eq, andThen_ok, andThen_ok]
  cases ht : Lineage.table (parents m.classes) with
  | error i => simp
  | ok v =>
    simp only [andThen_ok, Except.ok.injEq, exists_eq_left']
    rw [eq_comm (a := h)]

/-- The hierarchy of classes whose lineages are told by positions. -/
def ofLineages (classes : List HostClass) (positions : List (List Nat)) : Hierarchy :=
  let lineages := Vector.ofFn fun i : Fin classes.length =>
    (positions.getD i.val []).filterMap fun k => (List.finRange classes.length)[k]?
  ⟨classes, lineages, Lineage.descendants lineages⟩

/-- A hierarchy is built if the checks pass and its lineages follow from those of the parents. -/
theorem build_of_lineages {m : Manifest}
    {v d : Vector (List (Fin m.classes.length)) m.classes.length}
    (hm : m.check = .ok () ∧ checkSupertypes m.classes m.classes = .ok () ∧
      checkBuilderNames [] m.classes = .ok ())
    (hv : ∀ i, v.get i = Lineage.lineageFrom ((parents m.classes i).map v.get) i)
    (hlt : ∀ i, ∀ p ∈ parents m.classes i, (v.get p).length < (v.get i).length)
    (hd : Lineage.descendants v = d) : build m = .ok ⟨m.classes, v, d⟩ :=
  build_ok.2 ⟨hm.1, hm.2.1, v, Lineage.table_eq hv hlt, hm.2.2, hd ▸ rfl⟩

/-- Classes with a hierarchy are well formed. -/
theorem wellFormed_of_build {m : Manifest} {h : Hierarchy} (hb : build m = .ok h) :
    WellFormed m.classes := by
  obtain ⟨hc, hs, v, hv, hn, -⟩ := build_ok.1 hb
  obtain ⟨heach, hnames, -⟩ := checkClasses_ok.1 hc
  obtain ⟨hwf, -⟩ := Lineage.table_ok hv
  rw [hasParent_parents] at hwf
  exact {
    each := heach
    names := hnames
    references := checkSupertypes_ok.1 hs
    acyclic := fun i hi => hwf.transGen.irrefl.irrefl i (transGen_swap.2 hi)
    builders := (checkBuilderNames_ok.1 hn).1 }

/-- Well formed classes have a hierarchy. -/
theorem exists_build {m : Manifest} (hw : WellFormed m.classes) : ∃ h, build m = .ok h := by
  have hac := hw.acyclic
  rw [← hasParent_parents] at hac
  obtain ⟨v, hv⟩ := Lineage.exists_table hac
  refine ⟨_, build_ok.2 ⟨checkClasses_ok.2 ⟨hw.each, hw.names, ?_⟩,
    checkSupertypes_ok.2 hw.references, v, hv, checkBuilderNames_ok.2 ⟨hw.builders, ?_⟩, rfl⟩⟩
  · exact fun _ _ => List.not_mem_nil
  · exact fun _ _ _ => List.not_mem_nil

/-- The fault of a cycle names a class that is its own ancestor. -/
theorem cycle_of_build_error {m : Manifest} {q : String}
    (he : build m = .error (.inheritanceCycle q)) :
    ∃ i, (m.classes.get i).qualifiedName = q ∧ TransGen (Extends m.classes) i i := by
  rw [build_eq, andThen_error, andThen_error] at he
  rcases he with he | ⟨-, he | ⟨-, he⟩⟩
  · exact absurd he checkClasses_ne_cycle
  · exact absurd he checkSupertypes_ne_cycle
  · cases ht : Lineage.table (parents m.classes) with
    | error i =>
      rw [ht] at he
      cases he
      refine ⟨i, rfl, ?_⟩
      rw [← hasParent_parents]
      exact Lineage.table_error ht
    | ok v =>
      rw [ht] at he
      rcases andThen_error.1 he with he | ⟨-, he⟩
      · exact absurd he checkBuilderNames_ne_cycle
      · cases he

/-- **There is a hierarchy exactly for well formed classes.** The fault of a cycle names a class
that is its own ancestor, and no chain of visits inside visits is endless, whatever the classes
extend. -/
theorem build_ok_iff_wellFormed (m : Manifest) :
    ((∃ h, build m = .ok h) ↔ WellFormed m.classes) ∧
    (∀ q, build m = .error (.inheritanceCycle q) →
      ∃ i, (m.classes.get i).qualifiedName = q ∧ TransGen (Extends m.classes) i i) ∧
    WellFounded (Lineage.Nested (parents m.classes)) :=
  ⟨⟨fun ⟨_, hb⟩ => wellFormed_of_build hb, exists_build⟩, fun _ => cycle_of_build_error,
    Lineage.nested_wellFounded _⟩

/-- Three classes, the second and the third of which extend each other. -/
def ringed : Manifest := ⟨Settings.default, [
  { HostClass.plain "p" "A" with supertypes := ["B"] },
  { HostClass.plain "p" "B" with supertypes := [" p.C "] },
  { HostClass.plain "p" "C" with supertypes := ["B"] }]⟩

theorem build_ringed : build ringed = .error (.inheritanceCycle "p.B") ∧
    ∃ i, (ringed.classes.get i).qualifiedName = "p.B" ∧ TransGen (Extends ringed.classes) i i := by
  have hc : ringed.check = .ok () := by decide +kernel
  have hs : checkSupertypes ringed.classes ringed.classes = .ok () := by decide +kernel
  have hring : ∀ f : Fin 3 → List (Fin 3), f 0 = [1] → f 1 = [2] → f 2 = [1] →
      Lineage.table f = .error 1 := by
    intro f h0 h1 h2
    have hr : List.finRange 3 = [0, 1, 2] := rfl
    simp [Lineage.table, hr, Lineage.visitAll, Lineage.visit, Lineage.leave, h0, h1, h2]
  have hA : parents ringed.classes ⟨0, by decide⟩ = [⟨1, by decide⟩] := by decide +kernel
  have hB : parents ringed.classes ⟨1, by decide⟩ = [⟨2, by decide⟩] := by decide +kernel
  have hC : parents ringed.classes ⟨2, by decide⟩ = [⟨1, by decide⟩] := by decide +kernel
  have ht : Lineage.table (parents ringed.classes) = .error (1 : Fin 3) := hring _ hA hB hC
  have h : build ringed = .error (.inheritanceCycle "p.B") := by
    rw [build_eq, hc, hs, ht]
    rfl
  exact ⟨h, (build_ok_iff_wellFormed ringed).2.1 "p.B" h⟩

/-! ## 4. Built hierarchies -/

/-- **What is known of a hierarchy that was built.** -/
structure Valid (h : Hierarchy) : Prop where
  wellFormed : WellFormed h.classes
  wellFounded : WellFounded (fun p i => Extends h.classes i p)
  lineage_eq : ∀ i, h.lineage i = Lineage.lineageFrom ((parents h.classes i).map h.lineage) i
  descendants_eq : h.descendants = Lineage.descendants h.lineages

theorem valid_of_build {m : Manifest} {h : Hierarchy} (hb : build m = .ok h) : h.Valid := by
  have hw := wellFormed_of_build hb
  obtain ⟨-, -, v, hv, -, rfl⟩ := build_ok.1 hb
  obtain ⟨hwf, heq⟩ := Lineage.table_ok hv
  rw [hasParent_parents] at hwf
  exact ⟨hw, hwf, heq, rfl⟩

/-- A hierarchy has the classes of its schema. -/
theorem classes_of_build {m : Manifest} {h : Hierarchy} (hb : build m = .ok h) :
    h.classes = m.classes := by
  obtain ⟨-, -, v, -, -, rfl⟩ := build_ok.1 hb
  rfl

end BuilderGen.Hierarchy
