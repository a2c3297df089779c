import BuilderGen.Proofs.Hierarchy.Ancestry
import BuilderGen.Proofs.Hierarchy.Members
import Mathlib.Data.List.Induction

/-!
# Which declaration counts

The classes of a lineage may declare a setter several times. The last declaration counts, so that
the one of a class gives way to those of the classes below it. The members stand in the order in
which their setters are declared first.

* `IsLast`, `mem_lastOfEach`: the members that are collected are those without a later one of their
  key;
* `pairwise_keys_lastOfEach`: they stand in the order of the first members of their keys;
* `pairwise_lineage`: no class of a lineage stands in front of one that it extends;
* `Collects`, `collects_of_build`: which members a class has, and in which order.
-/

namespace BuilderGen.Hierarchy

open Relation
open BuilderGen.Schema

/-! ## 1. The last member of each key -/

section

variable {α β : Type} {key : α → String}

/-- The last member of each key, at the place of the first one. -/
def lastOfEach (key : α → String) (ms : List α) : List α :=
  ms.foldl (fun all m => override key m all) []

/-- **Whether no member of the same key stands behind a member of a list.** -/
def IsLast (key : α → String) (ms : List α) (x : α) : Prop :=
  ∃ front back, ms = front ++ x :: back ∧ ∀ y ∈ back, key y ≠ key x

theorem lastOfEach_concat (ms : List α) (m : α) :
    lastOfEach key (ms ++ [m]) = override key m (lastOfEach key ms) := by
  unfold lastOfEach
  rw [List.foldl_append]
  rfl

theorem nodup_keys_lastOfEach (ms : List α) : ((lastOfEach key ms).map key).Nodup :=
  nodup_keys_foldl_override ms List.nodup_nil

theorem mem_keys_lastOfEach {k : String} {ms : List α} :
    k ∈ (lastOfEach key ms).map key ↔ k ∈ ms.map key := by
  have hkeys : k ∈ (lastOfEach key ms).map key ↔ k ∈ ([] : List α).map key ∨ k ∈ ms.map key :=
    mem_keys_foldl_override ms []
  rw [List.map_nil] at hkeys
  exact hkeys.trans (or_iff_right List.not_mem_nil)

/-- One more member takes the place of the one with its key, and the others stay. -/
theorem mem_override {x m : α} {all : List α} (hnd : (all.map key).Nodup) :
    x ∈ override key m all ↔ x = m ∨ x ∈ all ∧ key x ≠ key m := by
  induction all with
  | nil => simp [override]
  | cons a rest ih =>
    rw [List.map_cons, List.nodup_cons] at hnd
    obtain ⟨ha, hrest⟩ := hnd
    rw [override]
    by_cases hk : key a = key m
    · have hother : ∀ y ∈ rest, key y ≠ key m := by
        intro y hy e
        have hmem : key y ∈ rest.map key := List.mem_map_of_mem hy
        rw [e, ← hk] at hmem
        exact ha hmem
      rw [if_pos hk, List.mem_cons, List.mem_cons]
      constructor
      · intro hx
        exact hx.imp_right fun hx => ⟨.inr hx, hother x hx⟩
      · intro hx
        rcases hx with hx | ⟨rfl | hx, hne⟩
        · exact .inl hx
        · exact absurd hk hne
        · exact .inr hx
    · rw [if_neg hk, List.mem_cons, ih hrest, List.mem_cons]
      constructor
      · intro hx
        rcases hx with rfl | hx | ⟨hx, hne⟩
        · exact .inr ⟨.inl rfl, hk⟩
        · exact .inl hx
        · exact .inr ⟨.inr hx, hne⟩
      · intro hx
        rcases hx with hx | ⟨rfl | hx, hne⟩
        · exact .inr (.inl hx)
        · exact .inl rfl
        · exact .inr (.inr ⟨hx, hne⟩)

theorem not_isLast_nil {x : α} : ¬ IsLast key [] x := by
  intro ⟨front, back, e, _⟩
  simp at e

/-- Behind one more member, this one is the last of its key, and the others stay so. -/
theorem isLast_concat {ms : List α} {m x : α} :
    IsLast key (ms ++ [m]) x ↔ x = m ∨ IsLast key ms x ∧ key x ≠ key m := by
  constructor
  · intro ⟨front, back, e, hback⟩
    rcases List.eq_nil_or_concat back with rfl | ⟨back, z, rfl⟩
    · have hx := (List.append_inj' e rfl).2
      exact .inl (List.singleton_inj.1 hx).symm
    · have e' : ms ++ [m] = (front ++ x :: back) ++ [z] := by simpa using e
      obtain ⟨hms, hm⟩ := List.append_inj' e' rfl
      rw [List.concat_eq_append, List.forall_mem_append, ← hm, List.forall_mem_singleton] at hback
      exact .inr ⟨⟨front, back, hms, hback.1⟩, hback.2.symm⟩
  · intro hx
    rcases hx with rfl | ⟨⟨front, back, rfl, hback⟩, hne⟩
    · exact ⟨ms, [], rfl, fun y hy => absurd hy List.not_mem_nil⟩
    · refine ⟨front, back ++ [m], by simp, ?_⟩
      rw [List.forall_mem_append, List.forall_mem_singleton]
      exact ⟨hback, hne.symm⟩

/-- **The members that are collected are the last ones of their keys.** -/
theorem mem_lastOfEach {x : α} {ms : List α} : x ∈ lastOfEach key ms ↔ IsLast key ms x := by
  induction ms using List.reverseRecOn with
  | nil => exact iff_of_false List.not_mem_nil not_isLast_nil
  | append_singleton ms m ih =>
    rw [lastOfEach_concat, mem_override (nodup_keys_lastOfEach ms), isLast_concat, ih]

/-- **The members that are collected stand in the order of the first members of their keys.** -/
theorem pairwise_keys_lastOfEach (ms : List α) :
    ((lastOfEach key ms).map key).Pairwise fun k k' =>
      (ms.map key).idxOf k < (ms.map key).idxOf k' := by
  induction ms using List.reverseRecOn with
  | nil => exact List.Pairwise.nil
  | append_singleton ms m ih =>
    -- What stood there before keeps its place.
    have hplace : ∀ k ∈ (lastOfEach key ms).map key,
        ((ms ++ [m]).map key).idxOf k = (ms.map key).idxOf k := by
      intro k hk
      rw [List.map_append]
      exact List.idxOf_append_of_mem (mem_keys_lastOfEach.1 hk)
    have hold : ((lastOfEach key ms).map key).Pairwise fun k k' =>
        ((ms ++ [m]).map key).idxOf k < ((ms ++ [m]).map key).idxOf k' := by
      refine ih.imp_of_mem fun {k k'} hk hk' hlt => ?_
      rw [hplace k hk, hplace k' hk']
      exact hlt
    rw [lastOfEach_concat, keys_override]
    by_cases hm : key m ∈ (lastOfEach key ms).map key
    · rw [if_pos hm]
      exact hold
    · rw [if_neg hm]
      refine List.pairwise_append.2 ⟨hold, List.pairwise_singleton _ _, fun k hk k' hk' => ?_⟩
      have hnew : key m ∉ ms.map key := fun h => hm (mem_keys_lastOfEach.2 h)
      have hlt : (ms.map key).idxOf k < (ms.map key).length :=
        List.idxOf_lt_length_of_mem (mem_keys_lastOfEach.1 hk)
      rw [hplace k hk, List.mem_singleton.1 hk', List.map_append,
        List.idxOf_append_of_notMem hnew]
      omega

/-- A list with a mark on each member has the same last ones. -/
theorem exists_isLast_of_map {f : β → α} {ms : List β} {x : α} (hx : IsLast key (ms.map f) x) :
    ∃ y, f y = x ∧ IsLast (fun y => key (f y)) ms y := by
  obtain ⟨front, back, e, hback⟩ := hx
  obtain ⟨front', rest, rfl, -, e'⟩ := List.map_eq_append_iff.1 e
  obtain ⟨y, back', rfl, rfl, rfl⟩ := List.map_eq_cons_iff.1 e'
  exact ⟨y, rfl, front', back', rfl, fun z hz => hback _ (List.mem_map_of_mem hz)⟩

end

/-! ## 2. Declarations of a lineage -/

/-- The members that the classes of a lineage declare, each with its class, in order. -/
def declarations {α : Type} (h : Hierarchy) (members : HostClass → List α) (i : h.Id) :
    List (h.Id × α) :=
  (h.lineage i).flatMap fun a => (members (h.get a)).map (Prod.mk a)

/-- The place of the first declaration of a key. -/
def firstPlace {α : Type} (h : Hierarchy) (key : α → String) (members : HostClass → List α)
    (i : h.Id) (k : String) : Nat :=
  ((h.declarations members i).map fun d => key d.2).idxOf k

/-- **Which members a class has**: one for each key that is declared in its lineage, namely the last
declaration of the key, in the order of the first ones. No class below the one whose declaration it
is declares the key again. -/
structure Collects {α : Type} (h : Hierarchy) (key : α → String) (members : HostClass → List α)
    (i : h.Id) (all : List α) : Prop where
  keys : ∀ k, k ∈ all.map key ↔ ∃ a ∈ h.lineage i, ∃ m ∈ members (h.get a), key m = k
  nodup : (all.map key).Nodup
  last : ∀ m ∈ all, ∃ a, IsLast (fun d => key d.2) (h.declarations members i) (a, m) ∧
    ∀ b ∈ h.lineage i, TransGen (Extends h.classes) b a → ∀ m' ∈ members (h.get b), key m' ≠ key m
  inOrder : (all.map key).Pairwise fun k k' =>
    h.firstPlace key members i k < h.firstPlace key members i k'

section

variable {α : Type} {h : Hierarchy} {key : α → String} {members : HostClass → List α} {i : h.Id}

theorem mem_declarations {a : h.Id} {m : α} :
    (a, m) ∈ h.declarations members i ↔ a ∈ h.lineage i ∧ m ∈ members (h.get a) := by
  unfold declarations
  rw [List.mem_flatMap]
  constructor
  · intro ⟨b, hb, hm⟩
    obtain ⟨m', hm', e⟩ := List.mem_map.1 hm
    cases e
    exact ⟨hb, hm'⟩
  · intro ⟨ha, hm⟩
    exact ⟨a, ha, List.mem_map_of_mem hm⟩

theorem map_snd_declarations :
    (h.declarations members i).map Prod.snd = (h.lineage i).flatMap fun a => members (h.get a) := by
  unfold declarations
  rw [List.map_flatMap]
  simp only [List.map_map, Function.comp_def, List.map_id']

theorem inherited_eq_lastOfEach :
    h.inherited key members i = lastOfEach key ((h.declarations members i).map Prod.snd) := by
  rw [map_snd_declarations]
  rfl

variable (hv : h.Valid)
include hv

/-- **No class of a lineage stands in front of one that it extends.** -/
theorem pairwise_lineage (i : h.Id) :
    (h.lineage i).Pairwise fun a b => ¬ TransGen (Extends h.classes) a b := by
  suffices hback : ∀ front back, h.lineage i = front ++ back →
      back.Pairwise fun a b => ¬ TransGen (Extends h.classes) a b from hback [] _ rfl
  intro front back
  induction back generalizing front with
  | nil => exact fun _ => List.Pairwise.nil
  | cons a back ih =>
    intro e
    have hnd := hv.nodup_lineage i
    rw [e] at hnd
    refine List.pairwise_cons.2 ⟨fun b hb hab => ?_, ih (front ++ [a]) (by simpa using e)⟩
    have hfront : b ∈ front := hv.mem_front_of_lineage e hab
    exact (List.nodup_append.1 hnd).2.2 b hfront b (List.mem_cons_of_mem a hb) rfl

/-- No declaration of a class stands in front of one of a class that it extends. -/
theorem pairwise_declarations : (h.declarations members i).Pairwise fun d d' =>
    ¬ TransGen (Extends h.classes) d.1 d'.1 := by
  unfold declarations
  refine List.pairwise_flatMap.2 ⟨fun a _ => ?_, (pairwise_lineage hv i).imp fun hab d hd d' hd' => ?_⟩
  · rw [List.pairwise_map]
    exact List.pairwise_of_forall fun _ _ => hv.wellFormed.acyclic a
  · obtain ⟨m, -, rfl⟩ := List.mem_map.1 hd
    obtain ⟨m', -, rfl⟩ := List.mem_map.1 hd'
    exact hab

/-- The last declaration of a key is declared again by no class below. -/
theorem key_ne_of_isLast {a b : h.Id} {m m' : α}
    (hlast : IsLast (fun d => key d.2) (h.declarations members i) (a, m)) (hb : b ∈ h.lineage i)
    (hba : TransGen (Extends h.classes) b a) (hm' : m' ∈ members (h.get b)) : key m' ≠ key m := by
  obtain ⟨front, back, e, hback⟩ := hlast
  have hmem : (b, m') ∈ front ++ (a, m) :: back := e ▸ mem_declarations.2 ⟨hb, hm'⟩
  have hpairs : (h.declarations members i).Pairwise fun d d' =>
      ¬ TransGen (Extends h.classes) d.1 d'.1 := pairwise_declarations hv
  rw [e, List.pairwise_append] at hpairs
  rcases List.mem_append.1 hmem with hfront | hrest
  · exact absurd hba (hpairs.2.2 _ hfront _ List.mem_cons_self)
  · rcases List.mem_cons.1 hrest with hself | hbehind
    · cases hself
      exact absurd hba (hv.wellFormed.acyclic a)
    · exact hback _ hbehind

/-- **A class has the last declarations of its lineage.** -/
theorem collects_inherited : Collects h key members i (h.inherited key members i) where
  keys := by
    intro k
    rw [inherited_eq_lastOfEach, mem_keys_lastOfEach, map_snd_declarations]
    simp only [List.mem_map, List.mem_flatMap]
    constructor
    · intro ⟨m, ⟨a, ha, hm⟩, hk⟩
      exact ⟨a, ha, m, hm, hk⟩
    · intro ⟨a, ha, m, hm, hk⟩
      exact ⟨m, ⟨a, ha, hm⟩, hk⟩
  nodup := nodup_keys_inherited h key members i
  last := by
    intro m hm
    rw [inherited_eq_lastOfEach, mem_lastOfEach] at hm
    obtain ⟨⟨a, m⟩, rfl, hlast⟩ := exists_isLast_of_map hm
    exact ⟨a, hlast, fun b hb hba m' hm' => key_ne_of_isLast hv hlast hb hba hm'⟩
  inOrder := by
    have hkeys : (h.declarations members i).map (fun d => key d.2) =
        ((h.declarations members i).map Prod.snd).map key := (List.map_map).symm
    unfold firstPlace
    rw [hkeys, inherited_eq_lastOfEach]
    exact pairwise_keys_lastOfEach _

end

/-- **A class has one attribute for each setter that its lineage declares for a plain value, and one
slot for each setter for nested elements**: the last declaration, at the place of the first one. It
takes nested elements exactly if it has a slot. -/
theorem collects_of_build {m : Manifest} {h : Hierarchy} (hb : build m = .ok h) (c : h.Id) :
    Collects h Attribute.setter HostClass.attributes c (h.attributes c) ∧
    Collects h ChildSlot.setter HostClass.children c (h.children c) ∧
    (h.takesElements c = true ↔ h.children c ≠ []) := by
  have hv := valid_of_build hb
  exact ⟨collects_inherited hv, collects_inherited hv, takesElements_iff⟩

/-! ## 3. A lantern -/

/-- An optional attribute. -/
def plainAttribute (setter type : String) : Attribute := ⟨setter, type, false, false, false⟩

/-- A lantern extends two classes that extend one and the same. All of them declare a color, the
lantern does twice. -/
def lanterns : Manifest := ⟨Settings.default, [
  { HostClass.plain "p" "Lantern" with
    supertypes := ["Painted", "Hanging"],
    attributes := [plainAttribute "setColor" "int", plainAttribute "setWatt" "int",
      plainAttribute "setColor" "long"] },
  { HostClass.plain "p" "Painted" with
    supertypes := ["Thing"],
    attributes := [plainAttribute "setColor" "short", plainAttribute "setGloss" "boolean"],
    children := [⟨"setCoat", "Coat"⟩, ⟨"setFrame", "Frame"⟩] },
  { HostClass.plain "p" "Hanging" with
    supertypes := ["Thing"],
    attributes := [plainAttribute "setHeight" "int", plainAttribute "setColor" "byte"],
    children := [⟨"setHook", "Hook"⟩, ⟨"setCoat", "List<Coat>"⟩] },
  { HostClass.plain "p" "Thing" with
    attributes := [plainAttribute "setName" "String", plainAttribute "setColor" "String"] }]⟩

/-- The hierarchy of these classes. -/
def lanternHierarchy : Hierarchy :=
  .ofLineages lanterns.classes [[3, 1, 2, 0], [3, 1], [3, 2], [3]]

/-- The color has the place where the thing declares it, and the last type that the lantern
declares. -/
theorem collects_lantern : build lanterns = .ok lanternHierarchy ∧
    Collects lanternHierarchy Attribute.setter HostClass.attributes (0 : Fin 4)
      [plainAttribute "setName" "String", plainAttribute "setColor" "long",
        plainAttribute "setGloss" "boolean", plainAttribute "setHeight" "int",
        plainAttribute "setWatt" "int"] ∧
    Collects lanternHierarchy ChildSlot.setter HostClass.children (0 : Fin 4)
      [⟨"setCoat", "List<Coat>"⟩, ⟨"setFrame", "Frame"⟩, ⟨"setHook", "Hook"⟩] ∧
    lanternHierarchy.takesElements (0 : Fin 4) = true ∧
    lanternHierarchy.takesElements (3 : Fin 4) = false := by
  have hb : build lanterns = .ok lanternHierarchy :=
    build_of_lineages (by decide) (by decide) (by decide) rfl
  have hattributes : lanternHierarchy.attributes (0 : Fin 4) =
      [plainAttribute "setName" "String", plainAttribute "setColor" "long",
        plainAttribute "setGloss" "boolean", plainAttribute "setHeight" "int",
        plainAttribute "setWatt" "int"] := by
    decide +kernel
  have hchildren : lanternHierarchy.children (0 : Fin 4) =
      [⟨"setCoat", "List<Coat>"⟩, ⟨"setFrame", "Frame"⟩, ⟨"setHook", "Hook"⟩] := by
    decide +kernel
  have hnone : lanternHierarchy.children (3 : Fin 4) = [] := by decide +kernel
  obtain ⟨hattribute, hslot, htakes⟩ := collects_of_build hb (0 : Fin 4)
  obtain ⟨-, -, hthing⟩ := collects_of_build hb (3 : Fin 4)
  rw [hattributes] at hattribute
  rw [hchildren] at hslot
  have hlantern : lanternHierarchy.takesElements (0 : Fin 4) = true :=
    htakes.2 (by rw [hchildren]; exact List.cons_ne_nil _ _)
  have hfalse : lanternHierarchy.takesElements (3 : Fin 4) = false :=
    Bool.eq_false_iff.2 fun h => hthing.1 h hnone
  exact ⟨hb, hattribute, hslot, hlantern, hfalse⟩

end BuilderGen.Hierarchy
