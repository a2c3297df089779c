import BuilderGen.Proofs.Hierarchy.Acceptance

/-!
# Inherited members

The members that the classes of a lineage declare are collected in order, and a member takes the
place of an earlier one with its key.

* `keys_override`: the keys behind one more member;
* `nodup_keys_inherited`: no two inherited members have one key;
* `mem_inherited`, `inherited_eq_nil`: where inherited members come from, and when there are none;
* `takesElements_iff`: a class takes nested elements exactly if it has a setter for them;
* `Valid.property_of_attribute`: the setter of an inherited attribute is `set` and an identifier.
-/

namespace BuilderGen.Hierarchy

open BuilderGen.Schema

/-! ## 1. One more member -/

section Override

variable {α : Type} {key : α → String}

/-- One more member adds its key behind the others, if it is a new one. -/
theorem keys_override (m : α) (all : List α) : (override key m all).map key =
    if key m ∈ all.map key then all.map key else all.map key ++ [key m] := by
  induction all with
  | nil => rfl
  | cons a rest ih =>
    rw [override]
    by_cases ha : key a = key m
    · rw [if_pos ha, List.map_cons, List.map_cons, ha, if_pos List.mem_cons_self]
    · rw [if_neg ha, List.map_cons, List.map_cons, ih]
      simp only [List.mem_cons, Ne.symm ha, false_or]
      by_cases hm : key m ∈ rest.map key
      · rw [if_pos hm, if_pos hm]
      · rw [if_neg hm, if_neg hm, List.cons_append]

theorem nodup_keys_override (m : α) {all : List α} (h : (all.map key).Nodup) :
    ((override key m all).map key).Nodup := by
  rw [keys_override]
  by_cases hm : key m ∈ all.map key
  · rw [if_pos hm]
    exact h
  · rw [if_neg hm]
    exact List.nodup_append.2 ⟨h, List.nodup_singleton _, fun k hk k' hk' e =>
      hm (List.mem_singleton.1 hk' ▸ e ▸ hk)⟩

theorem mem_keys_override {k : String} (m : α) (all : List α) :
    k ∈ (override key m all).map key ↔ k ∈ all.map key ∨ k = key m := by
  rw [keys_override]
  by_cases hm : key m ∈ all.map key
  · rw [if_pos hm]
    exact ⟨.inl, fun h => h.elim id fun e => e ▸ hm⟩
  · rw [if_neg hm, List.mem_append, List.mem_singleton]

theorem mem_of_mem_override {x m : α} {all : List α} (hx : x ∈ override key m all) :
    x = m ∨ x ∈ all := by
  induction all with
  | nil => exact .inl (List.mem_singleton.1 hx)
  | cons a rest ih =>
    rw [override] at hx
    by_cases ha : key a = key m
    · rw [if_pos ha] at hx
      exact (List.mem_cons.1 hx).imp_right (List.mem_cons_of_mem a)
    · rw [if_neg ha] at hx
      rcases List.mem_cons.1 hx with rfl | hx
      · exact .inr List.mem_cons_self
      · exact (ih hx).imp_right (List.mem_cons_of_mem a)

/-! ## 2. Several members -/

theorem nodup_keys_foldl_override (ms : List α) {all : List α} (h : (all.map key).Nodup) :
    ((ms.foldl (fun all m => override key m all) all).map key).Nodup := by
  induction ms generalizing all with
  | nil => exact h
  | cons m rest ih => exact ih (nodup_keys_override m h)

theorem mem_keys_foldl_override {k : String} (ms all : List α) :
    k ∈ (ms.foldl (fun all m => override key m all) all).map key ↔
      k ∈ all.map key ∨ k ∈ ms.map key := by
  induction ms generalizing all with
  | nil => simp
  | cons m rest ih =>
    rw [List.foldl_cons, ih, mem_keys_override, List.map_cons, List.mem_cons, or_assoc]

theorem mem_of_mem_foldl_override {x : α} {ms all : List α}
    (hx : x ∈ ms.foldl (fun all m => override key m all) all) : x ∈ ms ∨ x ∈ all := by
  induction ms generalizing all with
  | nil => exact .inr hx
  | cons m rest ih =>
    rcases ih hx with h | h
    · exact .inl (List.mem_cons_of_mem m h)
    · rcases mem_of_mem_override h with rfl | h
      · exact .inl List.mem_cons_self
      · exact .inr h

end Override

/-! ## 3. Members of a lineage -/

section Inherited

variable {α : Type} {h : Hierarchy} {key : α → String} {members : HostClass → List α} {i : h.Id}

/-- **No two inherited members have one key.** -/
theorem nodup_keys_inherited (h : Hierarchy) (key : α → String) (members : HostClass → List α)
    (i : h.Id) : ((h.inherited key members i).map key).Nodup :=
  nodup_keys_foldl_override _ List.nodup_nil

/-- An inherited member is declared by a class of the lineage. -/
theorem mem_inherited {x : α} (hx : x ∈ h.inherited key members i) :
    ∃ a ∈ h.lineage i, x ∈ members (h.get a) :=
  List.mem_flatMap.1 ((mem_of_mem_foldl_override hx).resolve_right List.not_mem_nil)

/-- Nothing is inherited exactly if no class of the lineage declares anything. -/
theorem inherited_eq_nil :
    h.inherited key members i = [] ↔ ∀ a ∈ h.lineage i, members (h.get a) = [] := by
  have hkeys : ∀ k, k ∈ (h.inherited key members i).map key ↔
      k ∈ ((h.lineage i).flatMap fun a => members (h.get a)).map key := by
    intro k
    rw [inherited, mem_keys_foldl_override, List.map_nil]
    exact or_iff_right List.not_mem_nil
  rw [← List.flatMap_eq_nil_iff, ← List.map_eq_nil_iff (f := key),
    ← List.map_eq_nil_iff (f := key) (l := List.flatMap _ _), List.eq_nil_iff_forall_not_mem,
    List.eq_nil_iff_forall_not_mem]
  exact forall_congr' fun k => not_congr (hkeys k)

end Inherited

/-- **A class takes nested elements exactly if it has a setter for them.** -/
theorem takesElements_iff {h : Hierarchy} {i : h.Id} :
    h.takesElements i = true ↔ h.children i ≠ [] := by
  rw [takesElements, List.any_eq_true, children, ne_eq, inherited_eq_nil]
  simp

namespace Valid

variable {h : Hierarchy} (hv : h.Valid) {i : h.Id}
include hv

/-- The setter of an inherited attribute is `set` with an identifier behind it. -/
theorem property_of_attribute {a : Attribute} (ha : a ∈ h.attributes i) :
    ∃ property, a.setter = "set" ++ property ∧ Name.isIdentifier property = true := by
  obtain ⟨c, -, hc⟩ := mem_inherited ha
  have hwell := hv.wellFormed.each (h.get c) (List.get_mem _ _)
  exact hwell.setters _ (List.mem_append_left _ (List.mem_map_of_mem hc))

end Valid

end BuilderGen.Hierarchy
