import BuilderGen.Hierarchy.Reference
import Mathlib.Data.List.Nodup

/-!
# What the table of spellings tells

The classes are entered into the table one after the other, each under all its spellings, of which
several may be equal. All the same each class stands once under each of its spellings.

* `EndsName`, `Spells`, `mem_spellings_iff`: the texts that spell a class, said without the list of
  its spellings;
* `enterAll_apply`: what entering a class changes;
* `spellingTable_apply`: under a spelling stand the classes that have it, in the order of the
  schema;
* `resolve_eq`: how a reference is resolved, by the classes that it spells.
-/

namespace BuilderGen.Hierarchy

open BuilderGen.Lineage (appendNew)
open BuilderGen.Schema (HostClass)

/-! ## 1. Spellings -/

/-- **A text is an end of the name of a class inside its package**: it is made of the last segments
of that name, of one at least. -/
def EndsName (s : String) (c : HostClass) : Prop :=
  ∃ names, names ≠ [] ∧ names <:+ Text.segments c.nestedName ∧ s = Text.joinDots names

/-- **A text spells a class**: it is the full name, or an end of the name inside the package. -/
def Spells (s : String) (c : HostClass) : Prop := s = c.qualifiedName ∨ EndsName s c

section

variable {α : Type} [BEq α] [LawfulBEq α]

theorem mem_eraseReps_loop {x a : α} {l front : List α} :
    x ∈ List.eraseRepsBy.loop (· == ·) a l front ↔ x = a ∨ x ∈ l ∨ x ∈ front := by
  induction l generalizing a front with
  | nil => simp [List.eraseRepsBy.loop, or_comm]
  | cons b rest ih =>
    rw [List.eraseRepsBy.loop]
    cases hab : a == b with
    | true =>
      obtain rfl : a = b := eq_of_beq hab
      rw [ih, List.mem_cons, or_assoc, or_self_left]
    | false =>
      rw [ih, List.mem_cons, List.mem_cons]
      tauto

/-- Leaving repetitions out takes no element away. -/
theorem mem_eraseReps {x : α} {l : List α} : x ∈ l.eraseReps ↔ x ∈ l := by
  cases l with
  | nil => rfl
  | cons a rest =>
    rw [List.eraseReps, List.eraseRepsBy, mem_eraseReps_loop, List.mem_cons]
    simp

end

/-- The ends of a name inside a package, as a list. -/
theorem endsName_iff_mem {s : String} {c : HostClass} :
    EndsName s c ↔ s ∈ (Text.properTails (Text.segments c.nestedName)).map Text.joinDots := by
  simp only [EndsName, List.mem_map, Text.mem_properTails, and_assoc, eq_comm]

/-- **The spellings of a class are the texts that spell it.** -/
theorem mem_spellings_iff {s : String} {c : HostClass} : s ∈ spellings c ↔ Spells s c := by
  rw [spellings, mem_eraseReps, List.mem_append, List.mem_singleton, ← endsName_iff_mem, or_comm]
  rfl

/-! ## 2. The table -/

namespace SpellingTable

variable {n : Nat}

theorem appendNew_of_mem {ids : List (Fin n)} {i : Fin n} (hi : i ∈ ids) :
    appendNew ids [i] = ids := if_pos hi

theorem appendNew_of_not_mem {ids : List (Fin n)} {i : Fin n} (hi : i ∉ ids) :
    appendNew ids [i] = ids ++ [i] := if_neg hi

theorem appendNew_again (ids : List (Fin n)) (i : Fin n) :
    appendNew (appendNew ids [i]) [i] = appendNew ids [i] := by
  by_cases hi : i ∈ ids
  · rw [appendNew_of_mem hi, appendNew_of_mem hi]
  · rw [appendNew_of_not_mem hi]
    exact appendNew_of_mem (List.mem_append_right _ (List.mem_singleton_self i))

/-- **A class is entered under its spellings and nowhere else**, once however often one of them is
repeated. -/
theorem enterAll_apply (i : Fin n) (names : List String) (table : SpellingTable n) (s : String) :
    table.enterAll i names s = if s ∈ names then appendNew (table s) [i] else table s := by
  induction names generalizing table with
  | nil => rfl
  | cons t rest ih =>
    have hstep : table.enterAll i (t :: rest) = (enter i table t).enterAll i rest := rfl
    rw [hstep, ih, enter]
    by_cases hs : s = t
    · rw [if_pos hs, if_pos (List.mem_cons.2 (.inl hs)), appendNew_again, ite_self]
    · have hmem : s ∈ t :: rest ↔ s ∈ rest := List.mem_cons.trans (or_iff_right hs)
      simp only [if_neg hs, hmem]

end SpellingTable

/-- Classes that are entered one after the other stand under a spelling in this order. -/
theorem foldl_enterAll_apply {n : Nat} (names : Fin n → List String) {ids : List (Fin n)}
    (hnd : ids.Nodup) (s : String) (table : SpellingTable n) (hnew : ∀ i ∈ ids, i ∉ table s) :
    ids.foldl (fun t i => t.enterAll i (names i)) table s =
      table s ++ ids.filter fun i => (names i).contains s := by
  induction ids generalizing table with
  | nil => simp
  | cons i rest ih =>
    obtain ⟨hi, hrest⟩ := List.nodup_cons.1 hnd
    obtain ⟨hinew, hnew⟩ := List.forall_mem_cons.1 hnew
    have hentered : table.enterAll i (names i) s =
        table s ++ [i].filter fun i => (names i).contains s := by
      rw [SpellingTable.enterAll_apply]
      by_cases hs : s ∈ names i
      · rw [if_pos hs, SpellingTable.appendNew_of_not_mem hinew]
        simp [hs]
      · simp [hs]
    have hleft : ∀ j ∈ rest, j ∉ table.enterAll i (names i) s := by
      intro j hj hmem
      rw [hentered, List.mem_append, List.mem_filter, List.mem_singleton] at hmem
      rcases hmem with hmem | ⟨rfl, -⟩
      · exact hnew j hj hmem
      · exact hi hj
    rw [List.foldl_cons, ih hrest _ hleft, hentered, List.append_assoc, ← List.filter_append,
      List.singleton_append]

/-- **Under a spelling stand the classes that have it**, each once, in the order of the schema. -/
theorem spellingTable_apply (classes : List HostClass) (s : String) :
    spellingTable classes s = candidates classes s := by
  rw [spellingTable, foldl_enterAll_apply _ (List.nodup_finRange _) s _ fun _ _ => List.not_mem_nil]
  rfl

/-- A reference is resolved by the classes that it spells. -/
theorem resolve_eq (classes : List HostClass) (r : String) : resolve classes r =
    match candidates classes (Text.trim r) with
    | [] => .error .missing
    | [i] => .ok i
    | several => .error (.ambiguous (several.map fun i => (classes.get i).qualifiedName)) := by
  rw [← spellingTable_apply]
  rfl

end BuilderGen.Hierarchy
