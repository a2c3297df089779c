import BuilderGen.Hierarchy.Lineage
import BuilderGen.Schema.Basic
import BuilderGen.Text.Blank

/-!
# References to classes of a schema

A class may be referred to by its full name, or by any end of its name inside the package that
starts at a class: `Outer.Inner` and `Inner` both mean a class nested in `Outer`. A table tells for
each spelling the classes that it may mean; the classes are entered one after the other. A reference
means a class only if no other class can be spelled the same way.
-/

namespace BuilderGen.Hierarchy

open BuilderGen.Schema (HostClass)

/-! ## 1. Spellings -/

/-- The spellings of a class, without one that repeats the spelling in front of it. -/
def spellings (c : HostClass) : List String :=
  ((Text.properTails (Text.segments c.nestedName)).map Text.joinDots ++ [c.qualifiedName]).eraseReps

/-- The positions of the classes with a spelling, in the order of the schema. -/
def candidates (classes : List HostClass) (spelling : String) : List (Fin classes.length) :=
  (List.finRange classes.length).filter fun i => (spellings (classes.get i)).contains spelling

theorem mem_candidates {classes : List HostClass} {spelling : String} {i : Fin classes.length} :
    i ∈ candidates classes spelling ↔ spelling ∈ spellings (classes.get i) := by
  simp [candidates]

/-! ## 2. The table of spellings -/

/-- For each spelling the positions of the classes that it may mean. -/
abbrev SpellingTable (n : Nat) := String → List (Fin n)

namespace SpellingTable

variable {n : Nat}

/-- The table of no classes. -/
def empty : SpellingTable n := fun _ => []

/-- A table with a class entered under a spelling, unless it is there. -/
def enter (i : Fin n) (table : SpellingTable n) (spelling : String) : SpellingTable n :=
  fun s => if s = spelling then Lineage.appendNew (table s) [i] else table s

/-- A table with a class entered under all its spellings. -/
def enterAll (i : Fin n) (spellings : List String) (table : SpellingTable n) : SpellingTable n :=
  spellings.foldl (enter i) table

end SpellingTable

/-- The table of some classes. -/
def spellingTable (classes : List HostClass) : SpellingTable classes.length :=
  (List.finRange classes.length).foldl
    (fun table i => table.enterAll i (spellings (classes.get i))) .empty

/-! ## 3. Resolution -/

/-- Why a reference does not mean a class. -/
inductive ReferenceFault where
  | missing
  /-- The full names of all classes that it may mean. -/
  | ambiguous (candidates : List String)
deriving DecidableEq, Repr

/-- The class that a reference means. Blanks around the reference do not count. -/
def resolve (classes : List HostClass) (reference : String) :
    Except ReferenceFault (Fin classes.length) :=
  match spellingTable classes (Text.trim reference) with
  | [] => .error .missing
  | [i] => .ok i
  | several => .error (.ambiguous (several.map fun i => (classes.get i).qualifiedName))

end BuilderGen.Hierarchy
