/-!
# Sorted sets of names

Names in increasing order, by code points, each of them once.
-/

namespace BuilderGen.Text

/-- A sorted set with one more name. -/
def insertSorted (s : String) : List String → List String
  | [] => [s]
  | t :: rest =>
    if s < t then s :: t :: rest else if s = t then t :: rest else t :: insertSorted s rest

/-- The sorted set of the names of a list. -/
def sortedSet (names : List String) : List String := names.foldr insertSorted []

@[simp] theorem mem_insertSorted {s t : String} {l : List String} :
    t ∈ insertSorted s l ↔ t = s ∨ t ∈ l := by
  induction l with
  | nil => simp [insertSorted]
  | cons u rest ih =>
    unfold insertSorted
    split
    · simp
    · split
      · rename_i h
        simp [h]
      · simp [ih, or_left_comm]

/-- Sorting neither loses nor adds a name. -/
@[simp] theorem mem_sortedSet {s : String} {names : List String} :
    s ∈ sortedSet names ↔ s ∈ names := by
  induction names with
  | nil => simp [sortedSet]
  | cons t rest ih =>
    have : sortedSet (t :: rest) = insertSorted t (sortedSet rest) := rfl
    simp [this, ih]

end BuilderGen.Text
