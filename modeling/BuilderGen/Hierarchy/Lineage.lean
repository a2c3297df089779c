/-!
# Lineages

The lineage of a node in a graph of parents lists its ancestors and ends with the node itself: the
lineages of its parents one after the other, each ancestor at its first place.

Lineages are settled depth first. A visit of a node settles its parents and then the node; while the
parents are visited the node stands on the path. So a node is in one of three states: it is settled,
it is on the path, or it has not come up yet. A visit of a node on the path closes a cycle.
-/

namespace BuilderGen.Lineage

variable {n : Nat}

/-! ## 1. One lineage -/

/-- A list with the elements of another one that it does not hold yet. -/
def appendNew {α : Type} [DecidableEq α] (order : List α) : List α → List α
  | [] => order
  | a :: rest => if a ∈ order then appendNew order rest else appendNew (order ++ [a]) rest

/-- The lineage of a node, from the lineages of its parents. -/
def lineageFrom (parentLineages : List (List (Fin n))) (node : Fin n) : List (Fin n) :=
  parentLineages.foldl appendNew [] ++ [node]

/-! ## 2. Visits -/

/-- The lineages that are settled. -/
abbrev Settled (n : Nat) := List (Fin n × List (Fin n))

/-- Whether a node is settled. -/
def Settled.has (s : Settled n) (i : Fin n) : Bool := (s.lookup i).isSome

/-- The lineage of a settled node. -/
def Settled.lineage (s : Settled n) (i : Fin n) : List (Fin n) := (s.lookup i).getD []

/-- The nodes that stay off the path when a node joins it. -/
def leave (fresh : List (Fin n)) (i : Fin n) : List (Fin n) := fresh.filter (· ≠ i)

/-- Each node that joins the path leaves fewer nodes off it. -/
theorem length_leave_lt {fresh : List (Fin n)} {i : Fin n} (h : i ∈ fresh) :
    (leave fresh i).length < fresh.length := by
  rw [leave, List.length_filter_lt_length_iff_exists]
  exact ⟨i, h, by simp⟩

mutual

/-- Settles a node, behind its parents. The nodes off the path are `fresh`. Fails with the node if
it is on the path. -/
def visit (parents : Fin n → List (Fin n)) (s : Settled n) (fresh : List (Fin n)) (i : Fin n) :
    Except (Fin n) (Settled n) :=
  if s.has i then .ok s
  else if i ∈ fresh then
    match visitAll parents s (leave fresh i) (parents i) with
    | .error k => .error k
    | .ok s' => .ok ((i, lineageFrom ((parents i).map s'.lineage) i) :: s')
  else .error i
termination_by (fresh.length, 0)
decreasing_by exact Prod.Lex.left _ _ (length_leave_lt ‹_›)

/-- Settles nodes one after the other, up to the first failure. -/
def visitAll (parents : Fin n → List (Fin n)) (s : Settled n) (fresh : List (Fin n)) :
    List (Fin n) → Except (Fin n) (Settled n)
  | [] => .ok s
  | p :: rest =>
    match visit parents s fresh p with
    | .error k => .error k
    | .ok s' => visitAll parents s' fresh rest
termination_by nodes => (fresh.length, nodes.length + 1)

end

/-- The lineage of every node, or a node on a cycle. -/
def table (parents : Fin n → List (Fin n)) : Except (Fin n) (Vector (List (Fin n)) n) :=
  match visitAll parents [] (List.finRange n) (List.finRange n) with
  | .error i => .error i
  | .ok settled => .ok (Vector.ofFn settled.lineage)

/-! ## 3. Descendants -/

/-- A table with a node entered under each of some others. -/
def enter (node : Fin n) (under : List (Fin n)) (t : Vector (List (Fin n)) n) :
    Vector (List (Fin n)) n :=
  under.foldl (fun t a => t.set a.val (t.get a ++ [node]) a.isLt) t

/-- The nodes below every node: each node is entered under its ancestors. -/
def descendants (lineages : Vector (List (Fin n)) n) : Vector (List (Fin n)) n :=
  (List.finRange n).foldl (fun t i => enter i ((lineages.get i).filter (· ≠ i)) t)
    (Vector.replicate n [])

end BuilderGen.Lineage
