import BuilderGen.Data.Node

/-!
# Sampled values

What a getter returned, or a field held, on a freshly created instance. The entries of a table are
in the order of their keys, and each key stands once; when a document repeats a key, its last entry
counts.
-/

namespace BuilderGen.Data

/-! ## 1. The type -/

/-- A sampled value. -/
inductive Value where
  | null
  | bool (b : Bool)
  | int (n : Int)
  | real (d : Number.Double)
  | text (s : String)
  | list (items : List Value)
  | table (entries : List (String × Value))
deriving Inhabited

mutual

/-- Two sampled values are compared part by part. -/
def Value.decEq : (a b : Value) → Decidable (a = b)
  | .null, .null => isTrue rfl
  | .bool a, .bool b => decidable_of_iff (a = b) (by simp)
  | .int a, .int b => decidable_of_iff (a = b) (by simp)
  | .real a, .real b => decidable_of_iff (a = b) (by simp)
  | .text a, .text b => decidable_of_iff (a = b) (by simp)
  | .list a, .list b =>
    match Value.decEqItems a b with
    | isTrue h => isTrue (by rw [h])
    | isFalse h => isFalse (by simpa using h)
  | .table a, .table b =>
    match Value.decEqEntries a b with
    | isTrue h => isTrue (by rw [h])
    | isFalse h => isFalse (by simpa using h)
  | .null, .bool _ | .null, .int _ | .null, .real _ | .null, .text _ | .null, .list _
  | .null, .table _ | .bool _, .null | .bool _, .int _ | .bool _, .real _ | .bool _, .text _
  | .bool _, .list _ | .bool _, .table _ | .int _, .null | .int _, .bool _ | .int _, .real _
  | .int _, .text _ | .int _, .list _ | .int _, .table _ | .real _, .null | .real _, .bool _
  | .real _, .int _ | .real _, .text _ | .real _, .list _ | .real _, .table _ | .text _, .null
  | .text _, .bool _ | .text _, .int _ | .text _, .real _ | .text _, .list _ | .text _, .table _
  | .list _, .null | .list _, .bool _ | .list _, .int _ | .list _, .real _ | .list _, .text _
  | .list _, .table _ | .table _, .null | .table _, .bool _ | .table _, .int _ | .table _, .real _
  | .table _, .text _ | .table _, .list _ => isFalse (by simp)

/-- Two lists of sampled values, compared item by item. -/
def Value.decEqItems : (a b : List Value) → Decidable (a = b)
  | [], [] => isTrue rfl
  | [], _ :: _ => isFalse (by simp)
  | _ :: _, [] => isFalse (by simp)
  | x :: xs, y :: ys =>
    match Value.decEq x y, Value.decEqItems xs ys with
    | isTrue h, isTrue t => isTrue (by rw [h, t])
    | isFalse h, _ => isFalse (by simp [h])
    | _, isFalse t => isFalse (by simp [t])

/-- Two lists of entries, compared entry by entry. -/
def Value.decEqEntries : (a b : List (String × Value)) → Decidable (a = b)
  | [], [] => isTrue rfl
  | [], _ :: _ => isFalse (by simp)
  | _ :: _, [] => isFalse (by simp)
  | (k, x) :: xs, (l, y) :: ys =>
    if hk : k = l then
      match Value.decEq x y, Value.decEqEntries xs ys with
      | isTrue h, isTrue t => isTrue (by rw [hk, h, t])
      | isFalse h, _ => isFalse (by simp [h])
      | _, isFalse t => isFalse (by simp [t])
    else isFalse (by simp [hk])

end

instance : DecidableEq Value := Value.decEq

/-! ## 2. Entries in order -/

/-- Entries with one more, which replaces an entry of the same key. -/
def insertEntry (key : String) (value : Value) : List (String × Value) → List (String × Value)
  | [] => [(key, value)]
  | (k, v) :: rest =>
    if key < k then (key, value) :: (k, v) :: rest
    else if key = k then (key, value) :: rest
    else (k, v) :: insertEntry key value rest

/-- The entries of a list in the order of their keys, the last one of each key. -/
def sortEntries (entries : List (String × Value)) : List (String × Value) :=
  entries.foldl (fun sorted e => insertEntry e.1 e.2 sorted) []

/-! ## 3. Values and documents -/

mutual

/-- The value of a node. A whole number has to fit in 64 bits, with or without a sign; what is not
a number at all counts as null. -/
def Value.ofNode? : Node → Option Value
  | .null => some .null
  | .bool b => some (.bool b)
  | .int n => if -(2 ^ 63) ≤ n ∧ n < 2 ^ 64 then some (.int n) else none
  | .real d => some (if d.isFinite then .real d else .null)
  | .text s => some (.text s)
  | .list items => (Value.ofItems? items).map .list
  | .table entries => (Value.ofEntries? entries).map fun es => .table (sortEntries es)
  | .unreadable => none

/-- The values of the items of a list. -/
def Value.ofItems? : List Node → Option (List Value)
  | [] => some []
  | n :: rest => do return (← Value.ofNode? n) :: (← Value.ofItems? rest)

/-- The values of the entries of a table, in the order of the text. -/
def Value.ofEntries? : List (Option String × Node) → Option (List (String × Value))
  | [] => some []
  | (key, n) :: rest => do return (← key, ← Value.ofNode? n) :: (← Value.ofEntries? rest)

end

mutual

/-- The document that consists of a value. -/
def Value.toNode : Value → Node
  | .null => .null
  | .bool b => .bool b
  | .int n => .int n
  | .real d => .real d
  | .text s => .text s
  | .list items => .list (Value.toItems items)
  | .table entries => .table (Value.toEntries entries)

/-- The documents of the items of a list. -/
def Value.toItems : List Value → List Node
  | [] => []
  | v :: rest => v.toNode :: Value.toItems rest

/-- The documents of the entries of a table. -/
def Value.toEntries : List (String × Value) → List (Option String × Node)
  | [] => []
  | (key, v) :: rest => (some key, v.toNode) :: Value.toEntries rest

end

end BuilderGen.Data
