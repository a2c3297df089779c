import BuilderGen.Data.Node
import BuilderGen.Json.Token

/-!
# Reading JSON texts

A document is read token by token. The state is what may follow, over a stack of the lists and
tables that are still open, so reading is one pass over the tokens and ends with them.

Lists and tables may be nested to any depth, but those at level 128 or deeper have no value. A
string with half of a surrogate pair and a number out of range have none either.
-/

namespace BuilderGen.Json

open BuilderGen.Data (Node)
open BuilderGen.Number (Numeral)

/-! ## 1. Scalars -/

/-- The value of a number. One without a fraction and an exponent is whole if it fits in 64 bits,
except for minus zero; all others are read by the scaled rule. -/
def numberNode (n : Numeral) : Node :=
  let real := match n.scaled? with
    | some d => Node.real d
    | none => .unreadable
  if n.fraction.isSome || n.exponent.isSome then real
  else
    let magnitude := Number.digitsValue 0 n.whole
    if n.negative then
      if 0 < magnitude && magnitude ≤ Nat.pow 2 63 then .int (-magnitude) else real
    else if magnitude ≤ Number.maxWord then .int magnitude else real

/-- The value of a string. -/
def stringNode (units : List Unit16) : Node :=
  match joinUnits units with
  | some s => .text (String.ofList s)
  | none => .unreadable

/-- The value of a token that is a whole scalar. -/
def scalar? : Token → Option Node
  | .null => some .null
  | .bool b => some (.bool b)
  | .number n => some (numberNode n)
  | .string units => some (stringNode units)
  | _ => none

/-! ## 2. States -/

/-- A list or table that is still open while one of its items is read. What is read already is in
reverse order. -/
inductive Frame where
  | list (items : List Node)
  | entry (entries : List (Option String × Node)) (key : Option String)

/-- What may follow. -/
inductive State where
  /-- A value. -/
  | value (stack : List Frame)
  /-- The first item of a list, or its end. -/
  | openList (stack : List Frame)
  /-- The end of a list, or a comma. -/
  | inList (stack : List Frame) (items : List Node)
  /-- The first key of a table, or its end. -/
  | openTable (stack : List Frame)
  /-- A key. -/
  | key (stack : List Frame) (entries : List (Option String × Node))
  /-- The colon behind a key. -/
  | colon (stack : List Frame) (entries : List (Option String × Node)) (key : Option String)
  /-- The end of a table, or a comma. -/
  | inTable (stack : List Frame) (entries : List (Option String × Node))
  /-- Nothing. -/
  | done (result : Node)

/-- The level from which lists and tables have no value. -/
def maxLevel : Nat := 128

/-- A list or table that was closed inside `stack`. -/
def sealed (stack : List Frame) (n : Node) : Node :=
  if stack.length + 1 < maxLevel then n else .unreadable

/-- The state behind a value that was read inside `stack`. -/
def place (n : Node) : List Frame → State
  | [] => .done n
  | .list items :: stack => .inList stack (n :: items)
  | .entry entries key :: stack => .inTable stack ((key, n) :: entries)

/-- The state behind a token with which a value starts. -/
def beginValue (stack : List Frame) (t : Token) : Option State :=
  match t with
  | .openList => some (.openList stack)
  | .openTable => some (.openTable stack)
  | t => (scalar? t).map (place · stack)

/-- The key that a token is. -/
def keyOf : Token → Option (Option String)
  | .string units => some ((joinUnits units).map String.ofList)
  | _ => none

/-- The state behind a token, if the token may follow. -/
def step : State → Token → Option State
  | .value stack, t => beginValue stack t
  | .openList stack, t =>
    match t with
    | .closeList => some (place (sealed stack (.list [])) stack)
    | t => beginValue (.list [] :: stack) t
  | .inList stack items, t =>
    match t with
    | .comma => some (.value (.list items :: stack))
    | .closeList => some (place (sealed stack (.list items.reverse)) stack)
    | _ => none
  | .openTable stack, t =>
    match t with
    | .closeTable => some (place (sealed stack (.table [])) stack)
    | t => (keyOf t).map (.colon stack [])
  | .key stack entries, t => (keyOf t).map (.colon stack entries)
  | .colon stack entries key, t =>
    match t with
    | .colon => some (.value (.entry entries key :: stack))
    | _ => none
  | .inTable stack entries, t =>
    match t with
    | .comma => some (.key stack entries)
    | .closeTable => some (place (sealed stack (.table entries.reverse)) stack)
    | _ => none
  | .done _, _ => none

/-- The state behind several tokens. -/
def run (s : State) (ts : List Token) : Option State := ts.foldlM step s

/-- The document that a text holds, if the text is well formed. -/
def read? (text : String) : Option Node := do
  match ← run (.value []) (← tokens text.toList) with
  | .done n => return n
  | _ => none

end BuilderGen.Json
