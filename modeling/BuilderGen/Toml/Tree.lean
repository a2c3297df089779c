import BuilderGen.Data.Node

/-!
# Tables under construction

A table grows entry by entry, from headers and from dotted keys. How a table came about decides who
may add to it: a header opens a table once, a dotted key extends only tables that dotted keys of the
same section made, and nothing extends a value.
-/

namespace BuilderGen.Toml

open BuilderGen.Data (Node)

/-- How a table came about. -/
inductive Origin where
  /-- By its own header. -/
  | header
  /-- By the header of a table inside it. -/
  | implied
  /-- By a dotted key. -/
  | dotted
deriving DecidableEq, Repr

/-- What stands under a key. -/
inductive Item where
  | value (node : Node)
  | table (origin : Origin) (entries : List (String × Item))
  /-- An array of tables, each opened by a header of its own. -/
  | tables (elements : List (List (String × Item)))
deriving Inhabited

/-- The entries of a table under construction. -/
abbrev Entries := List (String × Item)

/-- Entries with what stands under a key replaced or added. -/
def Entries.put (key : String) (item : Item) : Entries → Entries
  | [] => [(key, item)]
  | (k, i) :: rest => if k = key then (k, item) :: rest else (k, i) :: Entries.put key item rest

/-! ## 1. Dotted keys -/

/-- Adds a value under a dotted key that is seen from a table: `inside` tells whether that table was
reached through a key that is dotted, and `origin` how it came about. A key of one part goes into
the table of a section, a longer one only into tables that dotted keys made. On the way, an array of
tables stands for the last of them. -/
def assign (inside : Bool) (origin : Origin) (value : Node) :
    List String → Entries → Option Entries
  | [], _ => none
  | [key], entries =>
    if inside && origin != .dotted then none
    else if (entries.lookup key).isSome then none
    else some (entries.put key (.value value))
  | key :: path, entries =>
    match entries.lookup key with
    | none => (assign true .dotted value path []).map fun es => entries.put key (.table .dotted es)
    | some (.table o es) =>
      if o = .header then none
      else (assign true o value path es).map fun es => entries.put key (.table o es)
    | some (.tables elements) =>
      match elements.getLast? with
      | some last =>
        (assign true .header value path last).map fun es =>
          entries.put key (.tables (elements.dropLast ++ [es]))
      | none => none
    | some (.value _) => none

/-! ## 2. Headers -/

/-- Opens the table of a header. -/
def openTable : List String → Entries → Option Entries
  | [], _ => none
  | [key], entries =>
    match entries.lookup key with
    | none => some (entries.put key (.table .header []))
    | some (.table .implied es) => some (entries.put key (.table .header es))
    | some _ => none
  | key :: path, entries =>
    match entries.lookup key with
    | none => (openTable path []).map fun es => entries.put key (.table .implied es)
    | some (.table o es) => (openTable path es).map fun es => entries.put key (.table o es)
    | some (.tables elements) =>
      match elements.getLast? with
      | some last =>
        (openTable path last).map fun es => entries.put key (.tables (elements.dropLast ++ [es]))
      | none => none
    | some (.value _) => none

/-- Opens one more table of an array of tables. -/
def openElement : List String → Entries → Option Entries
  | [], _ => none
  | [key], entries =>
    match entries.lookup key with
    | none => some (entries.put key (.tables [[]]))
    | some (.tables elements) => some (entries.put key (.tables (elements ++ [[]])))
    | some _ => none
  | key :: path, entries =>
    match entries.lookup key with
    | none => (openElement path []).map fun es => entries.put key (.table .implied es)
    | some (.table o es) => (openElement path es).map fun es => entries.put key (.table o es)
    | some (.tables elements) =>
      match elements.getLast? with
      | some last =>
        (openElement path last).map fun es => entries.put key (.tables (elements.dropLast ++ [es]))
      | none => none
    | some (.value _) => none

/-- Changes the entries of the table that a header opened. -/
def within (change : Entries → Option Entries) : List String → Entries → Option Entries
  | [], entries => change entries
  | key :: path, entries =>
    match entries.lookup key with
    | some (.table o es) => (within change path es).map fun es => entries.put key (.table o es)
    | some (.tables elements) =>
      match elements.getLast? with
      | some last =>
        (within change path last).map fun es =>
          entries.put key (.tables (elements.dropLast ++ [es]))
      | none => none
    | _ => none

/-! ## 3. Documents -/

mutual

/-- The document of an item. -/
def Item.node : Item → Node
  | .value n => n
  | .table _ entries => .table (entryNodes entries)
  | .tables elements => .list (tableNodes elements)

/-- The documents of entries. -/
def entryNodes : List (String × Item) → List (Option String × Node)
  | [] => []
  | (key, item) :: rest => (some key, item.node) :: entryNodes rest

/-- The documents of the tables of an array. -/
def tableNodes : List (List (String × Item)) → List Node
  | [] => []
  | es :: rest => .table (entryNodes es) :: tableNodes rest

end

end BuilderGen.Toml
