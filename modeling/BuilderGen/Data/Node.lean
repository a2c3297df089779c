import BuilderGen.Number.Double

/-!
# Documents

What a schema file says before its entries are given a meaning: a tree of scalars, lists and
tables. The two written forms of a schema, JSON and TOML, are both read into it, so the rules on
fields, defaults and duplicates exist once.

A text can be well formed and still hold something without a value, such as half of a surrogate
pair or a number out of range. It is kept as `unreadable`, because it only matters where it is
looked at, and the written forms differ in what they look at.
-/

namespace BuilderGen.Data

/-- A node of a document. A table keeps its entries in the order of the text; a key that has no
value as a text is `none`. -/
inductive Node where
  | null
  | bool (b : Bool)
  | int (n : Int)
  | real (d : Number.Double)
  | text (s : String)
  | list (items : List Node)
  | table (entries : List (Option String × Node))
  | unreadable
deriving Inhabited

/-- The table with the given named entries. -/
def Node.ofEntries (entries : List (String × Node)) : Node :=
  .table (entries.map fun e => (some e.1, e.2))

mutual

/-- Whether everything in a document has a value. -/
def Node.isReadable : Node → Bool
  | .unreadable => false
  | .list items => areReadableItems items
  | .table entries => areReadableEntries entries
  | _ => true

/-- Whether everything in the items of a list has a value. -/
def areReadableItems : List Node → Bool
  | [] => true
  | n :: rest => n.isReadable && areReadableItems rest

/-- Whether everything in the entries of a table has a value. -/
def areReadableEntries : List (Option String × Node) → Bool
  | [] => true
  | (key, n) :: rest => key.isSome && n.isReadable && areReadableEntries rest

end

end BuilderGen.Data
