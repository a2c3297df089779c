import BuilderGen.Data.Value

/-!
# Records in documents

A record is written as a table of its fields, or as a list of their values in the order of their
declaration. Unknown fields of a table are passed over, and a known one must not be repeated. A
field that is missing takes its default, if it has one. The written forms differ in what else they
pass over.
-/

namespace BuilderGen.Schema

open BuilderGen.Data (Node Value)

/-! ## 1. Written forms -/

/-- What a written form passes over in a record. -/
structure RecordForm where
  /-- Whether a list may be longer than the record. The items behind its fields then may hold
  anything. -/
  passesItems : Bool
  /-- Whether an unknown field may hold something without a value. -/
  passesUnreadable : Bool
deriving DecidableEq, Repr

/-- Records in JSON: a list must not be too long, but an unknown field may hold anything. -/
def RecordForm.json : RecordForm := ⟨false, true⟩

/-- Records in TOML: a list may be too long, but an unknown field must have a value. -/
def RecordForm.toml : RecordForm := ⟨true, false⟩

/-! ## 2. Fields -/

/-- The fields of a record that a document gives, by name. -/
abbrev Fields := List (String × Node)

/-- The known entries of a table, unless one is repeated, a key has no value, or an unknown entry is
not to be passed over. -/
def knownEntries (form : RecordForm) (names : List String) :
    List (Option String × Node) → Option Fields
  | [] => some []
  | (none, _) :: _ => none
  | (some key, node) :: rest =>
    match knownEntries form names rest with
    | none => none
    | some fields =>
      if key ∉ names then
        if form.passesUnreadable || node.isReadable then some fields else none
      else if (fields.lookup key).isSome then none
      else some ((key, node) :: fields)

/-- The fields of the record with the given field names that a node writes. -/
def fields? (form : RecordForm) (names : List String) : Node → Option Fields
  | .table entries => knownEntries form names entries
  | .list items =>
    if form.passesItems || items.length ≤ names.length then some (names.zip items) else none
  | _ => none

/-- A field without a default. -/
def Fields.required {α : Type} (fields : Fields) (name : String) (read : Node → Option α) :
    Option α :=
  (fields.lookup name).bind read

/-- A field with a default. -/
def Fields.withDefault {α : Type} (fields : Fields) (name : String) (default : α)
    (read : Node → Option α) : Option α :=
  match fields.lookup name with
  | some node => read node
  | none => some default

/-! ## 3. Field values -/

/-- A text. -/
def text? : Node → Option String
  | .text s => some s
  | _ => none

/-- A truth value. -/
def bool? : Node → Option Bool
  | .bool b => some b
  | _ => none

/-- A natural number that fits in 64 bits. -/
def nat? : Node → Option Nat
  | .int n => if 0 ≤ n ∧ n < Nat.pow 2 64 then some n.toNat else none
  | _ => none

/-- What may be null. -/
def nullable? {α : Type} (read : Node → Option α) : Node → Option (Option α)
  | .null => some none
  | node => (read node).map some

/-- A list. -/
def list? {α : Type} (read : Node → Option α) : Node → Option (List α)
  | .list items => items.mapM read
  | _ => none

/-- A table of sampled values under arbitrary keys. -/
def samples? : Node → Option (List (String × Value))
  | .table entries => (Value.ofEntries? entries).map Data.sortEntries
  | _ => none

end BuilderGen.Schema
