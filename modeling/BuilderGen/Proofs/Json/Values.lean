import BuilderGen.Proofs.Json.Reading

/-!
# Sampled values in printed documents

A sampled value that is printed inside a document is read as the value that it is, unless it is
nested too deeply to be read at all.

* `Ordered`: tables in the order of their keys, which is how sampled tables are kept;
* `Value.Storable`: the sampled values without fractions;
* `Value.depth`: how many lists and tables stand in one another;
* `sortEntries_of_ordered`: tables that are in order stay so when they are read;
* `Value.Storable.readsBack`: what is read of a value at a level.
-/

namespace BuilderGen.Data

open BuilderGen.Json (Plain readAt readItemsAt readEntriesAt maxLevel)

/-! ## 1. Tables in order -/

/-- A table is in the order of its keys, and each key stands once. -/
def Ordered (entries : List (String × Value)) : Prop := entries.Pairwise fun a b => a.1 < b.1

theorem ordered_of_keys {entries : List (String × Value)}
    (h : (entries.map Prod.fst).Pairwise (· < ·)) : Ordered entries := List.pairwise_map.1 h

/-- An entry behind all others is put at the end. -/
theorem insertEntry_of_lt {key : String} {value : Value} {entries : List (String × Value)}
    (h : ∀ e ∈ entries, e.1 < key) :
    insertEntry key value entries = entries ++ [(key, value)] := by
  induction entries with
  | nil => rfl
  | cons e entries ih =>
    obtain ⟨k, v⟩ := e
    have hk : k < key := h (k, v) List.mem_cons_self
    have hrest := ih fun f hf => h f (List.mem_cons_of_mem (k, v) hf)
    have hne : key ≠ k := fun e => String.lt_irrefl k (e ▸ hk)
    rw [insertEntry, if_neg (String.lt_asymm hk), if_neg hne, hrest, List.cons_append]

/-- **A table that is in order already stays as it is.** -/
theorem sortEntries_of_ordered {entries : List (String × Value)} (h : Ordered entries) :
    sortEntries entries = entries := by
  have hfold : ∀ before, Ordered (before ++ entries) →
      entries.foldl (fun sorted e => insertEntry e.1 e.2 sorted) before = before ++ entries := by
    clear h
    induction entries with
    | nil => exact fun before _ => (List.append_nil before).symm
    | cons e entries ih =>
      intro before hall
      have hlast : ∀ f ∈ before, f.1 < e.1 := fun f hf =>
        (List.pairwise_append.1 hall).2.2 f hf e List.mem_cons_self
      rw [List.foldl_cons, insertEntry_of_lt hlast, ih, List.append_assoc, List.singleton_append]
      rwa [List.append_assoc, List.singleton_append]
  exact hfold [] h

/-! ## 2. Values -/

/-- A sampled value without fractions: whole numbers have 64 bits, and tables are in order. -/
inductive Value.Storable : Value → Prop
  | null : Storable .null
  | bool (b : Bool) : Storable (.bool b)
  | int {n : Int} (hn : -(2 ^ 63) ≤ n ∧ n < 2 ^ 64) : Storable (.int n)
  | text (s : String) : Storable (.text s)
  | list {items : List Value} (hitems : ∀ v ∈ items, Storable v) : Storable (.list items)
  | table {entries : List (String × Value)} (hordered : Ordered entries)
      (hentries : ∀ e ∈ entries, Storable e.2) : Storable (.table entries)

mutual

/-- How many lists and tables stand in one another. -/
def Value.depth : Value → Nat
  | .list items => Value.itemsDepth items + 1
  | .table entries => Value.entriesDepth entries + 1
  | _ => 0

/-- The depth of the deepest item of a list. -/
def Value.itemsDepth : List Value → Nat
  | [] => 0
  | v :: rest => max v.depth (Value.itemsDepth rest)

/-- The depth of the deepest entry of a table. -/
def Value.entriesDepth : List (String × Value) → Nat
  | [] => 0
  | (_, v) :: rest => max v.depth (Value.entriesDepth rest)

end

theorem toItems_eq_map (items : List Value) : Value.toItems items = items.map Value.toNode := by
  induction items with
  | nil => rfl
  | cons v items ih => rw [Value.toItems, ih, List.map_cons]

/-- The document of a table is one of named entries. -/
theorem table_toEntries (entries : List (String × Value)) :
    .table (Value.toEntries entries) = Node.ofEntries (entries.map fun e => (e.1, e.2.toNode)) := by
  rw [Node.ofEntries, List.map_map]
  congr 1
  induction entries with
  | nil => rfl
  | cons e entries ih => rw [Value.toEntries, ih, List.map_cons, Function.comp_apply]

theorem plain_toEntries {entries : List (String × Value)}
    (h : ∀ e ∈ entries, Plain e.2.toNode) : Plain (.table (Value.toEntries entries)) := by
  rw [table_toEntries]
  exact .table (List.forall_mem_map.2 h)

/-- The document of a storable value is plain. -/
theorem Value.Storable.plain {v : Value} (hv : v.Storable) : Plain v.toNode := by
  induction hv with
  | null => exact .null
  | bool b => exact .bool b
  | int hn => exact .int hn
  | text s => exact .text s
  | list hitems ih =>
    rw [Value.toNode, toItems_eq_map]
    exact .list (List.forall_mem_map.2 ih)
  | table hordered hentries ih => exact plain_toEntries ih

/-! ## 3. Values that are read -/

theorem ofNode?_list (items : List Node) :
    Value.ofNode? (.list items) = (Value.ofItems? items).map .list := rfl

theorem ofNode?_table (entries : List (Option String × Node)) :
    Value.ofNode? (.table entries) = ((Value.ofEntries? entries).map sortEntries).map .table := by
  rw [Option.map_map]
  rfl

/-- A value is read back at the levels at which it is not too deep. -/
def ReadsBack (v : Value) : Prop :=
  ∀ level < maxLevel, Value.ofNode? (readAt level v.toNode) =
    if level + v.depth < maxLevel then some v else none

/-- A part that is read is read as part of the whole. -/
theorem map_ite_some {α β : Type} {p q : Prop} [Decidable p] [Decidable q] (hq : q ↔ p) (f : α → β)
    (a : α) : (if p then some a else none).map f = if q then some (f a) else none := by
  by_cases hp : p
  · rw [if_pos hp, if_pos (hq.2 hp)]
    rfl
  · rw [if_neg hp, if_neg (mt hq.1 hp)]
    rfl

/-- Two parts are put together if both are read. -/
theorem bind_ite_some {α β γ : Type} {p q r : Prop} [Decidable p] [Decidable q] [Decidable r]
    (hr : r ↔ p ∧ q) (f : α → β → γ) (a : α) (b : β) :
    ((if p then some a else none).bind fun x => (if q then some b else none).bind fun y =>
      some (f x y)) = if r then some (f a b) else none := by
  by_cases hp : p
  · by_cases hq : q
    · rw [if_pos hp, if_pos hq, if_pos (hr.2 ⟨hp, hq⟩)]
      rfl
    · rw [if_pos hp, if_neg hq, if_neg fun h => hq (hr.1 h).2]
      rfl
  · rw [if_neg hp, if_neg fun h => hp (hr.1 h).1]
    rfl

theorem ofItems?_readItemsAt {items : List Value} (hitems : ∀ v ∈ items, ReadsBack v)
    {level : Nat} (hlevel : level < maxLevel) :
    Value.ofItems? (readItemsAt level (Value.toItems items)) =
      if level + Value.itemsDepth items < maxLevel then some items else none := by
  induction items with
  | nil =>
    rw [Value.toItems, readItemsAt, Value.ofItems?, Value.itemsDepth, if_pos]
    exact hlevel
  | cons v items ih =>
    have hv := hitems v List.mem_cons_self level hlevel
    have hrest := ih fun w hw => hitems w (List.mem_cons_of_mem v hw)
    rw [Value.toItems, readItemsAt, Value.ofItems?, hv, hrest, Value.itemsDepth]
    exact bind_ite_some (by omega) List.cons v items

theorem ofEntries?_readEntriesAt {entries : List (String × Value)}
    (hentries : ∀ e ∈ entries, ReadsBack e.2) {level : Nat} (hlevel : level < maxLevel) :
    Value.ofEntries? (readEntriesAt level (Value.toEntries entries)) =
      if level + Value.entriesDepth entries < maxLevel then some entries else none := by
  induction entries with
  | nil =>
    rw [Value.toEntries, readEntriesAt, Value.ofEntries?, Value.entriesDepth, if_pos]
    exact hlevel
  | cons e entries ih =>
    obtain ⟨k, v⟩ := e
    have hv : ReadsBack v := hentries (k, v) List.mem_cons_self
    have hrest := ih fun f hf => hentries f (List.mem_cons_of_mem (k, v) hf)
    rw [Value.toEntries, readEntriesAt, Value.ofEntries?, hv level hlevel, hrest,
      Value.entriesDepth]
    exact bind_ite_some (by omega) (fun v entries => (k, v) :: entries) v entries

/-- The entries of a table are read and put in order, which they are in already. -/
theorem sortEntries_readEntriesAt {entries : List (String × Value)} (hordered : Ordered entries)
    (hentries : ∀ e ∈ entries, ReadsBack e.2) {level : Nat} (hlevel : level < maxLevel) :
    (Value.ofEntries? (readEntriesAt level (Value.toEntries entries))).map sortEntries =
      if level + Value.entriesDepth entries < maxLevel then some entries else none := by
  rw [ofEntries?_readEntriesAt hentries hlevel, map_ite_some Iff.rfl,
    sortEntries_of_ordered hordered]

/-- **What is read of a storable value at a level**: the value itself, unless it is too deep. -/
theorem Value.Storable.readsBack {v : Value} (hv : v.Storable) : ReadsBack v := by
  induction hv with
  | null => exact fun level hlevel => (if_pos hlevel).symm
  | bool b => exact fun level hlevel => (if_pos hlevel).symm
  | int hn => exact fun level hlevel => (if_pos hn).trans (if_pos hlevel).symm
  | text s => exact fun level hlevel => (if_pos hlevel).symm
  | @list items hitems ih =>
    intro level hlevel
    rw [Value.toNode, readAt, Value.depth]
    by_cases hopen : level + 1 < maxLevel
    · rw [if_pos hopen, ofNode?_list, ofItems?_readItemsAt ih hopen]
      exact map_ite_some (by omega) Value.list items
    · rw [if_neg hopen, if_neg (by omega)]
      rfl
  | @table entries hordered hentries ih =>
    intro level hlevel
    rw [Value.toNode, readAt, Value.depth]
    by_cases hopen : level + 1 < maxLevel
    · rw [if_pos hopen, ofNode?_table, sortEntries_readEntriesAt hordered ih hopen]
      exact map_ite_some (by omega) Value.table entries
    · rw [if_neg hopen, if_neg (by omega)]
      rfl

end BuilderGen.Data
