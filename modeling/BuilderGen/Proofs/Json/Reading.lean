import BuilderGen.Proofs.Json.Tokens

/-!
# Reading a printed document

A plain document that was printed is read as the document that it is. Only where lists and tables
are nested too deeply to be read, nothing is left of them.

* `readAt`: what is read of a document at a level;
* `run_tokensOf`: its tokens are read to the end, whatever is still open around them;
* `read?_text`: what is read of its text.
-/

namespace BuilderGen.Json

open BuilderGen.Data (Node)

/-! ## 1. Levels -/

mutual

/-- What is read of a document at a level: lists and tables that are too deep have no value. -/
def readAt (level : Nat) : Node → Node
  | .list items =>
    if level + 1 < maxLevel then .list (readItemsAt (level + 1) items) else .unreadable
  | .table entries =>
    if level + 1 < maxLevel then .table (readEntriesAt (level + 1) entries) else .unreadable
  | n => n

/-- What is read of the items of a list. -/
def readItemsAt (level : Nat) : List Node → List Node
  | [] => []
  | n :: rest => readAt level n :: readItemsAt level rest

/-- What is read of the entries of a table. -/
def readEntriesAt (level : Nat) : List (Option String × Node) → List (Option String × Node)
  | [] => []
  | (k, n) :: rest => (k, readAt level n) :: readEntriesAt level rest

end

@[simp] theorem readAt_text (level : Nat) (s : String) : readAt level (.text s) = .text s := rfl

@[simp] theorem readAt_bool (level : Nat) (b : Bool) : readAt level (.bool b) = .bool b := rfl

@[simp] theorem readAt_int (level : Nat) (n : Int) : readAt level (.int n) = .int n := rfl

theorem readItemsAt_eq_map (level : Nat) (items : List Node) :
    readItemsAt level items = items.map (readAt level) := by
  induction items with
  | nil => rfl
  | cons n items ih => rw [readItemsAt, ih, List.map_cons]

theorem readEntriesAt_eq_map (level : Nat) (entries : List (Option String × Node)) :
    readEntriesAt level entries = entries.map fun e => (e.1, readAt level e.2) := by
  induction entries with
  | nil => rfl
  | cons e entries ih => rw [readEntriesAt, ih, List.map_cons]

/-- What is read of a list of documents of one kind. -/
theorem readAt_list_map {α : Type} {level : Nat} (hlevel : level + 1 < maxLevel) (f : α → Node)
    (items : List α) :
    readAt level (.list (items.map f)) = .list (items.map fun a => readAt (level + 1) (f a)) := by
  rw [readAt, if_pos hlevel, readItemsAt_eq_map, List.map_map]
  rfl

/-- What is read of a table of named entries. -/
theorem readAt_ofEntries {level : Nat} (hlevel : level + 1 < maxLevel)
    (entries : List (String × Node)) :
    readAt level (.ofEntries entries) =
      .ofEntries (entries.map fun e => (e.1, readAt (level + 1) e.2)) := by
  rw [Node.ofEntries, readAt, if_pos hlevel, readEntriesAt_eq_map, List.map_map, Node.ofEntries,
    List.map_map]
  rfl

/-- What is read of a list that is closed inside `stack`. -/
theorem readAt_list (stack : List Frame) (items : List Node) :
    readAt stack.length (.list items) =
      sealed stack (.list (readItemsAt (stack.length + 1) items)) := by
  rw [readAt, sealed]

/-- What is read of a table that is closed inside `stack`. -/
theorem readAt_table (stack : List Frame) (entries : List (Option String × Node)) :
    readAt stack.length (.table entries) =
      sealed stack (.table (readEntriesAt (stack.length + 1) entries)) := by
  rw [readAt, sealed]

/-! ## 2. Reading tokens -/

theorem run_cons {s s' : State} {t : Token} (h : step s t = some s') (ts : List Token) :
    run s (t :: ts) = run s' ts := by
  rw [run, List.foldlM_cons, h]
  rfl

/-- The tokens of a document are read inside any lists and tables. -/
def ReadsInside (n : Node) : Prop :=
  ∀ stack ts, run (.value stack) (tokensOf n ++ ts) = run (place (readAt stack.length n) stack) ts

/-- Items may follow where a list was opened. -/
theorem run_openList {n : Node} (hn : Plain n) (items : List Node) (stack : List Frame)
    (ts : List Token) :
    run (.openList stack) (itemTokens (n :: items) ++ ts) =
      run (.value (.list [] :: stack)) (itemTokens (n :: items) ++ ts) := by
  cases items with
  | nil => cases hn <;> rfl
  | cons m items => cases hn <;> rfl

/-- Entries may follow where a table was opened. -/
theorem run_openTable (e : Option String × Node) (entries : List (Option String × Node))
    (stack : List Frame) (ts : List Token) :
    run (.openTable stack) (entryTokens (e :: entries) ++ ts) =
      run (.key stack []) (entryTokens (e :: entries) ++ ts) := by
  cases entries with
  | nil => rfl
  | cons f entries => rfl

/-- The items of a list are read one after the other, behind those that were read before. -/
theorem run_itemTokens {n : Node} {items : List Node} (hitems : ∀ m ∈ n :: items, ReadsInside m)
    (before : List Node) (stack : List Frame) (ts : List Token) :
    run (.value (.list before :: stack)) (itemTokens (n :: items) ++ .closeList :: ts) =
      run (place (sealed stack
        (.list (before.reverse ++ readItemsAt (stack.length + 1) (n :: items)))) stack) ts := by
  induction items generalizing n before with
  | nil =>
    rw [itemTokens, hitems n List.mem_cons_self, List.length_cons, place, run_cons rfl,
      List.reverse_cons, readItemsAt, readItemsAt]
  | cons m items ih =>
    have hbehind := ih fun k hk => hitems k (List.mem_cons_of_mem n hk)
    rw [itemTokens, List.append_assoc, hitems n List.mem_cons_self, List.length_cons, place,
      List.cons_append, run_cons rfl, hbehind, List.reverse_cons, List.append_assoc,
      List.singleton_append, ← readItemsAt]

/-- A key, its colon and its document are read behind the entries that were read before. -/
theorem run_entry (k : String) {n : Node} (hn : ReadsInside n)
    (before : List (Option String × Node)) (stack : List Frame) (ts : List Token) :
    run (.key stack before) (.string (k.toList.map .char) :: .colon :: (tokensOf n ++ ts)) =
      run (.inTable stack ((some k, readAt (stack.length + 1) n) :: before)) ts := by
  have hkey : step (.key stack before) (.string (k.toList.map .char)) =
      some (.colon stack before (some k)) := by
    rw [step, keyOf_map_char]
    rfl
  rw [run_cons hkey, run_cons rfl, hn, List.length_cons, place]

/-- The entries of a table are read one after the other, behind those that were read before. -/
theorem run_entryTokens {e : String × Node} {entries : List (String × Node)}
    (hentries : ∀ f ∈ e :: entries, ReadsInside f.2)
    (before : List (Option String × Node)) (stack : List Frame) (ts : List Token) :
    run (.key stack before)
        (entryTokens ((e :: entries).map fun f => (some f.1, f.2)) ++ .closeTable :: ts) =
      run (place (sealed stack (.table (before.reverse ++ readEntriesAt (stack.length + 1)
        ((e :: entries).map fun f => (some f.1, f.2))))) stack) ts := by
  induction entries generalizing e before with
  | nil =>
    obtain ⟨k, n⟩ := e
    rw [List.map_cons, List.map_nil, entryTokens, List.cons_append, List.cons_append,
      Option.getD_some, run_entry k (hentries (k, n) List.mem_cons_self), run_cons rfl,
      List.reverse_cons, readEntriesAt, readEntriesAt]
  | cons f entries ih =>
    obtain ⟨k, n⟩ := e
    have hbehind := ih fun g hg => hentries g (List.mem_cons_of_mem (k, n) hg)
    rw [List.map_cons] at hbehind
    rw [List.map_cons, List.map_cons, entryTokens, List.cons_append, List.cons_append,
      List.append_assoc, Option.getD_some, run_entry k (hentries (k, n) List.mem_cons_self),
      List.cons_append, run_cons rfl, hbehind, List.reverse_cons, List.append_assoc,
      List.singleton_append, ← readEntriesAt]

/-- **The tokens of a plain document are read to the end**, whatever is still open around them. -/
theorem run_tokensOf {n : Node} (hn : Plain n) : ReadsInside n := by
  induction hn with
  | null => exact fun _ _ => run_cons rfl _
  | bool b => exact fun _ _ => run_cons rfl _
  | int hn =>
    intro stack ts
    rw [tokensOf, List.singleton_append]
    refine run_cons ?_ ts
    rw [step, beginValue, scalar?, numberNode_numeralOf hn]
    · rfl
    all_goals simp
  | text s =>
    intro stack ts
    rw [tokensOf, List.singleton_append]
    refine run_cons ?_ ts
    rw [step, beginValue, scalar?, stringNode_map_char]
    · rfl
    all_goals simp
  | @list items hitems ih =>
    intro stack ts
    rw [readAt_list, tokensOf, List.cons_append, run_cons rfl, List.append_assoc,
      List.singleton_append]
    cases items with
    | nil => exact run_cons rfl ts
    | cons n items =>
      rw [run_openList (hitems n List.mem_cons_self), run_itemTokens ih, List.reverse_nil,
        List.nil_append]
  | @table entries hentries ih =>
    intro stack ts
    rw [Node.ofEntries, readAt_table, tokensOf, List.cons_append, run_cons rfl, List.append_assoc,
      List.singleton_append]
    cases entries with
    | nil => exact run_cons rfl ts
    | cons e entries =>
      have hall := run_entryTokens ih [] stack ts
      rw [List.reverse_nil, List.nil_append] at hall
      exact (run_openTable _ _ stack _).trans hall

/-- **What is read of the text of a plain document.** -/
theorem read?_text {n : Node} (hn : Plain n) : read? (text n) = some (readAt 0 n) := by
  have hrun := run_tokensOf hn [] []
  rw [List.append_nil] at hrun
  rw [read?, tokens_text hn, Option.bind_eq_bind, Option.bind_some, hrun]
  rfl

end BuilderGen.Json
