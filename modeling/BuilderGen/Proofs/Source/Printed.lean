import BuilderGen.Source.Printer

/-!
# What stands in the text of a file

The text of a file has its comment, the line of its package, a line for each import, and then what
the file declares, piece by piece. A piece of text stands there as it is. For a reference stands a
word, and what is to be said of the references of a file is said of these words.

* `Spells`: a text has a right word for each reference of a fragment;
* `Code.spells_write`: what is written for a fragment spells it;
* `TypeUse.write_plain`: what is written for a type;
* `File.Shows`: what stands in the text of a file, line by line and piece by piece;
* `File.word`, `File.word_of_mem_ambiguous`, `File.word_of_not_mem_ambiguous`: the word for a class;
* `File.shows_render`: the text of a file has these words.
-/

namespace BuilderGen.Source

/-! ## 1. Fragments -/

/-- **A text spells a fragment**: its pieces of text stand as they are, and for each reference stands
a word that is right for it. -/
inductive Spells (right : ClassRef → String → Prop) : Code → String → Prop where
  | nil : Spells right [] ""
  | text {code : Code} {rest : String} (s : String) :
    Spells right code rest → Spells right (.text s :: code) (s ++ rest)
  | ref {code : Code} {rest : String} {c : ClassRef} {word : String} :
    right c word → Spells right code rest → Spells right (.ref c :: code) (word ++ rest)

namespace Code

theorem write_cons (names : NameTable) (p : Piece) (code : Code) :
    Code.write names (p :: code) = p.write names ++ Code.write names code := by
  rw [Code.write, List.map_cons, String.join_cons, Code.write]

theorem write_singleton (names : NameTable) (p : Piece) : Code.write names [p] = p.write names := by
  rw [write_cons, Code.write, List.map_nil, String.join_nil, String.append_empty]

/-- **What is written for a fragment spells it**, if the word for each of its references is right. -/
theorem spells_write {right : ClassRef → String → Prop} {names : NameTable} {code : Code}
    (h : ∀ c ∈ Code.refs code, right c (Code.write names [.ref c])) :
    Spells right code (Code.write names code) := by
  induction code with
  | nil => exact .nil
  | cons p rest ih =>
    rw [write_cons]
    cases p with
    | text s => exact .text s (ih h)
    | ref c =>
      obtain ⟨hc, hrest⟩ := List.forall_mem_cons.1 h
      rw [write_singleton] at hc
      exact .ref hc (ih hrest)

end Code

/-- A type that admits null is written with a question mark behind its class. -/
theorem TypeUse.write_plain (names : NameTable) (c : ClassRef) (nullable : Bool) :
    Code.write names (TypeUse.plain c nullable).layout =
      Code.write names [.ref c] ++ if nullable then "?" else "" := by
  cases nullable with
  | true =>
    rw [Code.write_singleton]
    show Code.write names (.ref c :: [.text "?"]) = (Piece.ref c).write names ++ "?"
    rw [Code.write_cons, Code.write_singleton]
    rfl
  | false => exact String.append_empty.symm

/-! ## 2. Files -/

/-- A text has a line for each of some imports, in their order. -/
inductive ImportLines : List String → String → Prop where
  | nil : ImportLines [] ""
  | cons {imports : List String} {rest : String} (i : String) :
    ImportLines imports rest → ImportLines (i :: imports) ("import " ++ i ++ "\n" ++ rest)

/-- **What stands in the text of a file** with some imports: the comment, the line of the package,
the lines of the imports behind a blank one, and what the file declares, with a right word for each
reference. -/
def File.Shows (f : File) (indent : String) (imports : List String)
    (right : ClassRef → String → Prop) (text : String) : Prop :=
  ∃ lines declarations, ImportLines imports lines ∧ Spells right (f.layout indent) declarations ∧
    text = (f.comment.map commentText).getD "" ++ "package " ++ f.package ++ "\n" ++
      (if imports = [] then "" else "\n") ++ lines ++ declarations

theorem importLines_join (imports : List String) :
    ImportLines imports (String.join (imports.map fun i => "import " ++ i ++ "\n")) := by
  induction imports with
  | nil => exact .nil
  | cons i rest ih =>
    rw [List.map_cons, String.join_cons]
    exact .cons i ih

theorem importsText_eq (imports : List String) : importsText imports =
    (if imports = [] then "" else "\n") ++
      String.join (imports.map fun i => "import " ++ i ++ "\n") := by
  cases imports <;> rfl

/-- The word that a file writes for a class. -/
def File.word (f : File) (c : ClassRef) : String := Code.write (NameTable.ofFile f) [.ref c]

section

variable {f : File} {c : ClassRef}

theorem File.word_eq : f.word c = (NameTable.ofFile f).write c := Code.write_singleton _ (.ref c)

theorem File.word_of_mem_ambiguous (h : c.simpleName ∈ (NameTable.ofFile f).ambiguous) :
    f.word c = c.canonical := by
  rw [File.word_eq, NameTable.write, if_pos (by simpa using h)]

theorem File.word_of_not_mem_ambiguous (h : c.simpleName ∉ (NameTable.ofFile f).ambiguous) :
    f.word c = c.simpleName := by
  rw [File.word_eq, NameTable.write, if_neg (by simpa using h)]

end

/-- **The text that is rendered for a file shows it**, with its imports and its words. -/
theorem File.shows_render {f : File} {indent : String} {right : ClassRef → String → Prop}
    (h : ∀ c ∈ Code.refs (f.layout indent), right c (f.word c)) :
    f.Shows indent (NameTable.ofFile f).imports right (f.render indent) := by
  refine ⟨_, _, importLines_join _, Code.spells_write h, ?_⟩
  rw [File.render, importsText_eq, ← String.append_assoc]

end BuilderGen.Source
