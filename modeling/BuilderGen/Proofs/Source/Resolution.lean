import BuilderGen.Proofs.Source.Layout
import BuilderGen.Proofs.Source.Printed
import BuilderGen.Proofs.Text.Segments
import Mathlib.Data.List.Nodup

/-!
# What a written name means

A reader of a source file takes a dotted name for the full name of a class. Any other name is the
last segment of an import, or else a class of the package of the file, or else a class that needs no
import. A file is written in such a way that each reference is read as the class that it refers to.

* `File.denotes`: the reading of a name in a file;
* `mem_ambiguous`, `mem_imports`: what the name table of a file holds;
* `denotes_word`: the word for a reference is read as its class;
* `nodup_lastSegment_imports`: no two imports end in one simple name.
-/

namespace BuilderGen.Source

/-! ## 1. Reading -/

/-- Whether a class has a package, and none of its names holds a dot. -/
def ClassRef.WellNamed (c : ClassRef) : Prop := c.package ≠ "" ∧ ∀ n ∈ c.names, '.' ∉ n.toList

instance (c : ClassRef) : Decidable c.WellNamed :=
  inferInstanceAs (Decidable (c.package ≠ "" ∧ ∀ n ∈ c.names, '.' ∉ n.toList))

/-- Whether none of the names of a class holds a dot. -/
def ClassRef.Dotless (c : ClassRef) : Prop := ∀ n ∈ c.names, '.' ∉ n.toList

instance (c : ClassRef) : Decidable c.Dotless :=
  inferInstanceAs (Decidable (∀ n ∈ c.names, '.' ∉ n.toList))

theorem ClassRef.WellNamed.dotless {c : ClassRef} (h : c.WellNamed) : c.Dotless := h.2

/-- The import of a file that ends in a name. -/
def File.importOf (f : File) (name : String) : Option String :=
  (NameTable.ofFile f).imports.find? fun i => Text.lastSegment i == name

/-- The class of the package of a file with a name, among those the file declares or refers to. -/
def File.ownClass (f : File) (name : String) : Option ClassRef :=
  (f.declared ++ f.refs).find? fun c => c.package == f.package && c.nestedName == name

/-- **The full name of the class that a written name means in a file.** -/
def File.denotes (f : File) (written : String) : String :=
  if written.toList.contains '.' then written
  else
    match f.importOf written, f.ownClass written with
    | some i, _ => i
    | none, some c => c.canonical
    | none, none => ClassRef.builtinPackage ++ "." ++ written

theorem File.importOf_some {f : File} {n i : String} (h : f.importOf n = some i) :
    i ∈ (NameTable.ofFile f).imports ∧ Text.lastSegment i = n := by
  have hl := List.find?_some h
  exact ⟨List.mem_of_find?_eq_some h, beq_iff_eq.1 hl⟩

theorem File.importOf_none {f : File} {n i : String} (h : f.importOf n = none)
    (hi : i ∈ (NameTable.ofFile f).imports) : Text.lastSegment i ≠ n := by
  have hno := List.find?_eq_none.1 h i hi
  rwa [beq_iff_eq] at hno

theorem File.ownClass_some {f : File} {n : String} {c : ClassRef} (h : f.ownClass n = some c) :
    c ∈ f.declared ++ f.refs ∧ c.package = f.package ∧ c.nestedName = n := by
  have hc := List.find?_some h
  rw [Bool.and_eq_true, beq_iff_eq, beq_iff_eq] at hc
  exact ⟨List.mem_of_find?_eq_some h, hc⟩

theorem File.ownClass_none {f : File} {n : String} {c : ClassRef} (h : f.ownClass n = none)
    (hc : c ∈ f.declared ++ f.refs) (hp : c.package = f.package) : c.nestedName ≠ n := by
  have hno := List.find?_eq_none.1 h c hc
  rwa [hp, beq_self_eq_true, Bool.true_and, beq_iff_eq] at hno

/-! ## 2. Names of classes -/

namespace ClassRef

/-- The package does not count for the last segment of a full name. -/
theorem lastSegment_canonical_eq (c : ClassRef) :
    Text.lastSegment c.canonical = Text.lastSegment c.nestedName := by
  rw [canonical]
  by_cases hp : c.package.isEmpty = true
  · rw [if_pos hp]
  · rw [if_neg hp, Text.lastSegment_append]

/-- The simple name of a class is the last segment of its full name. -/
theorem lastSegment_canonical {c : ClassRef} (hc : c.Dotless) :
    Text.lastSegment c.canonical = c.simpleName := by
  rw [lastSegment_canonical_eq, nestedName, Text.lastSegment_joinDots hc, simpleName]

/-- The full name of a class has a dot in front of its name inside the package. -/
theorem dot_mem_canonical {c : ClassRef} (hc : c.WellNamed) : '.' ∈ c.canonical.toList := by
  have hne : c.package.isEmpty = false := by simpa using hc.1
  simp [canonical, hne]

theorem dot_not_mem_simpleName {c : ClassRef} (hc : c.Dotless) : '.' ∉ c.simpleName.toList := by
  rw [simpleName]
  cases hl : c.names.getLast? with
  | none => simp
  | some n => exact hc n (List.mem_of_getLast? hl)

/-- A full name without a dot is a simple name. -/
theorem canonical_eq_simpleName {c : ClassRef} (hc : c.Dotless)
    (h : '.' ∉ c.canonical.toList) : c.canonical = c.simpleName := by
  rw [← lastSegment_canonical hc, Text.lastSegment_of_not_mem h]

/-- A class that is not nested has its simple name inside the package. -/
theorem nestedName_of_length_le {c : ClassRef} (h : c.names.length ≤ 1) :
    c.nestedName = c.simpleName := by
  rw [nestedName, simpleName]
  match c.names, h with
  | [], _ => rfl
  | [n], _ => simp

end ClassRef

/-! ## 3. The name table -/

namespace NameTable

theorem mem_spellings {classes : List ClassRef} {p : String × String} :
    p ∈ spellings classes ↔ ∃ c ∈ classes, (c.simpleName, c.canonical) = p := by
  rw [spellings, List.mem_eraseDups, List.mem_map]

/-- A simple name is ambiguous if two classes with different full names have it. -/
theorem mem_ambiguousNames {classes : List ClassRef} {n : String} :
    n ∈ ambiguousNames (spellings classes) ↔
      ∃ c ∈ classes, ∃ d ∈ classes, c.simpleName = n ∧ d.simpleName = n ∧
        d.canonical ≠ c.canonical := by
  simp only [ambiguousNames, List.mem_map, List.mem_filter, mem_spellings, List.any_eq_true]
  constructor
  · intro ⟨p, ⟨⟨c, hc, hp⟩, q, ⟨d, hd, hq⟩, hpq⟩, hn⟩
    subst hp hq
    simp only [Bool.and_eq_true, beq_iff_eq, bne_iff_ne] at hpq
    exact ⟨c, hc, d, hd, hn, hpq.1.trans hn, hpq.2⟩
  · intro ⟨c, hc, d, hd, hcn, hdn, hne⟩
    exact ⟨_, ⟨⟨c, hc, rfl⟩, _, ⟨d, hd, rfl⟩, by simp [hcn, hdn, hne]⟩, hcn⟩

variable {f : File}

/-- Two classes of a file with one simple name that is not ambiguous have one full name. -/
theorem canonical_eq {c d : ClassRef} (hc : c ∈ f.declared ++ f.refs)
    (hd : d ∈ f.declared ++ f.refs) (hn : d.simpleName = c.simpleName)
    (ha : c.simpleName ∉ (ofFile f).ambiguous) : d.canonical = c.canonical := by
  by_contra hne
  exact ha (mem_ambiguousNames.2 ⟨c, hc, d, hd, rfl, hn, hne⟩)

theorem mem_imports {i : String} :
    i ∈ (ofFile f).imports ↔ ∃ c ∈ f.refs, c.simpleName ∉ (ofFile f).ambiguous ∧
      isImplicit f.package c = false ∧ c.canonical = i := by
  simp only [ofFile, Text.mem_sortedSet, List.mem_map, List.mem_filter, Bool.and_eq_true,
    Bool.not_eq_true', List.contains_eq_mem, decide_eq_false_iff_not]
  simp only [and_assoc]

theorem isImplicit_iff {package : String} {c : ClassRef} :
    isImplicit package c = true ↔
      (c.package = package ∨ c.package = ClassRef.builtinPackage) ∧ c.names.length ≤ 1 := by
  simp [isImplicit]

end NameTable

open NameTable

/-! ## 4. Reading what is written -/

section WellNamed

variable {f : File} (hf : ∀ c ∈ f.refs, c.WellNamed)
include hf

/-- An import that ends in the simple name of a reference which is not ambiguous is the full name of
the reference. -/
theorem import_eq {c : ClassRef} (hc : c ∈ f.refs) (ha : c.simpleName ∉ (ofFile f).ambiguous)
    {i : String} (hi : i ∈ (ofFile f).imports) (hl : Text.lastSegment i = c.simpleName) :
    i = c.canonical := by
  obtain ⟨d, hd, -, -, rfl⟩ := mem_imports.1 hi
  rw [ClassRef.lastSegment_canonical (hf d hd).dotless] at hl
  exact canonical_eq (List.mem_append_right _ hc) (List.mem_append_right _ hd) hl ha

/-- A name inside the package without a dot is the simple name. -/
theorem simpleName_eq_nestedName {d : ClassRef} (hd : d ∈ f.declared ++ f.refs)
    (hdot : '.' ∉ d.nestedName.toList) : d.simpleName = d.nestedName := by
  rcases List.mem_append.1 hd with hd | hd
  · obtain ⟨decl, -, rfl⟩ := List.mem_map.1 hd
    rw [ClassRef.nestedName_of_length_le]
    exact Nat.le_refl 1
  · rw [← Text.lastSegment_of_not_mem hdot, ClassRef.nestedName,
      Text.lastSegment_joinDots (hf d hd).2, ClassRef.simpleName]

/-- A class of the file whose name inside the package is that simple name has the same full name. -/
theorem ownClass_eq {c : ClassRef} (hc : c ∈ f.refs) (ha : c.simpleName ∉ (ofFile f).ambiguous)
    {d : ClassRef} (hd : d ∈ f.declared ++ f.refs) (hn : d.nestedName = c.simpleName) :
    d.canonical = c.canonical := by
  have hdot : '.' ∉ d.nestedName.toList :=
    hn ▸ ClassRef.dot_not_mem_simpleName (hf c hc).dotless
  exact canonical_eq (List.mem_append_right _ hc) hd
    ((simpleName_eq_nestedName hf hd hdot).trans hn) ha

/-- **The word for a reference is read as the class that it refers to.** -/
theorem denotes_word {c : ClassRef} (hc : c ∈ f.refs) : f.denotes (f.word c) = c.canonical := by
  have hall : c ∈ f.declared ++ f.refs := List.mem_append_right _ hc
  by_cases ha : c.simpleName ∈ (ofFile f).ambiguous
  · have hdot := ClassRef.dot_mem_canonical (hf c hc)
    rw [File.word_of_mem_ambiguous ha, File.denotes, if_pos (by simpa using hdot)]
  · have hdot := ClassRef.dot_not_mem_simpleName (hf c hc).dotless
    rw [File.word_of_not_mem_ambiguous ha, File.denotes, if_neg (by simpa using hdot)]
    cases hi : f.importOf c.simpleName with
    | some i =>
      obtain ⟨hmem, hl⟩ := File.importOf_some hi
      exact import_eq hf hc ha hmem hl
    | none =>
      -- without an import the class is one that needs none
      have himplicit : isImplicit f.package c = true := by
        by_contra h
        have hmem := mem_imports.2 ⟨c, hc, ha, by simpa using h, rfl⟩
        exact File.importOf_none hi hmem (ClassRef.lastSegment_canonical (hf c hc).dotless)
      obtain ⟨hpackage, hlen⟩ := isImplicit_iff.1 himplicit
      have hnested := ClassRef.nestedName_of_length_le hlen
      cases ho : f.ownClass c.simpleName with
      | some d =>
        obtain ⟨hd, -, hn⟩ := File.ownClass_some ho
        exact ownClass_eq hf hc ha hd hn
      | none =>
        have hother : c.package ≠ f.package := fun h => File.ownClass_none ho hall h hnested
        have hbuiltin := hpackage.resolve_left hother
        have hne : c.package.isEmpty = false := by simpa using (hf c hc).1
        rw [ClassRef.canonical, hne, if_neg Bool.false_ne_true, hnested, hbuiltin]

/-- **No two imports end in one simple name.** -/
theorem nodup_lastSegment_imports : ((ofFile f).imports.map Text.lastSegment).Nodup := by
  have hnd : (ofFile f).imports.Nodup := (Text.pairwise_sortedSet _).imp String.ne_of_lt
  refine hnd.map_on fun i hi j hj hij => ?_
  obtain ⟨d, hd, ha, -, rfl⟩ := mem_imports.1 hj
  rw [ClassRef.lastSegment_canonical (hf d hd).dotless] at hij
  exact import_eq hf hd ha hi hij

end WellNamed

end BuilderGen.Source
