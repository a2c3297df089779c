import BuilderGen.Proofs.Source.Resolution

/-!
# Which of the written classes the names of a file cover

The names of a file are decided from the classes that it declares and refers to, and used for the
classes that it writes. These are not the same: the references in the defaults of constructor
properties are written, but they do not count as references of the file. Such a class may be written
by its simple name without an import, and also where another class of the file is written like that.

* `File.mem_refs_layout`: what a file writes;
* `knows_iff`, `knows_iff_of_mem_refs`: which classes are known;
* `word_eq_iff`, `word_ne_of_mem_refs`: which classes are written alike;
* `knows_written`: all of it for what a file writes.
-/

namespace BuilderGen.Source

open NameTable

/-! ## 1. What a file writes -/

/-- The classes that the defaults of its properties refer to. -/
def ClassDecl.unlisted (d : ClassDecl) : List ClassRef :=
  d.properties.flatMap fun p => (p.default.map Code.refs).getD []

/-- The classes that a file writes although they are not among its references. -/
def File.unlisted (f : File) : List ClassRef := f.classes.flatMap ClassDecl.unlisted

theorem ClassDecl.mem_refs_layout {indent : String} {d : ClassDecl} {c : ClassRef} :
    c ∈ Code.refs (d.layout indent) ↔ c ∈ d.refs ∨ c ∈ d.unlisted := by
  have hproperties : c ∈ d.properties.flatMap Parameter.refs ↔
      c ∈ d.properties.map (·.type.mentioned) ∨ c ∈ d.unlisted := by
    simp only [ClassDecl.unlisted, List.mem_flatMap, List.mem_map, Parameter.refs, List.mem_cons,
      and_or_left, exists_or, eq_comm (a := c)]
  rw [ClassDecl.refs_layout_eq, ClassDecl.refs, List.mem_append, List.mem_append, hproperties,
    or_right_comm]

/-- **A file writes its references and those in the defaults of its properties.** -/
theorem File.mem_refs_layout {indent : String} {f : File} {c : ClassRef} :
    c ∈ Code.refs (f.layout indent) ↔ c ∈ f.refs ∨ c ∈ f.unlisted := by
  have hclasses : (c ∈ f.classes.flatMap fun d => Code.refs (d.layout indent)) ↔
      c ∈ f.classes.flatMap ClassDecl.refs ∨ c ∈ f.unlisted := by
    simp only [File.unlisted, List.mem_flatMap, ClassDecl.mem_refs_layout, and_or_left, exists_or]
  rw [File.layout, Code.refs_append, Code.refs_flatMap, Code.refs_flatMap]
  simp only [Code.refs_text, Function.refs_layout]
  rw [File.refs, List.mem_append, List.mem_append, hclasses, or_right_comm]

/-! ## 2. What a file knows -/

/-- A simple name is shared by two classes that the file declares or refers to. -/
def File.Shares (f : File) (n : String) : Prop :=
  ∃ c ∈ f.declared ++ f.refs, ∃ d ∈ f.declared ++ f.refs,
    c.simpleName = n ∧ d.simpleName = n ∧ d.canonical ≠ c.canonical

/-- A class is imported, or it is a top-level class of the package of the file or of the package
that needs no import. -/
def File.Reaches (f : File) (c : ClassRef) : Prop :=
  c.canonical ∈ (ofFile f).imports ∨
    (c.package = f.package ∨ c.package = ClassRef.builtinPackage) ∧ c.names.length ≤ 1

instance (f : File) (c : ClassRef) : Decidable (f.Reaches c) := instDecidableOr

/-- **A class is known if the file reaches it wherever it is written by its simple name.** -/
def File.Knows (f : File) (c : ClassRef) : Prop := f.word c = c.simpleName → f.Reaches c

instance (f : File) (c : ClassRef) : Decidable (f.Knows c) :=
  inferInstanceAs (Decidable (_ → f.Reaches c))

variable {f : File} {c d : ClassRef}

theorem mem_ambiguous {n : String} : n ∈ (ofFile f).ambiguous ↔ f.Shares n :=
  mem_ambiguousNames

theorem word_of_shares (h : f.Shares c.simpleName) : f.word c = c.canonical :=
  File.word_of_mem_ambiguous (mem_ambiguous.2 h)

theorem word_of_not_shares (h : ¬ f.Shares c.simpleName) : f.word c = c.simpleName :=
  File.word_of_not_mem_ambiguous (mt mem_ambiguous.1 h)

/-- A reference whose simple name is its own is imported or needs no import. -/
theorem reaches_of_mem_refs (hc : c ∈ f.refs) (h : ¬ f.Shares c.simpleName) : f.Reaches c := by
  cases hi : isImplicit f.package c with
  | true => exact .inr (isImplicit_iff.1 hi)
  | false => exact .inl (mem_imports.2 ⟨c, hc, mt mem_ambiguous.1 h, hi, rfl⟩)

/-- A class is written by its simple name where it does not share it, and where it has no longer
name. -/
theorem knows_iff :
    f.Knows c ↔ (f.Shares c.simpleName → c.canonical = c.simpleName) → f.Reaches c := by
  rw [File.Knows]
  by_cases h : f.Shares c.simpleName
  · rw [word_of_shares h]
    simp only [h, true_implies]
  · rw [word_of_not_shares h]
    simp only [h, false_implies, true_implies]

/-- **The references of a file are known**, apart from classes without a longer name that share the
simple one. -/
theorem knows_iff_of_mem_refs (hc : c ∈ f.refs) :
    f.Knows c ↔ f.Shares c.simpleName → c.canonical = c.simpleName → f.Reaches c := by
  rw [knows_iff]
  refine ⟨fun h _ heq => h fun _ => heq, fun h hlong => ?_⟩
  by_cases hs : f.Shares c.simpleName
  · exact h hs (hlong hs)
  · exact reaches_of_mem_refs hc hs

/-! ## 3. Classes that are written alike -/

/-- A full name is no simple name of another class, unless both have that simple name. -/
theorem canonical_ne_simpleName (hc : c.Dotless) (hd : d.Dotless)
    (h : c.simpleName ≠ d.simpleName) : c.canonical ≠ d.simpleName := by
  intro heq
  have hdot : '.' ∉ c.canonical.toList := heq ▸ ClassRef.dot_not_mem_simpleName hd
  exact h ((ClassRef.canonical_eq_simpleName hc hdot).symm.trans heq)

/-- **Two classes are written alike exactly if they have one simple name that is not shared.** -/
theorem word_eq_iff (hc : c.Dotless) (hd : d.Dotless) (hne : c.canonical ≠ d.canonical) :
    f.word c = f.word d ↔
      c.simpleName = d.simpleName ∧ ¬ f.Shares c.simpleName := by
  by_cases hn : c.simpleName = d.simpleName
  · by_cases hs : f.Shares c.simpleName
    · rw [word_of_shares hs, word_of_shares (hn ▸ hs)]
      simp only [hne, hs, not_true_eq_false, and_false]
    · rw [word_of_not_shares hs, word_of_not_shares (hn ▸ hs)]
      simp only [hs, not_false_eq_true, and_true]
  · -- the names that the two may be written by differ in all four cases
    simp only [hn, false_and, iff_false]
    by_cases hs : f.Shares c.simpleName
    · rw [word_of_shares hs]
      by_cases ht : f.Shares d.simpleName
      · rw [word_of_shares ht]
        exact hne
      · rw [word_of_not_shares ht]
        exact canonical_ne_simpleName hc hd hn
    · rw [word_of_not_shares hs]
      by_cases ht : f.Shares d.simpleName
      · rw [word_of_shares ht]
        exact (canonical_ne_simpleName hd hc (Ne.symm hn)).symm
      · rw [word_of_not_shares ht]
        exact hn

/-- **Two references of a file are never written alike**, unless they have one full name. -/
theorem word_ne_of_mem_refs (hcm : c ∈ f.refs) (hdm : d ∈ f.refs) (hc : c.Dotless)
    (hd : d.Dotless) (hne : c.canonical ≠ d.canonical) :
    f.word c ≠ f.word d := by
  intro h
  obtain ⟨hn, hs⟩ := (word_eq_iff hc hd hne).1 h
  exact hs ⟨c, List.mem_append_right _ hcm, d, List.mem_append_right _ hdm, rfl, hn.symm, hne.symm⟩

/-! ## 4. Files -/

/-- **What the names of a file cover.** The text of the file has a word for each of its references and
for each class in the defaults of its properties. The references are known, apart from those without
a longer name that share the simple one, and no two of them are written alike. Of the classes in the
defaults of properties those are known that the file reaches or whose simple name two classes of the
file share. The others are written like any class of the file with their simple name. -/
theorem knows_written (f : File) (indent : String) :
    f.Shows indent (ofFile f).imports (fun c word => word = f.word c) (f.render indent) ∧
    (∀ c, c ∈ Code.refs (f.layout indent) ↔ c ∈ f.refs ∨ c ∈ f.unlisted) ∧
    (∀ c ∈ f.refs, f.Knows c ↔
      (f.Shares c.simpleName → c.canonical = c.simpleName → f.Reaches c)) ∧
    (∀ c ∈ f.unlisted, f.Knows c ↔
      ((f.Shares c.simpleName → c.canonical = c.simpleName) → f.Reaches c)) ∧
    (∀ c ∈ Code.refs (f.layout indent), ∀ d ∈ Code.refs (f.layout indent), c.Dotless → d.Dotless →
      c.canonical ≠ d.canonical →
        (f.word c = f.word d ↔ c.simpleName = d.simpleName ∧ ¬ f.Shares c.simpleName)) ∧
    ∀ c ∈ f.refs, ∀ d ∈ f.refs, c.Dotless → d.Dotless → c.canonical ≠ d.canonical →
      f.word c ≠ f.word d := by
  refine ⟨File.shows_render fun _ _ => rfl, fun c => File.mem_refs_layout,
    fun c hc => knows_iff_of_mem_refs hc, fun c _ => knows_iff,
    fun c _ d _ hc hd hne => word_eq_iff hc hd hne, ?_⟩
  intro c hcm d hdm hc hd hne
  exact word_ne_of_mem_refs hcm hdm hc hd hne

/-- A class whose second property has a default that refers to another `Cover` than the first. -/
def shelf : File where
  package := "d"
  name := "Shelf"
  comment := none
  classes :=
    [{ name := "Shelf"
       properties :=
        [⟨"front", .plain ⟨"p", ["Cover"]⟩ false, none⟩,
          ⟨"back", .plain ⟨"kotlin", ["Any"]⟩ false, some [.ref ⟨"q", ["Cover"]⟩, .text "()"]⟩]
       functions := [] }]
  functions := []

/-- **Both classes are written `Cover`**, and only the first is imported. -/
theorem covers_in_shelf :
    ⟨"p", ["Cover"]⟩ ∈ Code.refs (shelf.layout "  ") ∧
    ⟨"q", ["Cover"]⟩ ∈ Code.refs (shelf.layout "  ") ∧
    shelf.word ⟨"p", ["Cover"]⟩ = "Cover" ∧ shelf.word ⟨"q", ["Cover"]⟩ = "Cover" ∧
    (ofFile shelf).imports = ["p.Cover"] ∧ ¬ shelf.Knows ⟨"q", ["Cover"]⟩ ∧
    shelf.render "  " = "package d\n\nimport p.Cover\n\n" ++
      "class Shelf(val front: Cover, val back: Any = Cover())\n" := by
  decide +kernel

theorem knows_written_shelf :
    shelf.Knows ⟨"p", ["Cover"]⟩ ∧ ¬ shelf.Knows ⟨"q", ["Cover"]⟩ ∧
    shelf.word ⟨"p", ["Cover"]⟩ = shelf.word ⟨"q", ["Cover"]⟩ := by
  obtain ⟨-, hwritten, hlisted, hunlisted, halike, -⟩ := knows_written shelf "  "
  have halone : ¬ shelf.Shares "Cover" := by
    rw [← mem_ambiguous]
    decide
  have hfront : ⟨"p", ["Cover"]⟩ ∈ shelf.refs := by decide
  have hback : ⟨"q", ["Cover"]⟩ ∈ shelf.unlisted := by decide
  refine ⟨(hlisted _ hfront).2 fun h => absurd h halone, fun h => ?_, ?_⟩
  · have hreach := (hunlisted _ hback).1 h fun h => absurd h halone
    revert hreach
    decide
  · have hne : (⟨"p", ["Cover"]⟩ : ClassRef).canonical ≠ "q.Cover" := by decide
    exact (halike _ ((hwritten _).2 (.inl hfront)) _ ((hwritten _).2 (.inr hback)) (by decide)
      (by decide) hne).2 ⟨rfl, halone⟩

end BuilderGen.Source
