import BuilderGen.Proofs.Source.Coverage

/-!
# Names that are written without a reference

A name may stand in the text of a file without being a reference of the file. It is meant for a
class that needs no import, but the names of the file are decided without it, so it is not kept apart
from a class of the file with the same simple name, and a reader takes it for that class.

* `File.Keeps`: the name has its meaning, in the way in which a file is read;
* `keeps_iff`: the references that take the name over;
* `denotes_of_keeps`, `keeps_of_denotes`: what the name is read as.
-/

namespace BuilderGen.Source

open NameTable

/-- The full name of a class that needs no import. -/
def builtinName (n : String) : String := ClassRef.builtinPackage ++ "." ++ n

/-- **A name keeps its meaning in a file**: no other class is imported under it, and no other class
of the package that the file declares or refers to has it. -/
structure File.Keeps (f : File) (n : String) : Prop where
  imports : ∀ i ∈ (ofFile f).imports, Text.lastSegment i = n → i = builtinName n
  own : ∀ c ∈ f.declared ++ f.refs, c.package = f.package → c.nestedName = n →
    c.canonical = builtinName n

/-- A class takes a name over: it is another class, and it has that name in the package of the file,
or it is imported under the name, which it shares with no class of the file. -/
def File.Captures (f : File) (n : String) (c : ClassRef) : Prop :=
  c.canonical ≠ builtinName n ∧
    (c.package = f.package ∧ c.nestedName = n ∨
      Text.lastSegment c.canonical = n ∧ ¬ f.Shares c.simpleName ∧
        isImplicit f.package c = false)

variable {f : File} {n : String}

/-- **A name keeps its meaning exactly if no reference takes it over**, in a file that declares no
class of that name. -/
theorem keeps_iff (hd : ∀ c ∈ f.declared, c.nestedName ≠ n) :
    f.Keeps n ↔ ∀ c ∈ f.refs, ¬ f.Captures n c := by
  constructor
  · rintro h c hc ⟨hne, ⟨hp, hn⟩ | ⟨hl, hs, hi⟩⟩
    · exact hne (h.own c (List.mem_append_right _ hc) hp hn)
    · exact hne (h.imports _ (mem_imports.2 ⟨c, hc, mt mem_ambiguous.1 hs, hi, rfl⟩) hl)
  · refine fun h => ⟨fun i hi hl => ?_, fun c hc hp hn => ?_⟩
    · obtain ⟨c, hc, ha, himplicit, rfl⟩ := mem_imports.1 hi
      by_contra hne
      exact h c hc ⟨hne, .inr ⟨hl, mt mem_ambiguous.2 ha, himplicit⟩⟩
    · rcases List.mem_append.1 hc with hc | hc
      · exact absurd hn (hd c hc)
      · by_contra hne
        exact h c hc ⟨hne, .inl ⟨hp, hn⟩⟩

/-- The reading of a name without a dot. -/
theorem denotes_of_not_mem (hn : '.' ∉ n.toList) : f.denotes n =
    match f.importOf n, f.ownClass n with
    | some i, _ => i
    | none, some c => c.canonical
    | none, none => builtinName n := by
  rw [File.denotes, if_neg (by simpa using hn)]
  rfl

/-- **A name that keeps its meaning is read as the class that needs no import.** -/
theorem denotes_of_keeps (hn : '.' ∉ n.toList) (h : f.Keeps n) : f.denotes n = builtinName n := by
  rw [denotes_of_not_mem hn]
  cases hi : f.importOf n with
  | some i =>
    obtain ⟨hmem, hl⟩ := File.importOf_some hi
    exact h.imports i hmem hl
  | none =>
    cases ho : f.ownClass n with
    | none => rfl
    | some c =>
      obtain ⟨hc, hp, hnested⟩ := File.ownClass_some ho
      exact h.own c hc hp hnested

/-- **Only a name that keeps its meaning is read like that**, if the references of the file have
packages and no names with dots. -/
theorem keeps_of_denotes (hf : ∀ c ∈ f.refs, c.WellNamed) (hn : '.' ∉ n.toList)
    (h : f.denotes n = builtinName n) : f.Keeps n := by
  rw [denotes_of_not_mem hn] at h
  refine ⟨fun i hi hl => ?_, fun c hc hp hnested => ?_⟩
  · cases hfind : f.importOf n with
    | none => exact absurd hl (File.importOf_none hfind hi)
    | some j =>
      -- there is only one import under the name, and it is the one that the name is read as
      rw [hfind] at h
      obtain ⟨hj, hjl⟩ := File.importOf_some hfind
      rw [← h]
      exact List.inj_on_of_nodup_map (nodup_lastSegment_imports hf) hi hj (hl.trans hjl.symm)
  · have hsimple : c.simpleName = n := by
      rw [simpleName_eq_nestedName hf hc (hnested ▸ hn), hnested]
    cases hfind : f.importOf n with
    | some j =>
      rw [hfind] at h
      obtain ⟨hj, hjl⟩ := File.importOf_some hfind
      obtain ⟨d, hd, ha, -, rfl⟩ := mem_imports.1 hj
      rw [ClassRef.lastSegment_canonical (hf d hd).dotless] at hjl
      rw [← h]
      exact canonical_eq (List.mem_append_right _ hd) hc (hsimple.trans hjl.symm) ha
    | none =>
      rw [hfind] at h
      cases ho : f.ownClass n with
      | none => exact absurd hnested (File.ownClass_none ho hc hp)
      | some d =>
        rw [ho] at h
        obtain ⟨-, hdp, hdn⟩ := File.ownClass_some ho
        rw [← h]
        show c.canonical = d.canonical
        rw [ClassRef.canonical, ClassRef.canonical, hp, hdp, hnested, hdn]

end BuilderGen.Source
