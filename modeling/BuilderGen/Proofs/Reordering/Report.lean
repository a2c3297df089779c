import BuilderGen.Proofs.Generation.Report
import BuilderGen.Proofs.Reordering.Derivation

/-!
# Reports on reordered classes

What is generated does not depend on the order in which a schema lists its classes, except that the
functions of a slot follow that order.

* `shapes_perm`, `faults_perm`: the elements that get a builder are the same, and so are the others;
* `entryFiles_place`: the entry file is the same;
* `check_of_perm`: both reports side by side.
-/

namespace BuilderGen.Generation

open BuilderGen.Builder (Fault Shape SameOwner derive_place)
open BuilderGen.Hierarchy (Reordered exists_build_of_perm exists_reordered)
open BuilderGen.Schema
open BuilderGen.Source (File)

/-! ## 1. The same elements -/

/-- The name of the type that a shape becomes. -/
def typeNameOf (shape : Shape) : String := shape.builder.simpleName

section Moved

variable {h h' : Hierarchy} {place : h.Id ≃ h'.Id} (ρ : Reordered h h' place)
include ρ

/-- What is read from each element in the same way has the same values in any order. -/
theorem filterMap_elements_perm {α : Type} {f : h.Id → Option α} {f' : h'.Id → Option α}
    (hf : ∀ i, f' (place i) = f i) :
    (h.elements.filterMap f).Perm (h'.elements.filterMap f') := by
  refine (List.Perm.of_eq ?_).trans (ρ.elements_perm.filterMap f').symm
  rw [List.filterMap_map]
  exact List.filterMap_congr fun i _ => (hf i).symm

theorem shapes_perm (package : String) :
    ((shapes h package).map typeNameOf).Perm ((shapes h' package).map typeNameOf) := by
  rw [shapes, shapes, List.map_filterMap, List.map_filterMap]
  refine filterMap_elements_perm ρ fun i => ?_
  have hd := derive_place ρ package i
  generalize (Builder.derive h package i).result = x,
    (Builder.derive h' package (place i)).result = y at hd ⊢
  cases hd with
  | ok hs => simp [Except.toOption, typeNameOf, hs.builder]
  | error _ => rfl

theorem faults_perm (package : String) :
    ((faults h package).map Fault.owner).Perm ((faults h' package).map Fault.owner) := by
  rw [faults, faults, List.map_filterMap, List.map_filterMap]
  refine filterMap_elements_perm ρ fun i => ?_
  rw [faultOf, faultOf]
  have hd := derive_place ρ package i
  generalize (Builder.derive h package i).result = x,
    (Builder.derive h' package (place i)).result = y at hd ⊢
  cases hd with
  | ok _ => rfl
  | error he => exact congrArg some he

/-! ## 2. The entry point -/

/-- The source of the entry point is the same in any order. -/
theorem entrySources_place {s : Settings} {files : List File}
    (hf : entrySources h s = .ok files) : entrySources h' s = .ok files := by
  rcases entrySources_ok.1 hf with hn | ⟨e, root, element, hs, hp, rfl⟩
  · exact entrySources_ok.2 (.inl hn)
  · have hsource : entrySource h' s e (place root) (place element) =
        entrySource h s e root element := by
      rw [entrySource, entrySource, (ρ.alike root).classRef,
        Builder.builderClass_of_alike (ρ.alike element)]
    obtain ⟨_, hp', rfl⟩ := (ρ.entryPoint_place e).exists_ok hp
    exact entrySources_ok.2 (.inr ⟨e, _, _, hs, hp', by rw [hsource]⟩)

/-- The entry file is the same in any order. -/
theorem entryFiles_place {s : Settings} {entry : List GeneratedFile}
    (he : entryFiles h s = .ok entry) : entryFiles h' s = .ok entry := by
  obtain ⟨files, hf, rfl⟩ := entryFiles_ok.1 he
  exact entryFiles_ok.2 ⟨files, entrySources_place ρ hf, rfl⟩

end Moved

/-- The entry file has the name of the entry function. -/
theorem typeName_of_entryFiles {h : Hierarchy} {s : Settings} {entry : List GeneratedFile}
    (he : entryFiles h s = .ok entry) :
    entry.map GeneratedFile.typeName =
      (s.entry.map fun e => Name.entryFileName e.function).toList := by
  rcases entryFiles_cases he with ⟨hs, rfl⟩ | ⟨e, root, element, hs, -, rfl⟩
  · rw [hs]
    rfl
  · rw [hs]
    rfl

/-! ## 3. Reports -/

theorem exists_check_of_perm {m m' : Manifest} (hp : m.classes.Perm m'.classes) {s : Settings}
    {r : Report} (hr : (check m s).result = .ok r) : ∃ r', (check m' s).result = .ok r' := by
  obtain ⟨hs, h, entry, hb, he, -⟩ := check_ok.1 hr
  obtain ⟨h', hb'⟩ := exists_build_of_perm hp hb
  obtain ⟨place, ρ⟩ := exists_reordered hp hb hb'
  exact ⟨_, check_ok.2 ⟨hs, h', entry, hb', entryFiles_place ρ he, rfl⟩⟩

/-- **A check does not depend on the order of the classes.** It succeeds in both orders or in none.
Both reports name the same types and the same failures and end with the same entry file; and an
element with a shape has in the other order the same shape, up to the order of targets. -/
theorem check_of_perm {m m' : Manifest} (hp : m.classes.Perm m'.classes) (s : Settings) :
    ((∃ r, (check m s).result = .ok r) ↔ ∃ r', (check m' s).result = .ok r') ∧
    ∀ r r', (check m s).result = .ok r → (check m' s).result = .ok r' →
      (r.files.map GeneratedFile.typeName).Perm (r'.files.map GeneratedFile.typeName) ∧
      (r.failures.map Fault.owner).Perm (r'.failures.map Fault.owner) ∧
      ∃ h h' entry, Hierarchy.build m = .ok h ∧ Hierarchy.build m' = .ok h' ∧
        r.files = (shapes h s.package).map (builderFile s) ++ entry ∧
        r'.files = (shapes h' s.package).map (builderFile s) ++ entry ∧
        entry.map GeneratedFile.typeName =
          (s.entry.map fun e => Name.entryFileName e.function).toList ∧
        ∃ place : h.Id ≃ h'.Id, ∀ i, h'.get (place i) = h.get i ∧
          ∀ shape, (Builder.derive h s.package i).result = .ok shape →
            ∃ shape', (Builder.derive h' s.package (place i)).result = .ok shape' ∧
              shape.Reordered shape' := by
  refine ⟨⟨fun ⟨_, hr⟩ => exists_check_of_perm hp hr,
    fun ⟨_, hr'⟩ => exists_check_of_perm hp.symm hr'⟩, fun r r' hr hr' => ?_⟩
  obtain ⟨-, h, entry, hb, he, rfl⟩ := check_ok.1 hr
  obtain ⟨-, h', entry', hb', he', rfl⟩ := check_ok.1 hr'
  obtain ⟨place, ρ⟩ := exists_reordered hp hb hb'
  rw [entryFiles_place ρ he] at he'
  cases he'
  refine ⟨?_, faults_perm ρ _, h, h', entry, hb, hb', rfl, rfl, typeName_of_entryFiles he, place,
    fun i => ⟨ρ.get i, fun shape hshape => (derive_place ρ s.package i).exists_ok hshape⟩⟩
  simp only [List.map_append, List.map_map]
  exact (shapes_perm ρ s.package).append (List.Perm.refl _)

/-- The same menu, read from the bottom. -/
def menuReversed : Manifest := ⟨menu.settings, menu.classes.reverse⟩

theorem check_menuReversed :
    menu.classes.Perm menuReversed.classes ∧
    ∃ r r', (check menu menu.settings).result = .ok r ∧
      (check menuReversed menu.settings).result = .ok r' ∧
      (r.files.map GeneratedFile.typeName).Perm (r'.files.map GeneratedFile.typeName) := by
  have hp : menu.classes.Perm menuReversed.classes := (List.reverse_perm _).symm
  obtain ⟨r, hr⟩ := exists_check_menu
  obtain ⟨hiff, hboth⟩ := check_of_perm hp menu.settings
  obtain ⟨r', hr'⟩ := hiff.1 ⟨r, hr⟩
  exact ⟨hp, r, r', hr, hr', (hboth r r' hr hr').1⟩

end BuilderGen.Generation
