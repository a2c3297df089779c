import BuilderGen.Proofs.Generation.Accounting
import BuilderGen.Proofs.Revision.Derivation

/-!
# Reports behind a revision

What a report tells of an element depends on the names and references of a schema, and beyond them
only on the classes that the builder of the element creates and their ancestors. A revision of any
other class, be it the element itself or one of its own ancestors, leaves it as it is.

* `told`: what a report tells under the name of a builder, with `told_of_generate`;
* `entryFiles_revised`: the entry file, which needs that the revised class is not its root;
* `outcome_of_revise`: both reports side by side.
-/

namespace BuilderGen.Generation

open BuilderGen.Builder (Avoids builderClass)
open BuilderGen.Hierarchy (Revised revised_of_build valid_of_build)
open BuilderGen.Result
open BuilderGen.Schema

/-! ## 1. What a report tells of an element -/

/-- The name of the builder that an outcome is for. -/
def outcomeName : Outcome → String
  | .ok f => f.typeName
  | .error fault => fault.owner

/-- **The outcomes that a report tells under a name**: the files and the failures of that name. -/
def told (r : Report) (name : String) : List Outcome :=
  let outcomes : List Outcome := r.files.map Except.ok ++ r.failures.map Except.error
  outcomes.filter fun o => outcomeName o = name

/-- The outcome of an element is the file of its shape, or the fault of its derivation. -/
theorem fst_generateElement (h : Hierarchy) (s : Settings) (i : h.Id) :
    (generateElement h s i).1 = (Builder.derive h s.package i).result.map (builderFile s) := by
  rw [generateElement]
  cases (Builder.derive h s.package i).result <;> rfl

theorem outcomeName_generateElement (h : Hierarchy) (s : Settings) (i : h.Id) :
    outcomeName (generateElement h s i).1 = h.builderName i := by
  rw [fst_generateElement]
  cases hd : (Builder.derive h s.package i).result with
  | ok shape => exact typeName_builderFile hd
  | error fault => exact Builder.owner_of_derive_error hd

/-- **A report tells one outcome under the name of a builder**, and this is the outcome of its
element. -/
theorem told_of_generate {h : Hierarchy} (hv : h.Valid) {s : Settings} {r : Report}
    (hr : (generate h s).result = .ok r) {i : h.Id} (hi : i ∈ h.elements) :
    told r (h.builderName i) = [(generateElement h s i).1] := by
  rw [result_generate] at hr
  obtain ⟨entry, he, rfl⟩ := map_ok.1 hr
  -- no two elements have one builder name, and the entry file has none of these names
  have hnd := nodup_names hv he
  rw [told, ← outcomeName_generateElement h s i]
  refine filter_key_eq ?_ ?_
  · rw [List.map_append, List.map_map, List.map_map]
    exact hnd
  · rw [fst_generateElement]
    cases hd : (Builder.derive h s.package i).result with
    | ok shape =>
      have hmem : shape ∈ shapes h s.package := mem_shapes.2 ⟨i, hi, hd⟩
      refine List.mem_append_left _ (List.mem_map_of_mem ?_)
      exact List.mem_append_left _ (List.mem_map_of_mem hmem)
    | error fault =>
      have hmem : fault ∈ faults h s.package :=
        List.mem_filterMap.2 ⟨i, hi, by rw [faultOf, hd]⟩
      exact List.mem_append_right _ (List.mem_map_of_mem hmem)

/-! ## 2. Both reports -/

/-- The entry file stays the same, unless its root is the revised class, which may be one that
cannot be created. -/
theorem entryFiles_revised {h h' : Hierarchy} {place : h.Id ≃ h'.Id} {d : Nat}
    (ρ : Revised h h' place d) {s : Settings}
    (hroot : ∀ e root, s.entry = some e → h.resolve? e.root = .ok root → root.val ≠ d) :
    entryFiles h' s = entryFiles h s := by
  rw [entryFiles_eq, entryFiles_eq, entrySources, entrySources]
  cases he : s.entry with
  | none => rfl
  | some e =>
    have hsource : ∀ root element, entrySource h' s e (place root) (place element) =
        entrySource h s e root element := by
      intro root element
      rw [entrySource, entrySource, ρ.classRef, builderClass, builderClass, ρ.builderName]
    dsimp only
    rw [ρ.entryPoint fun root => hroot e root he]
    cases h.entryPoint e with
    | error cause => rfl
    | ok found =>
      exact congrArg (fun file => Except.ok [entryFileOf s file]) (hsource found.1 found.2)

/-- **A revision of a class changes only builders that create the class or a class below it.** An
element whose slots take neither has in both schemas the same outcome: the same file, or the same
failure. Each report tells this outcome under the name of the builder, and no other. Both runs have a
report, or both fail alike, unless the class is the root of the entry point. -/
theorem outcome_of_revise {m : Manifest} {d : Nat} {attributes : List Attribute} {sample : Sample}
    {constructible : Bool} {h h' : Hierarchy} (hb : Hierarchy.build m = .ok h)
    (hb' : Hierarchy.build (m.revise d attributes sample constructible) = .ok h') {i : h.Id}
    (hi : i ∈ h.elements) (hd : Avoids h i d) (s : Settings) :
    ∃ i' : h'.Id, i'.val = i.val ∧ i' ∈ h'.elements ∧ h'.builderName i' = h.builderName i ∧
      (generateElement h' s i').1 = (generateElement h s i).1 ∧
      (∀ r, (generate h s).result = .ok r →
        told r (h.builderName i) = [(generateElement h s i).1]) ∧
      (∀ r', (generate h' s).result = .ok r' →
        told r' (h.builderName i) = [(generateElement h s i).1]) ∧
      ((∀ e root, s.entry = some e → h.resolve? e.root = .ok root → root.val ≠ d) →
        ∀ fault, (generate h' s).result = .error fault ↔ (generate h s).result = .error fault) := by
  have hv := valid_of_build hb
  have hv' := valid_of_build hb'
  obtain ⟨place, ρ⟩ := revised_of_build hb hb'
  have hi' : place i ∈ h'.elements := by
    rw [ρ.elements]
    exact List.mem_map_of_mem hi
  have hsame : (generateElement h' s (place i)).1 = (generateElement h s i).1 := by
    rw [fst_generateElement, fst_generateElement, Builder.derive_revised ρ hv hd]
  refine ⟨place i, ρ.position i, hi', ρ.builderName i, hsame,
    fun r hr => told_of_generate hv hr hi, fun r' hr' => ?_, fun hroot fault => ?_⟩
  · rw [← ρ.builderName, ← hsame]
    exact told_of_generate hv' hr' hi'
  · rw [result_generate, result_generate, map_error, map_error, entryFiles_revised ρ hroot]

/-- A desk with a drawer. The desk is furniture. -/
def office : Manifest := ⟨Settings.default, [
  { HostClass.plain "p" "Furniture" with
    attributes := [⟨"setMaker", "String", false, true, false⟩] },
  { HostClass.plain "p" "Desk" with
    element := some "desk", supertypes := ["Furniture"], children := [⟨"setDrawer", "Drawer"⟩] },
  { HostClass.plain "p" "Drawer" with
    element := some "drawer", attributes := [⟨"setSize", "int", false, false, false⟩] }]⟩

/-- The same with furniture that has a price and cannot be created. -/
def officeRevised : Manifest :=
  office.revise 0 [⟨"setPrice", "long", false, false, false⟩] ⟨[("getPrice", .int 5)], []⟩ false

/-- The hierarchy of these classes. -/
def officeHierarchy : Hierarchy := .ofLineages office.classes [[0], [0, 1], [2]]

/-- The hierarchy of the revised classes. -/
def officeHierarchyRevised : Hierarchy := .ofLineages officeRevised.classes [[0], [0, 1], [2]]

theorem build_office : Hierarchy.build office = .ok officeHierarchy :=
  Hierarchy.build_of_lineages (by decide) (by decide) (by decide) rfl

theorem build_officeRevised : Hierarchy.build officeRevised = .ok officeHierarchyRevised :=
  Hierarchy.build_of_lineages (by decide) (by decide) (by decide) rfl

/-- The position of the desk. -/
def desk : officeHierarchy.Id := ⟨1, by decide⟩

/-- The builder of the desk is the same, although the desk inherits from the revised class. -/
theorem outcome_office :
    Hierarchy.build office = .ok officeHierarchy ∧
    Hierarchy.build officeRevised = .ok officeHierarchyRevised ∧
    (∃ a ∈ officeHierarchy.lineage desk, a.val = 0) ∧ desk ∈ officeHierarchy.elements ∧
    Avoids officeHierarchy desk 0 ∧
    ∃ r r' outcome, (generate officeHierarchy office.settings).result = .ok r ∧
      (generate officeHierarchyRevised office.settings).result = .ok r' ∧
      told r "DeskSpec" = [outcome] ∧ told r' "DeskSpec" = [outcome] := by
  have hi : desk ∈ officeHierarchy.elements := Hierarchy.mem_elements.2 rfl
  have hd : Avoids officeHierarchy desk 0 := by decide +kernel
  have hname : officeHierarchy.builderName desk = "DeskSpec" := by decide +kernel
  have hr := (result_generate officeHierarchy office.settings).trans (map_ok.2 ⟨[], rfl, rfl⟩)
  have hr' := (result_generate officeHierarchyRevised office.settings).trans
    (map_ok.2 ⟨[], rfl, rfl⟩)
  obtain ⟨_, -, -, -, -, hbefore, hafter, -⟩ :=
    outcome_of_revise build_office build_officeRevised hi hd office.settings
  rw [← hname]
  exact ⟨build_office, build_officeRevised, by decide +kernel, hi, hd, _, _, _, hr, hr',
    hbefore _ hr, hafter _ hr'⟩

end BuilderGen.Generation
