import BuilderGen.Proofs.Builder.Warnings
import BuilderGen.Proofs.Generation.Report

/-!
# Which warnings an element reports

An element reports the warnings of its derivation, and one more if this fails. So whoever reads the
warnings knows of each default in the generated sources that does not come from a sample.

* `NoneSilent`, `noneSilent_of_targets`: a shape whose defaults are all accounted for;
* `warnings_generateElement`: an element reports no other warnings than its derivation, except for a
  failure;
* `warnings_of_build`, `warnings_generate`: the warnings of each element, and those of a run.
-/

namespace BuilderGen.Generation

open BuilderGen.Builder
open BuilderGen.Log (Event)
open BuilderGen.Schema

/-- **No default of a shape falls back in silence**: each comes from a sample, or it is the zero of a
primitive type or null, and one of the warnings tells so. -/
def NoneSilent (h : Hierarchy) (classes : List h.Id) (warnings : List Event) (shape : Shape) :
    Prop :=
  ∀ r ∈ shape.relationships, ∀ t ∈ r.targets, ∃ k ∈ classes, h.classRef k = t.host ∧
    ∀ a ∈ t.attributes, ∀ d, a.default = some d → ∃ b ∈ h.attributes k, a.setter = b.setter ∧
      (FromSample h k b d ∨ IsZero (valueTypeOf b) d ∧ ∃ e ∈ warnings, Warns h k b e)

/-- No default is silent in a shape whose targets are those of the classes that report. -/
theorem noneSilent_of_targets {h : Hierarchy} (hv : h.Valid) {package : String}
    {classes : List h.Id} {shape : Shape}
    (htargets : shape.relationships.flatMap Relationship.targets =
      classes.map (targetOf h package shape.property)) :
    NoneSilent h classes (classes.flatMap fun k => warningsFor h k (h.attributes k)) shape := by
  intro r hr t ht
  have hmem : t ∈ shape.relationships.flatMap Relationship.targets :=
    List.mem_flatMap.2 ⟨r, hr, ht⟩
  rw [htargets] at hmem
  obtain ⟨k, hk, rfl⟩ := List.mem_map.1 hmem
  refine ⟨k, hk, rfl, fun a ha d hd => ?_⟩
  obtain ⟨b, hb, hsetter, hcome⟩ := default_of_target hv ha hd
  refine ⟨b, hb, hsetter, hcome.imp_right fun hzero => ?_⟩
  obtain ⟨hzero, e, he, hwarns⟩ := hzero
  exact ⟨hzero, e, List.mem_flatMap.2 ⟨k, hk, he⟩, hwarns⟩

/-- The warning for a derivation that fails. -/
def failureWarnings (h : Hierarchy) (package : String) (i : h.Id) : List Event :=
  match (derive h package i).result with
  | .ok _ => []
  | .error fault => [.builderFailed (h.builderName i) fault.message]

theorem warnings_generateElement (h : Hierarchy) (s : Settings) (i : h.Id) :
    (generateElement h s i).2.filter Event.isWarning =
      (derive h s.package i).events.filter Event.isWarning ++ failureWarnings h s.package i := by
  unfold generateElement failureWarnings
  dsimp only
  cases hd : (derive h s.package i).result with
  | ok shape =>
    dsimp only
    rw [List.filter_append]
    rfl
  | error fault =>
    dsimp only
    rw [List.filter_append, owner_of_derive_error hd]
    rfl

/-- A run warns of what its elements warn of, in their order. -/
theorem warnings_generate (h : Hierarchy) (s : Settings) :
    (generate h s).events.filter Event.isWarning =
      h.elements.flatMap fun i => (generateElement h s i).2.filter Event.isWarning := by
  unfold generate outcomes
  dsimp only
  rw [List.flatMap_map, List.filter_flatMap]

/-- **Each element warns of exactly the optional attributes whose defaults come from no sample**, in
the classes that its derivation reaches and in order. If the derivation fails, one more warning names
the builder of the element. No default of a shape falls back in silence. -/
theorem warnings_of_build {m : Manifest} {h : Hierarchy} (hb : Hierarchy.build m = .ok h)
    (s : Settings) (i : h.Id) :
    ∃ classes rows, Reaches h (h.children i) classes ∧
      List.Forall₂ (fun k row => WarnsOfEach h k (h.attributes k) row) classes rows ∧
      (derive h s.package i).events.filter Event.isWarning = rows.flatten ∧
      (∀ shape, (derive h s.package i).result = .ok shape →
        (generateElement h s i).2.filter Event.isWarning = rows.flatten ∧
        NoneSilent h classes rows.flatten shape) ∧
      ∀ fault, (derive h s.package i).result = .error fault →
        (generateElement h s i).2.filter Event.isWarning =
          rows.flatten ++ [.builderFailed (h.builderName i) fault.message] := by
  have hv := Hierarchy.valid_of_build hb
  obtain ⟨classes, hreaches, hevents, htargets⟩ := warnings_of_derive hv s.package i
  have hrows : List.Forall₂ (fun k row => WarnsOfEach h k (h.attributes k) row) classes
      (classes.map fun k => warningsFor h k (h.attributes k)) := by
    rw [List.forall₂_map_right_iff, List.forall₂_same]
    exact fun k _ => warnsOfEach_attributes hv
  have helement := warnings_generateElement h s i
  unfold failureWarnings at helement
  refine ⟨classes, _, hreaches, hrows, ?_, fun shape hd => ⟨?_, ?_⟩, fun fault hd => ?_⟩
  · rw [hevents, List.flatMap_def]
  · rw [helement, hd, hevents, List.flatMap_def]
    exact List.append_nil _
  · rw [← List.flatMap_def]
    exact noneSilent_of_targets hv (htargets shape hd)
  · rw [helement, hd, hevents, List.flatMap_def]

/-! ## A workshop -/

/-- A bench takes tools and is to have a lamp, of which nothing is known. Of the hammer nothing was
sampled, and of the saw more teeth than a byte counts, but a guard that is null. A rack takes the
same tools. -/
def workshop : Manifest := ⟨Settings.default, [
  { HostClass.plain "p" "Bench" with
    element := some "bench", children := [⟨"setTools", "List<Tool>"⟩, ⟨"setLamp", "Lamp"⟩] },
  { HostClass.plain "p" "Rack" with
    element := some "rack", children := [⟨"setTools", "List<Tool>"⟩] },
  { HostClass.plain "p" "Tool" with isAbstract := true },
  { HostClass.plain "p" "Hammer" with
    element := some "hammer", supertypes := ["Tool"],
    attributes := [⟨"setWeight", "int", false, false, false⟩] },
  { HostClass.plain "p" "Saw" with
    element := some "saw", supertypes := ["Tool"],
    attributes := [⟨"setTeeth", "byte", false, false, false⟩,
      ⟨"setGuard", "String", false, false, false⟩],
    sample := ⟨[("getGuard", .null), ("getTeeth", .int 300)], []⟩ }]⟩

/-- The hierarchy of these classes. -/
def workshopHierarchy : Hierarchy := .ofLineages workshop.classes [[0], [1], [2], [2, 3], [2, 4]]

/-- The warnings for the hammer and for the saw. -/
def toolWarnings : List Event :=
  [.noSample "p.Hammer" "getWeight", .unfitSample "p.Saw" "setTeeth" "300"]

theorem build_workshop : Hierarchy.build workshop = .ok workshopHierarchy :=
  Hierarchy.build_of_lineages (by decide) (by decide) (by decide) rfl

/-- The bench and the rack warn of the same tools, and the bench of itself too. No warning tells of the
guard of the saw, which was null. -/
theorem warnings_in_workshop :
    Hierarchy.build workshop = .ok workshopHierarchy ∧
    (generateElement workshopHierarchy Settings.default (0 : Fin 5)).2.filter Event.isWarning =
      toolWarnings ++ [.builderFailed "BenchSpec"
        (Fault.message ⟨"BenchSpec", .unknownType "setLamp" "Lamp"⟩)] ∧
    ∃ shape, (derive workshopHierarchy Settings.default.package (1 : Fin 5)).result = .ok shape ∧
      (generateElement workshopHierarchy Settings.default (1 : Fin 5)).2.filter Event.isWarning =
        toolWarnings ∧
      ∃ classes, Reaches workshopHierarchy (workshopHierarchy.children (1 : Fin 5)) classes ∧
        NoneSilent workshopHierarchy classes toolWarnings shape := by
  obtain ⟨-, rows, -, -, hevents, -, hbench⟩ :=
    warnings_of_build build_workshop Settings.default (0 : Fin 5)
  have htools : rows.flatten = toolWarnings := by
    rw [← hevents]
    decide +kernel
  have hlamp := hbench ⟨"BenchSpec", .unknownType "setLamp" "Lamp"⟩ (by decide +kernel)
  rw [htools] at hlamp
  obtain ⟨classes, rows, hreaches, -, hevents, hrack, -⟩ :=
    warnings_of_build build_workshop Settings.default (1 : Fin 5)
  have htools : rows.flatten = toolWarnings := by
    rw [← hevents]
    decide +kernel
  have hresult : (derive workshopHierarchy Settings.default.package (1 : Fin 5)).result.isOk = true :=
    by decide +kernel
  cases hshape : (derive workshopHierarchy Settings.default.package (1 : Fin 5)).result with
  | error fault =>
    rw [hshape] at hresult
    cases hresult
  | ok shape =>
    obtain ⟨helement, hsilent⟩ := hrack shape hshape
    rw [htools] at helement hsilent
    exact ⟨build_workshop, hlamp, shape, rfl, helement, classes, hreaches, hsilent⟩

end BuilderGen.Generation
