import BuilderGen.Proofs.Builder.References
import BuilderGen.Proofs.Generation.Sources
import BuilderGen.Proofs.Hierarchy.Names
import BuilderGen.Proofs.Source.Builtin

/-!
# The result type of lambdas

The type of a lambda is written with the result type `Unit`, which is text and no reference. So the
names of a file are decided without it, and in a file that imports a class of that simple name the
result type is read as that class.

* `TakesLambda`, `result_mem_layout`: where the result type is written;
* `origin_of_mem_refs`: where the references of a source come from;
* `not_captures_builderClass`: no builder takes the result type over;
* `lambda_result_of_generate`: which classes take it over, and what it is read as.
-/

namespace BuilderGen.Generation

open BuilderGen.Builder (Shape builderClass valueTypeOf)
open BuilderGen.Result
open BuilderGen.Schema
open BuilderGen.Source

/-! ## 1. Where the result type is written -/

/-- A function of a file has a lambda among its parameters. -/
def TakesLambda (f : File) : Prop := ∃ p ∈ f.parameters, ∃ c, p.type = .receiverLambda c

/-- The result type of a lambda stands in the text of the file. -/
theorem result_mem_layout {f : File} (hf : TakesLambda f) (indent : String) :
    .text ".() -> Unit" ∈ f.layout indent := by
  obtain ⟨p, hp, c, hc⟩ := hf
  refine File.mem_layout hp ?_
  rw [hc]
  exact List.mem_cons_of_mem _ (List.mem_singleton_self _)

/-! ## 2. Where references come from -/

/-- A class that a source refers to is a class of the schema, the type of an attribute, or a
builder. -/
theorem origin_of_mem_refs {h : Hierarchy} {s : Settings} {files : List File}
    (hf : sources h s = .ok files) {f : File} (hmem : f ∈ files) {c : ClassRef} (hc : c ∈ f.refs) :
    (∃ j, h.classRef j = c) ∨ (∃ j, ∃ a ∈ h.attributes j, (valueTypeOf a).sourceClass = c) ∨
      ∃ j, builderClass h s.package j = c := by
  rcases source_cases hf hmem with ⟨i, shape, hd, rfl⟩ | ⟨e, root, element, rfl⟩
  · rcases (Builder.mem_refs_file hd).1 hc with rfl | ⟨r, hr, t, ht, hc⟩
    · exact .inl ⟨i, (Builder.head_of_derive hd).2.1.symm⟩
    · obtain ⟨k, -, -, rfl⟩ := Builder.exists_class_of_target hd hr ht
      rcases hc with rfl | hnested | ⟨a, ha, rfl⟩
      · exact .inl ⟨k, rfl⟩
      · simp only [Builder.targetOf, Option.ite_none_right_eq_some, Option.some.injEq] at hnested
        exact .inr (.inr ⟨k, hnested.2⟩)
      · obtain ⟨b, hb, rfl⟩ := Builder.exists_attribute_of_mem ha
        exact .inr (.inl ⟨k, b, hb, rfl⟩)
  · rcases Builder.mem_refs_entryFile.1 hc with rfl | rfl
    · exact .inl ⟨root, rfl⟩
    · exact .inr (.inr ⟨element, rfl⟩)

/-- The name of a builder does not end in `Unit`. -/
theorem lastSegment_builderName_ne (h : Hierarchy) (i : h.Id) :
    Text.lastSegment (h.builderName i) ≠ "Unit" := by
  intro hl
  obtain ⟨front, hfront⟩ := Text.lastSegment_suffix (h.builderName i)
  rw [hl] at hfront
  have hlast := congrArg List.getLast? hfront
  have hunit : "Unit".toList.getLast? = some 't' := by decide
  have hspec : "Spec".toList.getLast? = some 'c' := by decide
  simp only [Hierarchy.builderName, Hierarchy.builderNameOf, Name.builderName,
    String.toList_append, List.getLast?_append, hunit, hspec, Option.some_or] at hlast
  exact absurd hlast (by decide)

theorem builderName_ne (h : Hierarchy) (i : h.Id) : h.builderName i ≠ "Unit" := by
  intro e
  have hlast := lastSegment_builderName_ne h i
  rw [e] at hlast
  exact hlast (by decide)

theorem nestedName_builderClass (h : Hierarchy) (package : String) (i : h.Id) :
    (builderClass h package i).nestedName = h.builderName i :=
  Text.joinDots_singleton _

/-- **No builder takes the result type over.** -/
theorem not_captures_builderClass {h : Hierarchy} {package : String} {i : h.Id} {f : File} :
    ¬ f.Captures "Unit" (builderClass h package i) := by
  rintro ⟨-, ⟨-, hn⟩ | ⟨hl, -⟩⟩
  · rw [nestedName_builderClass] at hn
    exact builderName_ne h i hn
  · rw [ClassRef.lastSegment_canonical_eq, nestedName_builderClass] at hl
    exact lastSegment_builderName_ne h i hl

/-- A source declares no class of that name. -/
theorem nestedName_ne_of_mem_declared {h : Hierarchy} {s : Settings} {files : List File}
    (hf : sources h s = .ok files) {f : File} (hmem : f ∈ files) :
    ∀ c ∈ f.declared, c.nestedName ≠ "Unit" := by
  intro c hc
  rcases source_cases hf hmem with ⟨i, shape, hd, rfl⟩ | ⟨e, root, element, rfl⟩
  · obtain rfl := List.mem_singleton.1 hc
    have hbuilder := (Builder.head_of_derive hd).1
    show (ClassRef.topLevel s.package shape.builder.simpleName).nestedName ≠ "Unit"
    rw [hbuilder]
    show (builderClass h s.package i).nestedName ≠ "Unit"
    rw [nestedName_builderClass]
    exact builderName_ne h i
  · cases hc

/-! ## 3. What the result type is read as -/

/-- **The result type of lambdas in the files of a report.** It keeps its meaning in a file exactly
if no reference of the file takes it over, and then it is read as `kotlin.Unit`. Only classes of the
schema and types of attributes take it over. Where one does, the result type is read as another
class, at least if the references of the file have packages and no names with dots. -/
theorem lambda_result_of_generate {h : Hierarchy} {s : Settings} {r : Report}
    (hr : (generate h s).result = .ok r) :
    ∃ files, sources h s = .ok files ∧ r.files.map contents = files.map (written s) ∧
      ∀ f ∈ files, TakesLambda f →
        .text ".() -> Unit" ∈ f.layout s.indentation ∧
        (f.Keeps "Unit" ↔ ∀ c ∈ f.refs, ¬ f.Captures "Unit" c) ∧
        (∀ c ∈ f.refs, f.Captures "Unit" c → (∃ j, h.classRef j = c) ∨
          ∃ j, ∃ a ∈ h.attributes j, (valueTypeOf a).sourceClass = c) ∧
        (f.Keeps "Unit" → f.denotes "Unit" = "kotlin.Unit") ∧
        ((∀ c ∈ f.refs, c.WellNamed) → f.denotes "Unit" = "kotlin.Unit" → f.Keeps "Unit") := by
  rw [result_generate] at hr
  obtain ⟨entry, he, rfl⟩ := map_ok.1 hr
  obtain ⟨files, hf, hw⟩ := sources_of_entryFiles he
  have hdot : '.' ∉ "Unit".toList := by decide
  have hbuiltin : builtinName "Unit" = "kotlin.Unit" := by decide
  rw [← hbuiltin]
  refine ⟨files, hf, hw, fun f hmem hlambda => ⟨result_mem_layout hlambda _,
    keeps_iff (nestedName_ne_of_mem_declared hf hmem), fun c hc hcaptures => ?_,
    denotes_of_keeps hdot, fun hwell => keeps_of_denotes hwell hdot⟩⟩
  rcases origin_of_mem_refs hf hmem hc with hclass | hattribute | ⟨j, rfl⟩
  · exact .inl hclass
  · exact .inr hattribute
  · exact absurd hcaptures not_captures_builderClass

/-- A scale with a unit, which has parts. -/
def scales : Manifest := ⟨{ Settings.default with package := "d", outputDir := "out" }, [
  { HostClass.plain "p" "Scale" with element := some "scale", children := [⟨"setUnit", "Unit"⟩] },
  { HostClass.plain "p" "Unit" with element := some "unit", children := [⟨"setPart", "Part"⟩] },
  { HostClass.plain "p" "Part" with element := some "part" }]⟩

/-- The hierarchy of these classes. -/
def scalesHierarchy : Hierarchy := .ofLineages scales.classes [[0], [1], [2]]

/-- The shape of the builder of the scale. -/
def scaleShape : Shape := ⟨.topLevel "d" "ScaleSpec", ⟨"p", ["Scale"]⟩, "scale",
  [⟨"setUnit", "unit", false, "p.Unit",
    [⟨⟨"p", ["Unit"]⟩, "unit", "unit", [], some (.topLevel "d" "UnitSpec")⟩]⟩]⟩

theorem build_scales : Hierarchy.build scales = .ok scalesHierarchy :=
  Hierarchy.build_of_lineages (by decide) (by decide) (by decide) rfl

theorem scale_mem_shapes : scaleShape ∈ shapes scalesHierarchy "d" :=
  mem_shapes.2 ⟨(0 : Fin 3), Hierarchy.mem_elements.2 rfl, by decide +kernel⟩

/-- The function for the unit takes a lambda. -/
theorem takesLambda_scale : TakesLambda (scaleShape.file "d") :=
  ⟨Builder.initParameter (.topLevel "d" "UnitSpec"), by decide +kernel, _, rfl⟩

/-- **The result type in the builder of the scale is read as the unit**, which is imported. -/
theorem unit_in_scale :
    Hierarchy.build scales = .ok scalesHierarchy ∧
    (∃ files, sources scalesHierarchy scales.settings = .ok files ∧
      scaleShape.file "d" ∈ files) ∧
    TakesLambda (scaleShape.file "d") ∧
    (NameTable.ofFile (scaleShape.file "d")).imports = ["p.Scale", "p.Unit"] ∧
    (scaleShape.file "d").denotes "Unit" = "p.Unit" := by
  refine ⟨build_scales, ⟨_, rfl, ?_⟩, takesLambda_scale, by decide +kernel, by decide +kernel⟩
  exact List.mem_append_left _ (List.mem_map_of_mem scale_mem_shapes)

theorem lambda_result_scale :
    Hierarchy.build scales = .ok scalesHierarchy ∧
    ∃ r, (generate scalesHierarchy scales.settings).result = .ok r ∧
      ∃ files, sources scalesHierarchy scales.settings = .ok files ∧
        scaleShape.file "d" ∈ files ∧ TakesLambda (scaleShape.file "d") ∧
        ¬ (scaleShape.file "d").Keeps "Unit" ∧
        (scaleShape.file "d").denotes "Unit" ≠ "kotlin.Unit" := by
  have hr := (result_generate scalesHierarchy scales.settings).trans
    (map_ok.2 ⟨[], rfl, rfl⟩)
  obtain ⟨files, hf, -, hall⟩ := lambda_result_of_generate hr
  have hmem : scaleShape.file "d" ∈ files := (mem_sources hf).2 (.inl ⟨_, scale_mem_shapes, rfl⟩)
  obtain ⟨-, hkeeps, -, -, hread⟩ := hall _ hmem takesLambda_scale
  have hshares : ¬ (scaleShape.file "d").Shares "Unit" := by
    rw [← mem_ambiguous]
    decide +kernel
  have hcaptures : (scaleShape.file "d").Captures "Unit" ⟨"p", ["Unit"]⟩ :=
    ⟨by decide, .inr ⟨by decide, hshares, by decide⟩⟩
  have hnot : ¬ (scaleShape.file "d").Keeps "Unit" := fun hk =>
    hkeeps.1 hk ⟨"p", ["Unit"]⟩ (by decide +kernel) hcaptures
  have hwell : ∀ c ∈ (scaleShape.file "d").refs, c.WellNamed := by decide +kernel
  exact ⟨build_scales, _, hr, files, hf, hmem, takesLambda_scale, hnot,
    fun hd => hnot (hread hwell hd)⟩

end BuilderGen.Generation
