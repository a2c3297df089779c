import BuilderGen.Proofs.Builder.Locals
import BuilderGen.Proofs.Builder.Usability

/-!
# What `init()` runs on a new builder

A function that creates an element with nested ones makes a builder of it and calls `init()` on that
builder, for the lambda of its own parameter `init`. But a call means a function of the class if
there is one that fits, and the element functions of the builder have the names of elements.

* `Callee`, `callee?`: what a call of `init()` runs;
* `callee?_cases`: it runs the lambda unless the builder has a function that fits;
* `TakesInit`: when a class takes an element whose function fits, with `exists_answersInit_iff`;
* `RunsLambda`: what the call runs in a function, for the builder of a class;
* `init_runs_lambda_iff`: when the call runs the lambda, in the functions of builders and in the
  entry function.
-/

namespace BuilderGen.Builder

open BuilderGen.Log (Traced)
open BuilderGen.Schema (Attribute ChildSlot EntryPoint HostClass Manifest Settings)
open BuilderGen.Source (ClassRef Function Parameter)

/-! ## 1. Calls -/

/-- What the call `init()` on a new instance runs. -/
inductive Callee where
  /-- A function of its class. -/
  | member (f : Function)
  /-- The lambda that the calling function got, on an instance of the given class. -/
  | lambda (receiver : ClassRef)
deriving DecidableEq, Repr

/-- Whether a function has the name `init` and can be called without arguments. -/
def answersInit (f : Function) : Bool :=
  f.name == initName && f.parameters.all fun p => p.default.isSome

/-- **What the call `init()` on a new instance runs**: a function of its class if there is one that
fits, else the lambda behind the parameter of that name, which the variable of the calling function
may hide. -/
def callee? (members : List Function) (caller : Function) (variableName : String) :
    Option Callee :=
  match members.find? answersInit with
  | some f => some (.member f)
  | none =>
    if variableName = initName then none
    else match caller.parameters.find? fun p => p.name == initName with
      | some ⟨_, .receiverLambda receiver, _⟩ => some (.lambda receiver)
      | _ => none

/-- A function that takes a configuration, and whose variable does not hide it, runs it unless the
class has a function that fits. -/
theorem callee?_cases {members : List Function} {caller : Function} {variableName : String}
    {b : ClassRef} (hvariable : variableName ≠ initName)
    (hinit : (caller.parameters.find? fun p => p.name == initName) = some (initParameter b)) :
    (callee? members caller variableName = some (.lambda b) ↔
      ¬ ∃ f ∈ members, answersInit f = true) ∧
    ((∃ f ∈ members, callee? members caller variableName = some (.member f)) ↔
      ∃ f ∈ members, answersInit f = true) := by
  rw [callee?]
  cases hf : members.find? answersInit with
  | some f =>
    have hmem : f ∈ members := List.mem_of_find?_eq_some hf
    have hfits : ∃ f ∈ members, answersInit f = true := ⟨f, hmem, List.find?_some hf⟩
    exact ⟨iff_of_false (by simp) (not_not_intro hfits), iff_of_true ⟨f, hmem, rfl⟩ hfits⟩
  | none =>
    have hfits : ¬ ∃ f ∈ members, answersInit f = true := by
      rintro ⟨f, hmem, hanswers⟩
      exact List.find?_eq_none.1 hf f hmem hanswers
    dsimp only
    rw [if_neg hvariable, hinit]
    exact ⟨iff_of_true rfl hfits, iff_of_false (by simp [initParameter]) hfits⟩

/-! ## 2. Functions that fit -/

/-- **A class takes an element of the name `init` without required attributes.** -/
def TakesInit (h : Hierarchy) (c : h.Id) : Prop :=
  ∃ slot ∈ h.children c, ∃ k, Takes h slot k ∧ (h.get k).element = some initName ∧
    ∀ a ∈ h.attributes k, isMandatory a = false

section

variable {h : Hierarchy} {package property : String} {k : h.Id}

/-- The parameters for required attributes have no defaults, and the other ones have. -/
theorem defaults_targetOf : (targetOf h package property k).attributes.map
      (fun a => a.default.isSome) =
    (mandatoryAttributes (h.attributes k)).map (fun _ => false) ++
      (optionalAttributes (h.attributes k)).map fun _ => true := by
  rw [attributes_targetOf, ordered, List.map_append, List.map_append, List.map_map, List.map_map]
  congr 1
  · refine List.map_congr_left fun b hb => ?_
    simp [shapeAs, (mem_mandatoryAttributes.1 hb).2]
  · refine List.map_congr_left fun b hb => ?_
    have hb : isMandatory b = false := by simpa using (List.mem_filter.1 hb).2
    simp [shapeAs, hb]

/-- The function for an element fits exactly if the element has the name `init` and no required
attributes. -/
theorem answersInit_childFunction (r : Relationship) (he : (h.get k).isElement = true) :
    answersInit (childFunction property r (targetOf h package property k)) = true ↔
      (h.get k).element = some initName ∧ ∀ a ∈ h.attributes k, isMandatory a = false := by
  have hname : (childFunction property r (targetOf h package property k)).name = initName ↔
      (h.get k).element = some initName := by
    obtain ⟨element, hk⟩ := Option.isSome_iff_exists.1 he
    rw [hk, Option.some.injEq]
    show Name.escape ((h.get k).element.getD (h.get k).name) = initName ↔ _
    rw [hk, Option.getD_some, escape_eq_initName]
  have hnested : ∀ p ∈ ((targetOf h package property k).nested.map initParameter).toList,
      p.default.isSome = true := by
    intro p hp
    cases hn : (targetOf h package property k).nested with
    | none => simp [hn] at hp
    | some b =>
      rw [hn] at hp
      cases List.mem_singleton.1 hp
      rfl
  have hattributes : (∀ p ∈ (targetOf h package property k).attributes.map
        AttributeShape.declaration, p.default.isSome = true) ↔
      ∀ a ∈ h.attributes k, isMandatory a = false := by
    have hdefaults : (∀ p ∈ (targetOf h package property k).attributes.map
          AttributeShape.declaration, p.default.isSome = true) ↔
        ∀ d ∈ (targetOf h package property k).attributes.map (fun a => a.default.isSome),
          d = true := by
      simp only [List.forall_mem_map, AttributeShape.declaration, Option.isSome_map]
    rw [hdefaults, defaults_targetOf, List.forall_mem_append]
    simp only [List.forall_mem_map, mem_mandatoryAttributes, Bool.false_eq_true, imp_false,
      implies_true, and_true, not_and, Bool.not_eq_true]
  rw [answersInit, Bool.and_eq_true, beq_iff_eq, hname, List.all_eq_true, childFunction,
    List.forall_mem_append, hattributes]
  exact and_congr_right fun _ => and_iff_left hnested

end

/-- **A builder has a function that fits exactly if its class takes an element of the name `init`
without required attributes.** -/
theorem exists_answersInit_iff {h : Hierarchy} (hv : h.Valid) {package : String} {c : h.Id}
    {own : Shape} (hd : (derive h package c).result = .ok own) :
    (∃ f ∈ own.functions, answersInit f = true) ↔ TakesInit h c := by
  constructor
  · rintro ⟨f, hf, hanswers⟩
    obtain ⟨r, hr, hf⟩ := List.mem_flatMap.1 hf
    obtain ⟨t, ht, rfl⟩ := List.mem_map.1 hf
    obtain ⟨slot, hslot, hrel⟩ := exists_slot_of_relationship hd hr
    obtain ⟨s, hread, -, rfl⟩ := relationship_ok.1 hrel
    obtain ⟨k, hk, rfl⟩ := List.mem_map.1 ht
    have helement := (classes_of_readSlot hread).2 k hk
    have htakes : Takes h slot k := by
      rw [← mem_takenBy hv (hasSetter_of_mem_children hv hslot), takenBy, hread]
      exact hk
    exact ⟨slot, hslot, k, htakes, (answersInit_childFunction _ helement).1 hanswers⟩
  · rintro ⟨slot, hslot, k, htakes, hk⟩
    obtain ⟨r, hr, hrel⟩ := exists_relationship_of_slot hd hslot
    obtain ⟨s, hread, -, rfl⟩ := relationship_ok.1 hrel
    have hmem : k ∈ s.classes := by
      rw [← mem_takenBy hv (hasSetter_of_mem_children hv hslot), takenBy, hread] at htakes
      exact htakes
    have helement := (classes_of_readSlot hread).2 k hmem
    refine ⟨_, List.mem_flatMap.2 ⟨_, hr, List.mem_map_of_mem (List.mem_map_of_mem hmem)⟩, ?_⟩
    exact (answersInit_childFunction _ helement).2 hk

/-! ## 3. Functions that call -/

section

variable {h : Hierarchy} {package property : String} {c : h.Id}

/-- The variable does not hide the configuration of nested elements. -/
theorem instanceName_ne_initName (r : Relationship) (hn : h.takesElements c = true) :
    (targetOf h package property c).instanceName ≠ initName := by
  have hinit : initName ∈ scope property r (targetOf h package property c) :=
    mem_scope.2 (.inr (.inl ⟨isSome_nested_targetOf.trans hn, rfl⟩))
  rw [instanceName_targetOf r]
  split
  · exact childLocal_ne_initName _
  · rename_i hplain
    exact fun e => hplain (e ▸ hinit)

/-- A function that takes a configuration has one parameter of the name `init`. -/
theorem find?_parameters_childFunction (r : Relationship) (hn : h.takesElements c = true) :
    ((childFunction property r (targetOf h package property c)).parameters.find? fun p =>
      p.name == initName) = some (initParameter (builderClass h package c)) := by
  have hattributes : ((targetOf h package property c).attributes.map
      AttributeShape.declaration).find? (fun p => p.name == initName) = none := by
    rw [List.find?_eq_none]
    intro p hp e
    obtain ⟨a, ha, rfl⟩ := List.mem_map.1 hp
    have hname : a.parameter ∈ (targetOf h package property c).attributes.map
        AttributeShape.parameter := List.mem_map_of_mem ha
    rw [parameters_targetOf, hn] at hname
    obtain ⟨b, -, hb⟩ := List.mem_map.1 hname
    exact parameterName_ne_initName b (hb.trans (beq_iff_eq.1 e))
  have hnested : (targetOf h package property c).nested = some (builderClass h package c) := by
    rw [targetOf, if_pos hn]
  rw [childFunction, List.find?_append, hattributes, hnested]
  rfl

/-- The variable for the root of a configuration does not hide the configuration. -/
theorem rootName_ne_initName (root : ClassRef) : rootName root ≠ initName := by
  rw [rootName, ne_eq, escape_eq_initName]
  split
  · intro e
    have hfirst := congrArg (fun s => s.toList.head?) e
    simp [initName] at hfirst
  · rename_i hname
    exact fun e => hname (beq_iff_eq.2 e)

end

/-- **What the call `init()` runs in a function**, if the new builder is the one of the class `c`:
the lambda that the function got, unless the class takes an element of the name `init` without
required attributes, and else the function for such an element. -/
structure RunsLambda (h : Hierarchy) (package : String) (c : h.Id) (caller : Function)
    (variableName : String) : Prop where
  calls : configuration (builderClass h package c) variableName ∈ caller.body
  lambda : ∀ own, (derive h package c).result = .ok own →
    (callee? own.functions caller variableName = some (.lambda (builderClass h package c)) ↔
      ¬ TakesInit h c)
  member : ∀ own, (derive h package c).result = .ok own →
    ((∃ f ∈ own.functions, callee? own.functions caller variableName = some (.member f)) ↔
      TakesInit h c)

/-- A function that takes the configuration of a class, and whose variable does not hide it, runs it
unless the class takes an element whose function fits. -/
theorem runsLambda_of_find? {h : Hierarchy} (hv : h.Valid) {package : String} {c : h.Id}
    {caller : Function} {variableName : String}
    (hcalls : configuration (builderClass h package c) variableName ∈ caller.body)
    (hvariable : variableName ≠ initName)
    (hinit : (caller.parameters.find? fun p => p.name == initName) =
      some (initParameter (builderClass h package c))) :
    RunsLambda h package c caller variableName := by
  refine ⟨hcalls, fun own hd => ?_, fun own hd => ?_⟩
  · rw [(callee?_cases hvariable hinit).1, exists_answersInit_iff hv hd]
  · rw [(callee?_cases hvariable hinit).2, exists_answersInit_iff hv hd]

/-- **The call `init()` on a new builder runs the lambda of the calling function exactly if the
class takes no element of the name `init` without required attributes.** Otherwise it runs the
function for such an element, in the functions of builders as in the entry function. -/
theorem init_runs_lambda_iff {m : Manifest} {h : Hierarchy} (hm : Hierarchy.build m = .ok h)
    (package : String) :
    (∀ i shape, (derive h package i).result = .ok shape → ∀ r ∈ shape.relationships,
      ∀ t ∈ r.targets, ∀ b, t.nested = some b → ∃ c, h.classRef c = t.host ∧
        builderClass h package c = b ∧
        RunsLambda h package c (childFunction shape.property r t) t.instanceName) ∧
    ∀ e root element, h.entryPoint e = .ok (root, element) →
      RunsLambda h package element
        (entryFunction e.function (h.classRef root) (builderClass h package element))
        (rootName (h.classRef root)) := by
  have hv := Hierarchy.valid_of_build hm
  constructor
  · intro i shape hd r hr t ht b hb
    obtain ⟨c, -, -, rfl⟩ := exists_class_of_target hd hr ht
    have hn : h.takesElements c = true := by
      rw [← isSome_nested_targetOf, hb, Option.isSome_some]
    have hbuilder : builderClass h package c = b := by
      rw [targetOf, if_pos hn] at hb
      exact Option.some.inj hb
    have hcalls : configuration (builderClass h package c)
          (targetOf h package shape.property c).instanceName ∈
        (childFunction shape.property r (targetOf h package shape.property c)).body := by
      rw [childFunction, hb, hbuilder]
      simp
    exact ⟨c, rfl, hbuilder, runsLambda_of_find? hv hcalls (instanceName_ne_initName r hn)
      (find?_parameters_childFunction r hn)⟩
  · intro e root element _
    have hcalls : configuration (builderClass h package element) (rootName (h.classRef root)) ∈
        (entryFunction e.function (h.classRef root) (builderClass h package element)).body := by
      simp [entryFunction]
    exact runsLambda_of_find? hv hcalls (rootName_ne_initName _) rfl

/-! ## 4. A hall -/

/-- A hall with a stage, which takes an opening. The element name of an opening is `init`. -/
def hall : Manifest := ⟨Settings.default, [
  { HostClass.plain "p" "Hall" with
    element := some "hall", children := [⟨"setStage", "Stage"⟩] },
  { HostClass.plain "p" "Stage" with
    element := some "stage", children := [⟨"setOpening", "Opening"⟩] },
  { HostClass.plain "p" "Opening" with element := some "init" }]⟩

/-- The hierarchy of these classes. -/
def hallHierarchy : Hierarchy := .ofLineages hall.classes [[0], [1], [2]]

/-- What the function for the stage is written from. -/
def stageTarget : Target :=
  ⟨⟨"p", ["Stage"]⟩, "stage", "stage", [], some (.topLevel "d" "StageSpec")⟩

/-- The slot of the stage. -/
def stageSlot : Relationship := ⟨"setStage", "stage", false, "p.Stage", [stageTarget]⟩

/-- The shape of the builder of the hall. -/
def hallShape : Shape := ⟨.topLevel "d" "HallSpec", ⟨"p", ["Hall"]⟩, "hall", [stageSlot]⟩

/-- The shape of the builder of the stage. -/
def stageShape : Shape := ⟨.topLevel "d" "StageSpec", ⟨"p", ["Stage"]⟩, "stage",
  [⟨"setOpening", "opening", false, "p.Opening",
    [⟨⟨"p", ["Opening"]⟩, "init", "opening", [], none⟩]⟩]⟩

theorem build_hall : Hierarchy.build hall = .ok hallHierarchy :=
  Hierarchy.build_of_lineages (by decide) (by decide) (by decide) rfl

theorem derive_hall : (derive hallHierarchy "d" (0 : Fin 3)).result = .ok hallShape := by
  decide +kernel

theorem derive_stage : (derive hallHierarchy "d" (1 : Fin 3)).result = .ok stageShape := by
  decide +kernel

/-- The function for the stage does not run its lambda, but the function for the opening. -/
theorem callee_in_hall :
    Hierarchy.build hall = .ok hallHierarchy ∧
    (derive hallHierarchy "d" (0 : Fin 3)).result = .ok hallShape ∧
    (derive hallHierarchy "d" (1 : Fin 3)).result = .ok stageShape ∧
    stageSlot ∈ hallShape.relationships ∧ stageTarget ∈ stageSlot.targets ∧
    stageTarget.nested = some stageShape.builder ∧
    ∃ f ∈ stageShape.functions, f.name = "init" ∧ f.parameters = [] ∧
      callee? stageShape.functions (childFunction hallShape.property stageSlot stageTarget)
        stageTarget.instanceName = some (.member f) := by
  have hr : stageSlot ∈ hallShape.relationships := List.mem_singleton_self _
  have ht : stageTarget ∈ stageSlot.targets := List.mem_singleton_self _
  exact ⟨build_hall, derive_hall, derive_stage, hr, ht, rfl, _, List.mem_singleton_self _, rfl, rfl,
    by decide +kernel⟩

/-- The stage takes an opening, and so its configuration is never run. -/
theorem init_in_hall :
    Hierarchy.build hall = .ok hallHierarchy ∧
    (derive hallHierarchy "d" (0 : Fin 3)).result = .ok hallShape ∧
    (derive hallHierarchy "d" (1 : Fin 3)).result = .ok stageShape ∧
    stageSlot ∈ hallShape.relationships ∧ stageTarget ∈ stageSlot.targets ∧
    ∃ c, hallHierarchy.classRef c = stageTarget.host ∧
      builderClass hallHierarchy "d" c = .topLevel "d" "StageSpec" ∧
      RunsLambda hallHierarchy "d" c (childFunction hallShape.property stageSlot stageTarget)
        stageTarget.instanceName := by
  have hr : stageSlot ∈ hallShape.relationships := List.mem_singleton_self _
  have ht : stageTarget ∈ stageSlot.targets := List.mem_singleton_self _
  exact ⟨build_hall, derive_hall, derive_stage, hr, ht,
    (init_runs_lambda_iff build_hall "d").1 _ _ derive_hall _ hr _ ht _ rfl⟩

end BuilderGen.Builder
