import BuilderGen.Builder.Assembly
import BuilderGen.Proofs.Builder.Derivation
import BuilderGen.Proofs.Hierarchy.Members
import BuilderGen.Proofs.Name.Written

/-!
# The names of parameters

A function that creates an element has a parameter for each attribute and, if the element takes
nested ones, the parameter `init`. Each parameter of an attribute has a word behind its name, and
the word `init` gives way to `initValue` where the name is taken.

* `parameterWord`: the word behind the name of a parameter;
* `giveWay`, `giveWay_eq_iff`: which words are told apart once `init` has given way;
* `shapeAs`, `attributes_targetOf`: the shapes of the attributes in a function, in closed form;
* `parameters_targetOf`: the names of the parameters for a class;
* `nodup_parameters_iff`: a function has two parameters of one name exactly if two attributes share
  a word, or if `init` gives way and `initValue` is a word too.
-/

namespace BuilderGen.Builder

open BuilderGen.Schema (Attribute HostClass Manifest Settings)
open BuilderGen.Source (Parameter)

/-! ## 1. Words -/

/-- The word behind the name of the parameter for an attribute. -/
def parameterWord (a : Attribute) : String :=
  Name.parameterName (Name.getterName a.setter (valueTypeOf a).isTruthValue)

/-- The word is the property with a small first letter, or with `is` in front for truth values. -/
theorem parameterWord_eq {a : Attribute} {property : String} (hs : a.setter = "set" ++ property) :
    parameterWord a = if (valueTypeOf a).isTruthValue then "is" ++ property
      else Text.decapitalize property := by
  rw [parameterWord, hs, Name.parameterName_getterName]

/-- No word of an attribute starts with a backtick. -/
theorem bare_parameterWord {h : Hierarchy} (hv : h.Valid) {c : h.Id} {a : Attribute}
    (ha : a ∈ h.attributes c) : Name.Bare (parameterWord a) := by
  obtain ⟨property, hs, hp⟩ := hv.property_of_attribute ha
  rw [parameterWord_eq hs]
  split
  · unfold Name.Bare
    rw [String.toList_append]
    simp
  · exact (Name.bare_of_isIdentifier hp).decapitalize

/-! ## 2. Giving way -/

/-- What `init` is called where the name is taken. -/
def initValueName : String := initName ++ "Value"

/-- The word that a parameter takes, once `init` has given way where the name is taken. -/
def giveWay (nests : Bool) (word : String) : String :=
  if nests = true ∧ word = initName then initValueName else word

theorem bare_initValueName : Name.Bare initValueName := by unfold Name.Bare; decide

theorem escape_initValueName : Name.escape initValueName = initValueName := by decide

theorem escape_eq_initName {word : String} : Name.escape word = initName ↔ word = initName :=
  Name.escape_eq_iff (by unfold Name.Bare; decide) (by decide)

theorem bare_giveWay (nests : Bool) {word : String} (hw : Name.Bare word) :
    Name.Bare (giveWay nests word) := by
  unfold giveWay
  split
  · exact bare_initValueName
  · exact hw

/-- The word `init` is gone where the name is taken. -/
theorem giveWay_ne_initName (word : String) : giveWay true word ≠ initName := by
  unfold giveWay
  split
  · decide
  · rename_i hw
    exact fun e => hw ⟨rfl, e⟩

/-- **Words are told apart once `init` has given way, unless one gives way to the other.** -/
theorem giveWay_eq_iff {nests : Bool} {v w : String} : giveWay nests v = giveWay nests w ↔
    v = w ∨ nests = true ∧ (v = initName ∧ w = initValueName ∨ v = initValueName ∧ w = initName) := by
  unfold giveWay
  cases nests with
  | false => simp
  | true =>
    by_cases hv : v = initName <;> by_cases hw : w = initName
    · simp [hv, hw]
    · simp [hv, hw, Ne.symm hw, eq_comm]
    · simp [hv, hw]
    · simp [hv, hw]

/-! ## 3. The parameters for a class -/

/-- The attributes of a class in the order of the parameters. -/
def ordered (all : List Attribute) : List Attribute :=
  mandatoryAttributes all ++ optionalAttributes all

/-- Each attribute has its place in the order of the parameters. -/
theorem ordered_perm (all : List Attribute) : (ordered all).Perm all := by
  have hmandatory : (mandatoryAttributes all).Perm (all.filter isMandatory) := by
    simpa [mandatoryAttributes, List.filter_filter, Bool.and_comm] using
      List.filter_append_perm (fun a => !a.textContent) (all.filter isMandatory)
  exact (hmandatory.append_right _).trans (List.filter_append_perm isMandatory all)

/-- The name of a parameter, as it is written. -/
def parameterName (nests : Bool) (a : Attribute) : String :=
  Name.escape (giveWay nests (parameterWord a))

/-- It makes no difference whether `init` gives way before or after it is written. -/
theorem written_giveWay (nests : Bool) (word : String) :
    (if nests && Name.escape word == initName then initValueName else Name.escape word) =
      Name.escape (giveWay nests word) := by
  unfold giveWay
  simp only [Bool.and_eq_true, beq_iff_eq, escape_eq_initName]
  split
  · exact escape_initValueName.symm
  · rfl

theorem parameterOf_eq (a : Attribute) :
    parameterOf a (valueTypeOf a) = Name.escape (parameterWord a) := by
  rw [parameterOf, parameterWord]

theorem mem_mandatoryAttributes {all : List Attribute} {a : Attribute} :
    a ∈ mandatoryAttributes all ↔ a ∈ all ∧ isMandatory a = true := by
  rw [mandatoryAttributes, List.mem_append, List.mem_filter, List.mem_filter]
  cases a.textContent <;> simp

section

variable (h : Hierarchy) (package property : String) (c : h.Id)

/-- The shape of an attribute whose parameter has the given name. -/
def shapeAs (b : Attribute) (name : String) : AttributeShape :=
  { setter := b.setter
    parameter := name
    type := valueTypeOf b
    required := isMandatory b
    nullable := !isMandatory b && admitsNull (valueTypeOf b) (defaultOf h c b).1
    default := if isMandatory b then none else some (defaultOf h c b).1 }

/-- The shapes of the attributes before any name gives way. -/
theorem attributesOf_eq : (attributesOf h c).1 =
    (ordered (h.attributes c)).map fun b => shapeAs h c b (Name.escape (parameterWord b)) := by
  have hmandatory : (mandatoryAttributes (h.attributes c)).map mandatory =
      (mandatoryAttributes (h.attributes c)).map fun b =>
        shapeAs h c b (Name.escape (parameterWord b)) := by
    refine List.map_congr_left fun b hb => ?_
    have hb : isMandatory b = true := (mem_mandatoryAttributes.1 hb).2
    rw [mandatory, shapeAs, hb, parameterOf_eq]
    rfl
  have hoptional : (optionalAttributes (h.attributes c)).map (fun b => (optional h c b).1) =
      (optionalAttributes (h.attributes c)).map fun b =>
        shapeAs h c b (Name.escape (parameterWord b)) := by
    refine List.map_congr_left fun b hb => ?_
    have hb : isMandatory b = false := by simpa using (List.mem_filter.1 hb).2
    simp only [optional, optionalWith, shapeAs, hb, parameterOf_eq, Bool.not_false, Bool.true_and,
      Bool.false_eq_true, if_false]
  rw [attributesOf, ordered, List.map_append, ← hmandatory, ← hoptional, List.map_map]
  rfl

/-- Only the name of the parameter changes where the name `init` is taken. -/
theorem renamed_shapeAs (nests : Bool) (b : Attribute) (name : String) :
    (if nests && (shapeAs h c b name).parameter == initName then
        { shapeAs h c b name with parameter := initName ++ "Value" }
      else shapeAs h c b name) =
      shapeAs h c b (if nests && name == initName then initValueName else name) := by
  have hname : (shapeAs h c b name).parameter = name := rfl
  rw [hname]
  cases nests && name == initName <;> rfl

/-- **The shapes of the attributes in a function for a class**, in the order of its parameters. -/
theorem attributes_targetOf : (targetOf h package property c).attributes =
    (ordered (h.attributes c)).map fun b =>
      shapeAs h c b (parameterName (h.takesElements c) b) := by
  have hattributes : (targetOf h package property c).attributes =
      renameInit (h.takesElements c) (attributesOf h c).1 := by rw [targetOf]
  rw [hattributes, attributesOf_eq, renameInit, List.map_map]
  refine List.map_congr_left fun b _ => ?_
  rw [parameterName, ← written_giveWay, Function.comp_apply]
  exact renamed_shapeAs h c _ b _

/-- **The names of the parameters for the attributes of a class.** -/
theorem parameters_targetOf :
    (targetOf h package property c).attributes.map AttributeShape.parameter =
      (ordered (h.attributes c)).map (parameterName (h.takesElements c)) := by
  rw [attributes_targetOf, List.map_map]
  rfl

end

/-- Behind each parameter of a target stands an attribute of the class. -/
theorem exists_attribute_of_mem {h : Hierarchy} {package property : String} {c : h.Id}
    {a : AttributeShape} (ha : a ∈ (targetOf h package property c).attributes) :
    ∃ b ∈ h.attributes c, a = shapeAs h c b (parameterName (h.takesElements c) b) := by
  rw [attributes_targetOf] at ha
  obtain ⟨b, hb, rfl⟩ := List.mem_map.1 ha
  exact ⟨b, (ordered_perm _).mem_iff.1 hb, rfl⟩

/-- Each attribute of a class stands behind one parameter of a target, the one with its setter. -/
theorem shape_of_setter {h : Hierarchy} {package property : String} {c : h.Id} {b : Attribute}
    (hb : b ∈ h.attributes c) :
    (∃ a ∈ (targetOf h package property c).attributes, a.setter = b.setter) ∧
    ∀ a ∈ (targetOf h package property c).attributes, a.setter = b.setter →
      a = shapeAs h c b (parameterName (h.takesElements c) b) := by
  constructor
  · have hmem : b ∈ ordered (h.attributes c) := (ordered_perm _).mem_iff.2 hb
    rw [attributes_targetOf]
    exact ⟨_, List.mem_map_of_mem hmem, rfl⟩
  · intro a ha e
    obtain ⟨b', hb', rfl⟩ := exists_attribute_of_mem ha
    -- No other attribute of the class has the setter.
    have hsame : b' = b :=
      List.inj_on_of_nodup_map (Hierarchy.nodup_keys_inherited h _ _ c) hb' hb e
    rw [hsame]

/-- The names of the parameters of the function for a class. -/
theorem parameters_childFunction (h : Hierarchy) (package property : String) (r : Relationship)
    (c : h.Id) :
    (childFunction property r (targetOf h package property c)).parameters.map Parameter.name =
      (ordered (h.attributes c)).map (parameterName (h.takesElements c)) ++
        if h.takesElements c then [initName] else [] := by
  have hnames : (targetOf h package property c).attributes.map
      (Parameter.name ∘ AttributeShape.declaration) = _ := parameters_targetOf h package property c
  rw [childFunction, List.map_append, List.map_map, hnames, targetOf]
  cases h.takesElements c <;> rfl

/-! ## 4. Different names -/

theorem parameterName_eq_iff {h : Hierarchy} (hv : h.Valid) {c : h.Id} {a b : Attribute}
    (ha : a ∈ h.attributes c) (hb : b ∈ h.attributes c) {nests : Bool} :
    parameterName nests a = parameterName nests b ↔ parameterWord a = parameterWord b ∨
      nests = true ∧ (parameterWord a = initName ∧ parameterWord b = initValueName ∨
        parameterWord a = initValueName ∧ parameterWord b = initName) := by
  rw [parameterName, parameterName, Name.escape_inj (bare_giveWay _ (bare_parameterWord hv ha))
    (bare_giveWay _ (bare_parameterWord hv hb)), giveWay_eq_iff]

/-- Where the name `init` is taken, no parameter for an attribute has it. -/
theorem parameterName_ne_initName (a : Attribute) : parameterName true a ≠ initName :=
  fun e => giveWay_ne_initName _ (escape_eq_initName.1 e)

/-- The names of the parameters are different exactly if those for the attributes are. -/
theorem nodup_names_iff {all : List Attribute} (hnd : all.Nodup) (nests : Bool) :
    ((ordered all).map (parameterName nests) ++ if nests then [initName] else []).Nodup ↔
      ∀ a ∈ all, ∀ b ∈ all, parameterName nests a = parameterName nests b → a = b := by
  rw [← List.nodup_map_iff_inj_on hnd, ← ((ordered_perm all).map _).nodup_iff]
  cases nests with
  | false => rw [if_neg Bool.false_ne_true, List.append_nil]
  | true =>
    have hinit : initName ∉ (ordered all).map (parameterName true) := by
      intro hmem
      obtain ⟨a, -, ha⟩ := List.mem_map.1 hmem
      exact parameterName_ne_initName a ha
    rw [if_pos rfl, ← List.concat_eq_append, List.nodup_concat]
    exact and_iff_right hinit

/-- **When the attributes of a class have parameters of different names**: their words are
different, and `init` does not give way to one of them. -/
structure Distinct (h : Hierarchy) (c : h.Id) : Prop where
  words : ∀ a ∈ h.attributes c, ∀ b ∈ h.attributes c, parameterWord a = parameterWord b → a = b
  given : h.takesElements c = true → ∀ a ∈ h.attributes c, ∀ b ∈ h.attributes c,
    parameterWord a = initName → parameterWord b ≠ initValueName

theorem distinct_iff {h : Hierarchy} (hv : h.Valid) {c : h.Id} : Distinct h c ↔
    ∀ a ∈ h.attributes c, ∀ b ∈ h.attributes c,
      parameterName (h.takesElements c) a = parameterName (h.takesElements c) b → a = b := by
  constructor
  · intro hd a ha b hb e
    rcases (parameterName_eq_iff hv ha hb).1 e with e | ⟨hn, ⟨ea, eb⟩ | ⟨ea, eb⟩⟩
    · exact hd.words a ha b hb e
    · exact absurd eb (hd.given hn a ha b hb ea)
    · exact absurd ea (hd.given hn b hb a ha eb)
  · intro hinj
    refine ⟨fun a ha b hb e => ?_, fun hn a ha b hb ea eb => ?_⟩
    · exact hinj a ha b hb ((parameterName_eq_iff hv ha hb).2 (.inl e))
    · have e := hinj a ha b hb ((parameterName_eq_iff hv ha hb).2 (.inr ⟨hn, .inl ⟨ea, eb⟩⟩))
      rw [e, eb] at ea
      exact absurd ea (by decide)

/-- **The parameters of a function have different names exactly if the attributes of the created
class do.** None of these is `init` if the function takes a configuration of that name. -/
theorem nodup_parameters_iff {m : Manifest} {h : Hierarchy} (hm : Hierarchy.build m = .ok h)
    {package : String} {i : h.Id} {shape : Shape} (hd : (derive h package i).result = .ok shape)
    {r : Relationship} (hr : r ∈ shape.relationships) {t : Target} (ht : t ∈ r.targets) :
    ∃ c, h.classRef c = t.host ∧
      (((childFunction shape.property r t).parameters.map Parameter.name).Nodup ↔ Distinct h c) ∧
      (t.nested.isSome = true → initName ∉ t.attributes.map AttributeShape.parameter) := by
  have hv := Hierarchy.valid_of_build hm
  obtain ⟨c, -, -, rfl⟩ := exists_class_of_target hd hr ht
  have hnd : (h.attributes c).Nodup := (Hierarchy.nodup_keys_inherited h _ _ c).of_map
  refine ⟨c, rfl, ?_, fun hn hmem => ?_⟩
  · rw [parameters_childFunction, nodup_names_iff hnd, distinct_iff hv]
  · rw [parameters_targetOf] at hmem
    obtain ⟨a, -, ha⟩ := List.mem_map.1 hmem
    cases hc : h.takesElements c with
    | false => simp [targetOf, hc] at hn
    | true =>
      rw [hc] at ha
      exact parameterName_ne_initName a ha

/-! ## 5. A form -/

/-- A required attribute with a text as its value. -/
def requiredText (setter : String) : Attribute := ⟨setter, "String", false, true, false⟩

/-- A form with a field, which takes a label and has the attributes `init` and `initValue`. -/
def form : Manifest := ⟨Settings.default, [
  { HostClass.plain "p" "Form" with
    element := some "form", children := [⟨"setField", "Field"⟩] },
  { HostClass.plain "p" "Field" with
    element := some "field", children := [⟨"setLabel", "Label"⟩],
    attributes := [requiredText "setInit", requiredText "setInitValue"] },
  { HostClass.plain "p" "Label" with element := some "label" }]⟩

/-- The hierarchy of these classes. -/
def formHierarchy : Hierarchy := .ofLineages form.classes [[0], [1], [2]]

/-- What the function for the field is written from. -/
def fieldTarget : Target := targetOf formHierarchy "d" "form" (1 : Fin 3)

/-- The slot of the field. -/
def fieldSlot : Relationship := ⟨"setField", "field", false, "p.Field", [fieldTarget]⟩

/-- The shape of the builder of the form. -/
def formShape : Shape := ⟨.topLevel "d" "FormSpec", ⟨"p", ["Form"]⟩, "form", [fieldSlot]⟩

theorem build_form : Hierarchy.build form = .ok formHierarchy :=
  Hierarchy.build_of_lineages (by decide) (by decide) (by decide) rfl

theorem derive_form : (derive formHierarchy "d" (0 : Fin 3)).result = .ok formShape := by
  decide +kernel

/-- `init` gives way to `initValue`, of which there is one already. -/
theorem names_in_form :
    Hierarchy.build form = .ok formHierarchy ∧
    (derive formHierarchy "d" (0 : Fin 3)).result = .ok formShape ∧
    fieldSlot ∈ formShape.relationships ∧ fieldTarget ∈ fieldSlot.targets ∧
    (childFunction formShape.property fieldSlot fieldTarget).parameters.map Parameter.name =
      ["initValue", "initValue", "init"] ∧
    ¬ ((childFunction formShape.property fieldSlot fieldTarget).parameters.map
      Parameter.name).Nodup := by
  have hnames : (childFunction formShape.property fieldSlot fieldTarget).parameters.map
      Parameter.name = ["initValue", "initValue", "init"] := by decide +kernel
  refine ⟨build_form, derive_form, List.mem_singleton_self _, List.mem_singleton_self _, hnames, ?_⟩
  rw [hnames]
  decide

theorem parameters_form :
    Hierarchy.build form = .ok formHierarchy ∧
    (derive formHierarchy "d" (0 : Fin 3)).result = .ok formShape ∧
    fieldSlot ∈ formShape.relationships ∧ fieldTarget ∈ fieldSlot.targets ∧
    ∃ c, formHierarchy.classRef c = fieldTarget.host ∧
      (((childFunction formShape.property fieldSlot fieldTarget).parameters.map
        Parameter.name).Nodup ↔ Distinct formHierarchy c) ∧
      (fieldTarget.nested.isSome = true →
        initName ∉ fieldTarget.attributes.map AttributeShape.parameter) := by
  have hr : fieldSlot ∈ formShape.relationships := List.mem_singleton_self _
  have ht : fieldTarget ∈ fieldSlot.targets := List.mem_singleton_self _
  exact ⟨build_form, derive_form, hr, ht, nodup_parameters_iff build_form derive_form hr ht⟩

end BuilderGen.Builder
