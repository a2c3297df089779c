import BuilderGen.Proofs.Builder.Locals

/-!
# What a function attaches to

The last statement of a function attaches the new instance to the wrapped one, which it calls by the
property that holds it. A parameter of that name hides the property, and so would the variable of
the new instance. The variable is compared with the property; the parameters are not.

* `referent?`: what a name stands for at the end of a function;
* `Hides`: which words of the wrapped class are hidden by the parameters for another one;
* `instanceName_eq_property_iff`: when the variable hides the property;
* `attachment_refers_iff`: the last statement means the wrapped instance exactly if neither the
  parameters nor the variable hide it.
-/

namespace BuilderGen.Builder

open BuilderGen.Schema (HostClass Manifest Settings)
open BuilderGen.Source (Parameter Statement)

/-! ## 1. Names at the end of a function -/

/-- What a name stands for at the end of a function. -/
inductive Referent where
  /-- The variable that holds the new instance. -/
  | created
  | parameter
  /-- The property that holds the wrapped instance. -/
  | wrapped
deriving DecidableEq, Repr

/-- What a name stands for at the end of a function. The variable hides parameters, and both hide
the property of the builder. -/
def referent? (property : String) (r : Relationship) (t : Target) (name : String) :
    Option Referent :=
  if name = t.instanceName then some .created
  else if name ∈ (childFunction property r t).parameters.map Parameter.name then some .parameter
  else if name = property then some .wrapped
  else none

theorem referent?_property {property : String} {r : Relationship} {t : Target} :
    referent? property r t property = some .wrapped ↔
      property ∉ (childFunction property r t).parameters.map Parameter.name ∧
        t.instanceName ≠ property := by
  unfold referent?
  by_cases hlocal : property = t.instanceName
  · simp [hlocal]
  · rw [if_neg hlocal]
    by_cases hmem : property ∈ (childFunction property r t).parameters.map Parameter.name
    · rw [if_pos hmem]
      exact iff_of_false (by simp) fun h => h.1 hmem
    · rw [if_neg hmem, if_pos rfl]
      exact iff_of_true rfl ⟨hmem, Ne.symm hlocal⟩

/-- The last statement of a function starts with the name of the property. -/
theorem getLast?_body (property : String) (r : Relationship) (t : Target) :
    ∃ rest, (childFunction property r t).body.getLast? =
      some (.line [.text (property ++ "." ++ rest)]) := by
  have hlast : (childFunction property r t).body.getLast? = some (attachment property r t) := by
    rw [childFunction, List.getLast?_append, List.getLast?_singleton, Option.some_or]
  rw [hlast, attachment]
  cases r.repeatable with
  | false => exact ⟨r.accessor ++ " = " ++ t.instanceName, by simp [String.append_assoc]⟩
  | true => exact ⟨r.accessor ++ ".add(" ++ t.instanceName ++ ")", by simp [String.append_assoc]⟩

/-! ## 2. Hidden properties -/

/-- **When the parameters for a class hide the property of a word**: the word is `init` next to a
configuration of that name, or an attribute has the word, once `init` has given way. A word that
stands in backticks already is compared as it is written. -/
def Hides (h : Hierarchy) (c : h.Id) (word : String) : Prop :=
  h.takesElements c = true ∧ word = initName ∨
    ∃ a ∈ h.attributes c, word = giveWay (h.takesElements c) (parameterWord a) ∨
      word = parameterName (h.takesElements c) a

section

variable {h : Hierarchy} {package property word : String} {c : h.Id}

theorem escape_mem_parameters_iff (hv : h.Valid) {r : Relationship} :
    Name.escape word ∈
        (childFunction property r (targetOf h package property c)).parameters.map Parameter.name ↔
      Hides h c word := by
  have hinit : Name.escape word ∈ (if h.takesElements c then [initName] else []) ↔
      h.takesElements c = true ∧ word = initName := by
    cases h.takesElements c <;> simp [escape_eq_initName]
  have hattribute : Name.escape word ∈
        (ordered (h.attributes c)).map (parameterName (h.takesElements c)) ↔
      ∃ a ∈ h.attributes c, word = giveWay (h.takesElements c) (parameterWord a) ∨
        word = parameterName (h.takesElements c) a := by
    simp only [List.mem_map, (ordered_perm _).mem_iff]
    refine exists_congr fun a => and_congr_right fun ha => ?_
    have hbare := bare_giveWay (h.takesElements c) (bare_parameterWord hv ha)
    rw [eq_comm, parameterName, Name.escape_eq_escape_iff hbare]
  rw [parameters_childFunction, List.mem_append, hinit, hattribute, Hides]
  exact or_comm

/-- **The variable hides the property exactly if its plain name is taken and the other one is that
of the property.** -/
theorem instanceName_eq_property_iff {r : Relationship} :
    (targetOf h package (Name.escape word) c).instanceName = Name.escape word ↔
      plainLocal (h.classRef c) ∈
          scope (Name.escape word) r (targetOf h package (Name.escape word) c) ∧
        word = childLocal (h.classRef c) := by
  rw [instanceName_targetOf r]
  split
  · rename_i hplain
    rw [and_iff_right hplain, eq_comm, escape_eq_childLocal]
  · rename_i hplain
    refine iff_of_false (fun e => hplain ?_) fun hboth => hplain hboth.1
    rw [e, scope]
    exact List.mem_cons_self

end

/-- **The last statement of a function means the wrapped instance exactly if no parameter and not
the variable hide it**, where the property of the wrapped instance is hidden by a parameter exactly
if the created class has an attribute of its word or takes the word `init`. -/
theorem attachment_refers_iff {m : Manifest} {h : Hierarchy} (hm : Hierarchy.build m = .ok h)
    {package : String} {i : h.Id} {shape : Shape} (hd : (derive h package i).result = .ok shape)
    {r : Relationship} (hr : r ∈ shape.relationships) {t : Target} (ht : t ∈ r.targets) :
    ∃ c, h.classRef c = t.host ∧
      (∃ rest, (childFunction shape.property r t).body.getLast? =
        some (.line [.text (shape.property ++ "." ++ rest)])) ∧
      (shape.property ∈ (childFunction shape.property r t).parameters.map Parameter.name ↔
        Hides h c (Name.instanceName shape.host.simpleName)) ∧
      (referent? shape.property r t shape.property = some .wrapped ↔
        ¬ Hides h c (Name.instanceName shape.host.simpleName) ∧
        ¬ (plainLocal t.host ∈ scope shape.property r t ∧
          Name.instanceName shape.host.simpleName = childLocal t.host)) := by
  have hv := Hierarchy.valid_of_build hm
  obtain ⟨c, -, -, rfl⟩ := exists_class_of_target hd hr ht
  have hproperty : shape.property = Name.escape (Name.instanceName shape.host.simpleName) := by
    obtain ⟨-, hhost, hproperty⟩ := head_of_derive hd
    rw [hproperty, hhost, propertyOf]
  have hhost : (targetOf h package shape.property c).host = h.classRef c := by
    simp only [targetOf]
  have hparameters : shape.property ∈ (childFunction shape.property r
      (targetOf h package shape.property c)).parameters.map Parameter.name ↔
        Hides h c (Name.instanceName shape.host.simpleName) := by
    rw [hproperty]
    exact escape_mem_parameters_iff hv
  have hvariable : (targetOf h package shape.property c).instanceName = shape.property ↔
      plainLocal (h.classRef c) ∈
          scope shape.property r (targetOf h package shape.property c) ∧
        Name.instanceName shape.host.simpleName = childLocal (h.classRef c) := by
    rw [hproperty]
    exact instanceName_eq_property_iff
  refine ⟨c, hhost.symm, getLast?_body _ r _, hparameters, ?_⟩
  rw [referent?_property, hparameters, hhost, ne_eq, hvariable]

/-! ## 3. A room -/

/-- A room with a lamp, which has the attribute `room`. -/
def room : Manifest := ⟨Settings.default, [
  { HostClass.plain "p" "Room" with
    element := some "room", children := [⟨"setLamp", "Lamp"⟩] },
  { HostClass.plain "p" "Lamp" with
    element := some "lamp", attributes := [requiredText "setRoom"] }]⟩

/-- The hierarchy of these classes. -/
def roomHierarchy : Hierarchy := .ofLineages room.classes [[0], [1]]

/-- What the function for the lamp is written from. -/
def lampTarget : Target :=
  ⟨⟨"p", ["Lamp"]⟩, "lamp", "lamp", [⟨"setRoom", "room", .text, true, false, none⟩], none⟩

/-- The slot of the lamp. -/
def lampSlot : Relationship := ⟨"setLamp", "lamp", false, "p.Lamp", [lampTarget]⟩

/-- The shape of the builder of the room. -/
def roomShape : Shape := ⟨.topLevel "d" "RoomSpec", ⟨"p", ["Room"]⟩, "room", [lampSlot]⟩

theorem build_room : Hierarchy.build room = .ok roomHierarchy :=
  Hierarchy.build_of_lineages (by decide) (by decide) (by decide) rfl

theorem derive_room : (derive roomHierarchy "d" (0 : Fin 2)).result = .ok roomShape := by
  decide +kernel

/-- The function for the lamp attaches it to its own parameter. -/
theorem referent_in_room :
    Hierarchy.build room = .ok roomHierarchy ∧
    (derive roomHierarchy "d" (0 : Fin 2)).result = .ok roomShape ∧
    lampSlot ∈ roomShape.relationships ∧ lampTarget ∈ lampSlot.targets ∧
    (childFunction roomShape.property lampSlot lampTarget).parameters.map Parameter.name =
      ["room"] ∧
    (childFunction roomShape.property lampSlot lampTarget).body.getLast? =
      some (.line [.text "room.lamp = lamp"]) ∧
    referent? roomShape.property lampSlot lampTarget roomShape.property = some .parameter := by
  have hr : lampSlot ∈ roomShape.relationships := List.mem_singleton_self _
  have ht : lampTarget ∈ lampSlot.targets := List.mem_singleton_self _
  exact ⟨build_room, derive_room, hr, ht, by decide +kernel, by decide +kernel,
    by decide +kernel⟩

theorem attachment_room :
    Hierarchy.build room = .ok roomHierarchy ∧
    (derive roomHierarchy "d" (0 : Fin 2)).result = .ok roomShape ∧
    lampSlot ∈ roomShape.relationships ∧ lampTarget ∈ lampSlot.targets ∧
    ∃ c, roomHierarchy.classRef c = lampTarget.host ∧
      (∃ rest, (childFunction roomShape.property lampSlot lampTarget).body.getLast? =
        some (.line [.text (roomShape.property ++ "." ++ rest)])) ∧
      (roomShape.property ∈
          (childFunction roomShape.property lampSlot lampTarget).parameters.map Parameter.name ↔
        Hides roomHierarchy c (Name.instanceName roomShape.host.simpleName)) ∧
      (referent? roomShape.property lampSlot lampTarget roomShape.property = some .wrapped ↔
        ¬ Hides roomHierarchy c (Name.instanceName roomShape.host.simpleName) ∧
        ¬ (plainLocal lampTarget.host ∈ scope roomShape.property lampSlot lampTarget ∧
          Name.instanceName roomShape.host.simpleName = childLocal lampTarget.host)) := by
  have hr : lampSlot ∈ roomShape.relationships := List.mem_singleton_self _
  have ht : lampTarget ∈ lampSlot.targets := List.mem_singleton_self _
  exact ⟨build_room, derive_room, hr, ht, attachment_refers_iff build_room derive_room hr ht⟩

end BuilderGen.Builder
