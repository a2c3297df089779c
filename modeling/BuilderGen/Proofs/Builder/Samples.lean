import BuilderGen.Proofs.Builder.Defaults

/-!
# From which sample a default comes

The default of an optional attribute comes from what its getter returned, or else from what its
field held. Each of the two is looked up along the lineage, and the class nearest to the created one
counts. What was found is the only candidate: if it does not fit the type, the default is the zero
of a primitive type, or null.

* `LastRecord`, `sampled_eq_some`, `sampled_eq_none`: what is recorded along a lineage;
* `Sampled`, `sampleOf_eq_some`: what was sampled for an attribute;
* `IsZero`, `isZero_fallback`: the default without a sample;
* `InRange`, `Denotes`: the numbers of a type, and those that a literal stands for;
* `Mined`, `mined_of_derive`: how the default of each optional attribute follows.
-/

namespace BuilderGen.Builder

open BuilderGen.Data (Value)
open BuilderGen.Schema (Attribute HostClass Manifest Sample Settings)
open BuilderGen.Types (Primitive ValueType)

/-! ## 1. Records of a lineage -/

/-- **A value is the last one that a lineage records under a name**: a class of the lineage records
it, and no class behind that one records anything under the name. -/
def LastRecord (h : Hierarchy) (table : Sample → List (String × Value)) (name : String) (c : h.Id)
    (v : Value) : Prop :=
  ∃ front a back, h.lineage c = front ++ a :: back ∧
    (table (h.get a).sample).lookup name = some v ∧
    ∀ b ∈ back, (table (h.get b).sample).lookup name = none

section

variable {h : Hierarchy} {table : Sample → List (String × Value)} {name : String} {c : h.Id}

theorem sampled_eq_some {v : Value} :
    h.sampled table name c = some v ↔ LastRecord h table name c v := by
  rw [Hierarchy.sampled, List.findSome?_eq_some_iff]
  constructor
  · intro hfound
    obtain ⟨back, a, front, e, ha, hback⟩ := hfound
    have hlineage : h.lineage c = front.reverse ++ a :: back.reverse := by
      have hreverse := congrArg List.reverse e
      simpa using hreverse
    exact ⟨front.reverse, a, back.reverse, hlineage, ha, fun b hb => hback b (List.mem_reverse.1 hb)⟩
  · intro hlast
    obtain ⟨front, a, back, e, ha, hback⟩ := hlast
    have hlineage : (h.lineage c).reverse = back.reverse ++ a :: front.reverse := by
      rw [e]
      simp
    exact ⟨back.reverse, a, front.reverse, hlineage, ha, fun b hb => hback b (List.mem_reverse.1 hb)⟩

theorem sampled_eq_none : h.sampled table name c = none ↔
    ∀ a ∈ h.lineage c, (table (h.get a).sample).lookup name = none := by
  rw [Hierarchy.sampled, List.findSome?_eq_none_iff]
  simp only [List.mem_reverse]

end

/-! ## 2. Samples of an attribute -/

/-- The getter of an attribute with the given property. -/
def getterOf (b : Attribute) (property : String) : String :=
  (if valueTypeOf b = .primitive .boolean then "is" else "get") ++ property

/-- **What was sampled for an attribute**: the last value that the lineage records for its getter. If
no class of the lineage records one, it is the last value for its field. -/
inductive Sampled (h : Hierarchy) (c : h.Id) (b : Attribute) (property : String) : Value → Prop where
  | getter {v : Value} :
    LastRecord h Sample.getters (getterOf b property) c v → Sampled h c b property v
  | field {v : Value} :
    (∀ a ∈ h.lineage c, (h.get a).sample.getters.lookup (getterOf b property) = none) →
    LastRecord h Sample.fields (Text.decapitalize property) c v → Sampled h c b property v

section

variable {h : Hierarchy} {c : h.Id} {b : Attribute} {property : String}

theorem getterName_eq (hs : b.setter = "set" ++ property) :
    Name.getterName b.setter (valueTypeOf b).isTruthValue = getterOf b property := by
  have htruth : (valueTypeOf b).isTruthValue = decide (valueTypeOf b = .primitive .boolean) := by
    cases valueTypeOf b with
    | primitive p => cases p <;> rfl
    | _ => rfl
  rw [hs, Name.getterName, Name.without_append, getterOf, htruth]
  simp only [decide_eq_true_eq]

/-- **What is taken for the default of an attribute is what was sampled for it.** -/
theorem sampleOf_eq_some (hs : b.setter = "set" ++ property)
    (hp : Name.isIdentifier property = true) {v : Value} :
    sampleOf h c b = some v ↔ Sampled h c b property v := by
  have hfield : Name.propertyOfSetter? b.setter = some (Text.decapitalize property) := by
    rw [Name.propertyOfSetter?, hs, Name.behind?_eq_some.2 rfl]
    dsimp only
    rw [if_pos hp]
  rw [sampleOf, getterName_eq hs, hfield, Option.bind_some, Option.or_eq_some_iff,
    Hierarchy.getterSample, Hierarchy.fieldSample, sampled_eq_some, sampled_eq_some,
    sampled_eq_none]
  constructor
  · intro hv
    rcases hv with hgetter | ⟨hnone, hfield⟩
    · exact .getter hgetter
    · exact .field hnone hfield
  · intro hv
    cases hv with
    | getter hgetter => exact .inl hgetter
    | field hnone hfield => exact .inr ⟨hnone, hfield⟩

end

/-! ## 3. Defaults -/

/-- **The default of an attribute without a fitting sample.** -/
inductive IsZero : ValueType → DefaultValue → Prop where
  | boolean : IsZero (.primitive .boolean) (.literal "false")
  | number {p : Primitive} : p ≠ .boolean → IsZero (.primitive p) (.literal "0")
  | other {type : ValueType} : (∀ p, type ≠ .primitive p) → IsZero type .null

theorem isZero_fallback (type : ValueType) : IsZero type (.fallback type) := by
  cases type with
  | primitive p =>
    cases p with
    | boolean => exact .boolean
    | _ => exact .number nofun
  | _ => exact .other nofun

/-- The numbers of a type that is no truth value. -/
def InRange : Primitive → Int → Prop
  | .boolean, _ => False
  | .byte, n => -2 ^ 7 ≤ n ∧ n < 2 ^ 7
  | .short, n => -2 ^ 15 ≤ n ∧ n < 2 ^ 15
  | .int, n => -2 ^ 31 ≤ n ∧ n < 2 ^ 31
  | .long, n => -2 ^ 63 ≤ n ∧ n < 2 ^ 63

theorem isValue_int_iff {p : Primitive} {n : Int} : IsValue p (.int n) ↔ InRange p n := by
  unfold IsValue
  cases p with
  | boolean => simp [Primitive.range?, Primitive.width?, InRange]
  | _ =>
    simp only [Primitive.range?, Primitive.width?, Option.map_some, Option.some.injEq,
      Prod.mk.injEq, InRange]
    constructor
    · intro ⟨low, high, ⟨hlow, hhigh⟩, hl, hh⟩
      subst hlow hhigh
      norm_num at hl hh ⊢
      omega
    · intro ⟨hl, hh⟩
      refine ⟨_, _, ⟨rfl, rfl⟩, ?_, ?_⟩
      · norm_num at hl ⊢
        omega
      · norm_num at hh ⊢
        omega

/-- A literal denotes a sampled number: this is a whole number, and the literal is read as it. -/
def Denotes (literal : String) (v : Value) : Prop := ∃ n, v = .int n ∧ literal.toInt? = some n

/-- **How the default of an optional attribute follows from the samples.** What was sampled is taken
if it fits. Otherwise, and if nothing was, the default is the zero of a primitive type, or null. A
default for a number is the sampled one exactly if this is a whole number of the type. -/
structure Mined (h : Hierarchy) (c : h.Id) (b : Attribute) (property : String) (d : DefaultValue) :
    Prop where
  taken : ∀ v, Sampled h c b property v → ∀ d', DefaultValue.ofSample? (valueTypeOf b) v = some d' →
    d = d'
  rejected : ∀ v, Sampled h c b property v → DefaultValue.ofSample? (valueTypeOf b) v = none →
    IsZero (valueTypeOf b) d
  missing : (∀ v, ¬ Sampled h c b property v) → IsZero (valueTypeOf b) d
  number : ∀ p, p ≠ .boolean → valueTypeOf b = .primitive p → ∃ s, d = .literal s ∧
    (∀ v, Sampled h c b property v → (Denotes s v ↔ ∃ n, v = .int n ∧ InRange p n)) ∧
    ((∀ n, Sampled h c b property (.int n) → ¬ InRange p n) → s = "0")

section

variable {h : Hierarchy} {c : h.Id} {b : Attribute} {property : String}

/-- Nothing but a whole number of the type stands for a number. -/
theorem ofSample?_number {p : Primitive} (hp : p ≠ .boolean) {v : Value} {d : DefaultValue}
    (hd : DefaultValue.ofSample? (.primitive p) v = some d) :
    ∃ n, v = .int n ∧ InRange p n ∧ d = .literal (toString n) := by
  rcases ofSample?_primitive hd with ⟨t, rfl⟩ | ⟨n, rfl⟩
  · obtain ⟨hv, -⟩ := ofSample?_primitive_bool.1 hd
    cases p with
    | boolean => exact absurd rfl hp
    | _ => cases hv
  · obtain ⟨hv, hd⟩ := ofSample?_primitive_int.1 hd
    exact ⟨n, rfl, isValue_int_iff.1 hv, hd⟩

/-- The default of a number: what was sampled if it is a whole number of the type, and else zero. -/
theorem number_default {p : Primitive} (hp : p ≠ .boolean) (htype : valueTypeOf b = .primitive p) :
    ∃ s, (defaultOf h c b).1 = .literal s ∧
      (∀ v, sampleOf h c b = some v → (Denotes s v ↔ ∃ n, v = .int n ∧ InRange p n)) ∧
      ((∀ n, sampleOf h c b = some (.int n) → ¬ InRange p n) → s = "0") := by
  have hzero : DefaultValue.fallback (.primitive p) = .literal "0" := by
    cases p with
    | boolean => exact absurd rfl hp
    | _ => rfl
  rw [default_eq, htype]
  cases hsample : sampleOf h c b with
  | none => exact ⟨"0", hzero, nofun, fun _ => rfl⟩
  | some v =>
    rw [Option.bind_some]
    cases hd : DefaultValue.ofSample? (.primitive p) v with
    | some d =>
      obtain ⟨n, rfl, hn, rfl⟩ := ofSample?_number hp hd
      refine ⟨toString n, rfl, fun v' hv' => ?_, fun hnone => absurd hn (hnone n rfl)⟩
      cases hv'
      exact iff_of_true ⟨n, rfl, Int.toInt?_repr n⟩ ⟨n, rfl, hn⟩
    | none =>
      have hnone : ∀ n, v = .int n → ¬ InRange p n := by
        intro n hv hn
        subst hv
        rw [ofSample?_primitive_int.2 ⟨isValue_int_iff.2 hn, rfl⟩] at hd
        cases hd
      refine ⟨"0", hzero, fun v' hv' => ?_, fun _ => rfl⟩
      cases hv'
      refine iff_of_false ?_ fun ⟨n, hv, hn⟩ => hnone n hv hn
      intro ⟨n, hv, hn⟩
      have hread : "0".toInt? = some 0 := Int.toInt?_repr 0
      rw [hread] at hn
      cases hn
      refine hnone 0 hv ?_
      cases p with
      | boolean => exact absurd rfl hp
      | _ => unfold InRange; decide

theorem mined_default (hs : b.setter = "set" ++ property)
    (hp : Name.isIdentifier property = true) : Mined h c b property (defaultOf h c b).1 where
  taken := by
    intro v hv d' hd
    rw [default_eq, (sampleOf_eq_some hs hp).2 hv, Option.bind_some, hd, Option.getD_some]
  rejected := by
    intro v hv hd
    rw [default_eq, (sampleOf_eq_some hs hp).2 hv, Option.bind_some, hd, Option.getD_none]
    exact isZero_fallback _
  missing := by
    intro hnone
    have hsample : sampleOf h c b = none := by
      rw [Option.eq_none_iff_forall_ne_some]
      exact fun v hv => hnone v ((sampleOf_eq_some hs hp).1 hv)
    rw [default_eq, hsample, Option.bind_none, Option.getD_none]
    exact isZero_fallback _
  number := by
    intro p hne htype
    simp only [← sampleOf_eq_some hs hp]
    exact number_default hne htype

end

/-- **The default of each optional attribute of a created class is mined from its lineage.** A value
of the getter counts in front of any value of the field, and one of a class in front of those of the
classes it extends. -/
theorem mined_of_derive {m : Manifest} {h : Hierarchy} (hm : Hierarchy.build m = .ok h)
    {package : String} {i : h.Id} {shape : Shape} (hd : (derive h package i).result = .ok shape)
    {r : Relationship} (hr : r ∈ shape.relationships) {t : Target} (ht : t ∈ r.targets) :
    ∃ c, h.classRef c = t.host ∧ ∀ b ∈ h.attributes c, b.required = false →
      b.textContent = false → ∃ property, b.setter = "set" ++ property ∧
        (∃ a ∈ t.attributes, a.setter = b.setter) ∧
        ∀ a ∈ t.attributes, a.setter = b.setter →
          ∃ d, a.default = some d ∧ Mined h c b property d := by
  have hv := Hierarchy.valid_of_build hm
  obtain ⟨c, -, -, rfl⟩ := exists_class_of_target hd hr ht
  refine ⟨c, rfl, fun b hb hrequired htext => ?_⟩
  obtain ⟨property, hs, hp⟩ := hv.property_of_attribute hb
  have hoptional : isMandatory b = false := by rw [isMandatory, hrequired, htext, Bool.or_false]
  refine ⟨property, hs, ?_, fun a ha e => ?_⟩
  · have hmem : b ∈ ordered (h.attributes c) := (ordered_perm _).mem_iff.2 hb
    rw [attributes_targetOf]
    exact ⟨_, List.mem_map_of_mem hmem, rfl⟩
  · obtain ⟨b', hb', rfl⟩ := exists_attribute_of_mem ha
    -- No other attribute of the class has the setter.
    obtain rfl : b' = b :=
      List.inj_on_of_nodup_map (Hierarchy.nodup_keys_inherited h _ _ c) hb' hb e
    refine ⟨(defaultOf h c b').1, ?_, mined_default hs hp⟩
    rw [shapeAs, hoptional]
    rfl

/-! ## 4. A kettle -/

/-- A kettle is a heater and a vessel. The getter of its power returned more than a byte, in a
heater, and the getter of its volume returned something in both. Of the kettle, fields of these names
were read. -/
def kitchen : Manifest := ⟨Settings.default, [
  { HostClass.plain "p" "Kitchen" with
    element := some "kitchen", children := [⟨"setKettle", "Kettle"⟩] },
  { HostClass.plain "p" "Heater" with
    attributes := [⟨"setPower", "byte", false, false, false⟩],
    sample := ⟨[("getPower", .int 300), ("getVolume", .int 1)], []⟩ },
  { HostClass.plain "p" "Vessel" with
    attributes := [⟨"setVolume", "int", false, false, false⟩],
    sample := ⟨[("getVolume", .int 2)], []⟩ },
  { HostClass.plain "p" "Kettle" with
    element := some "kettle", supertypes := ["Heater", "Vessel"],
    attributes := [⟨"setOn", "boolean", false, false, false⟩],
    sample := ⟨[("isOn", .bool true)], [("power", .int 7), ("volume", .int 3)]⟩ }]⟩

/-- The hierarchy of these classes. -/
def kitchenHierarchy : Hierarchy := .ofLineages kitchen.classes [[0], [1], [2], [1, 2, 3]]

/-- What the function for the kettle is written from. -/
def kettleTarget : Target := ⟨⟨"p", ["Kettle"]⟩, "kettle", "kettle", [
  ⟨"setPower", "power", .primitive .byte, false, false, some (.literal "0")⟩,
  ⟨"setVolume", "volume", .primitive .int, false, false, some (.literal "2")⟩,
  ⟨"setOn", "isOn", .primitive .boolean, false, false, some (.literal "true")⟩], none⟩

/-- The slot of the kettle. -/
def kettleSlot : Relationship := ⟨"setKettle", "kettle", false, "p.Kettle", [kettleTarget]⟩

/-- The shape of the builder of the kitchen. -/
def kitchenShape : Shape :=
  ⟨.topLevel "d" "KitchenSpec", ⟨"p", ["Kitchen"]⟩, "kitchen", [kettleSlot]⟩

theorem build_kitchen : Hierarchy.build kitchen = .ok kitchenHierarchy :=
  Hierarchy.build_of_lineages (by decide) (by decide) (by decide) rfl

theorem derive_kitchen :
    (derive kitchenHierarchy "d" (0 : Fin 4)).result = .ok kitchenShape := by
  decide +kernel

/-- The power is zero although the kettle has a field that fits, and the volume is the one of the
vessel. -/
theorem mined_in_kitchen :
    Hierarchy.build kitchen = .ok kitchenHierarchy ∧
    (derive kitchenHierarchy "d" (0 : Fin 4)).result = .ok kitchenShape ∧
    kettleSlot ∈ kitchenShape.relationships ∧ kettleTarget ∈ kettleSlot.targets ∧
    ∃ c, kitchenHierarchy.classRef c = kettleTarget.host ∧
      ∀ b ∈ kitchenHierarchy.attributes c, b.required = false →
        b.textContent = false → ∃ property, b.setter = "set" ++ property ∧
          (∃ a ∈ kettleTarget.attributes, a.setter = b.setter) ∧
          ∀ a ∈ kettleTarget.attributes, a.setter = b.setter →
            ∃ d, a.default = some d ∧ Mined kitchenHierarchy c b property d := by
  have hr : kettleSlot ∈ kitchenShape.relationships := List.mem_singleton_self _
  have ht : kettleTarget ∈ kettleSlot.targets := List.mem_singleton_self _
  exact ⟨build_kitchen, derive_kitchen, hr, ht, mined_of_derive build_kitchen derive_kitchen hr ht⟩

end BuilderGen.Builder
