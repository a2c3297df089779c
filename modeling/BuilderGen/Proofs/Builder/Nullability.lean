import BuilderGen.Proofs.Builder.Defaults
import BuilderGen.Proofs.Source.Printed

/-!
# Null in parameters

Whether a parameter admits null is settled behind its default: a required parameter and one of a
primitive type never do, a text does if null is its default, and everything else does.

* `ofSample?_eq_null`, `fallback_eq_null`, `default_eq_null_iff`: when the default is null;
* `code_default_eq_null`: no other default is written like null;
* `NullSafe`, `nullSafe_of_derive`: what follows for the parameters of a target, their declared types
  and how these are written.
-/

namespace BuilderGen.Builder

open BuilderGen.Data (Value)
open BuilderGen.Schema (Attribute HostClass Manifest Settings)
open BuilderGen.Source (Code NameTable TypeUse)
open BuilderGen.Types (ValueType)

/-! ## 1. Null as a default -/

/-- **Null stands for a sampled null alone**, and not for one of a primitive type. -/
theorem ofSample?_eq_null {type : ValueType} {v : Value} :
    DefaultValue.ofSample? type v = some .null ↔ (∀ p, type ≠ .primitive p) ∧ v = .null := by
  cases type with
  | primitive p =>
    refine iff_of_false (fun hd => ?_) fun hnull => hnull.1 p rfl
    rcases ofSample?_primitive hd with ⟨b, rfl⟩ | ⟨n, rfl⟩
    · exact nomatch (ofSample?_primitive_bool.1 hd).2
    · exact nomatch (ofSample?_primitive_int.1 hd).2
  | _ => cases v <;> simp [DefaultValue.ofSample?]

theorem fallback_eq_null {type : ValueType} :
    DefaultValue.fallback type = .null ↔ ∀ p, type ≠ .primitive p := by
  cases type <;> simp [DefaultValue.fallback, ValueType.zero?]

/-- Whether nothing but null can stand for what was sampled: null was, or a value that gives way, or
nothing at all. -/
def NothingSampled (h : Hierarchy) (c : h.Id) (b : Attribute) : Prop :=
  ∀ v, sampleOf h c b = some v →
    v = .null ∨ ¬ Fits (valueTypeOf b) v ∧ ¬ Unchecked (valueTypeOf b) v

section

variable {h : Hierarchy} {c : h.Id} {b : Attribute}

/-- **The default is null exactly if nothing was sampled and the type is not primitive.** -/
theorem default_eq_null_iff : (defaultOf h c b).1 = .null ↔
    (∀ p, valueTypeOf b ≠ .primitive p) ∧ NothingSampled h c b := by
  unfold NothingSampled
  rw [default_eq]
  cases sampleOf h c b with
  | none =>
    show DefaultValue.fallback (valueTypeOf b) = .null ↔ _
    rw [fallback_eq_null]
    exact (and_iff_left nofun).symm
  | some v =>
    have hnull : DefaultValue.ofSample? (valueTypeOf b) v = some .null ↔ _ := ofSample?_eq_null
    have hsome : (DefaultValue.ofSample? (valueTypeOf b) v).isSome = true ↔ _ := isSome_ofSample?
    simp only [Option.bind_some, Option.some.injEq, forall_eq', ← not_or]
    cases hd : DefaultValue.ofSample? (valueTypeOf b) v with
    | none =>
      rw [hd] at hsome
      have hgives : ¬ (Fits (valueTypeOf b) v ∨ Unchecked (valueTypeOf b) v) :=
        fun hv => nomatch hsome.2 hv
      show DefaultValue.fallback (valueTypeOf b) = .null ↔ _
      rw [fallback_eq_null]
      exact (and_iff_left (.inr hgives)).symm
    | some d =>
      rw [hd] at hnull hsome
      rw [Option.some.injEq] at hnull
      show d = .null ↔ _
      rw [hnull, or_iff_left (not_not.2 (hsome.1 rfl))]

end

/-! ## 2. Null as it is written -/

/-- A text that is written for a truth value or a whole number. -/
inductive Scalar : String → Prop where
  | bool (b : Bool) : Scalar (toString b)
  | int (n : Int) : Scalar (toString n)

theorem Scalar.ne_null {s : String} (hs : Scalar s) : s ≠ "null" := by
  cases hs with
  | bool b => cases b <;> decide
  | int n =>
    have hnull : "null".toInt? = none := by cbv
    exact toString_int_ne hnull n

theorem scalar_of_ofSample? {type : ValueType} {v : Value} {s : String}
    (hd : DefaultValue.ofSample? type v = some (.literal s)) : Scalar s := by
  cases type with
  | primitive p =>
    rcases ofSample?_primitive hd with ⟨b, rfl⟩ | ⟨n, rfl⟩
    · obtain rfl : s = toString b := DefaultValue.literal.inj (ofSample?_primitive_bool.1 hd).2
      exact .bool b
    · obtain rfl : s = toString n := DefaultValue.literal.inj (ofSample?_primitive_int.1 hd).2
      exact .int n
  | boxed p declared =>
    cases v with
    | bool b =>
      cases hd
      exact .bool b
    | int n =>
      cases hd
      exact .int n
    | _ => cases hd
  | enumeration declared => cases v <;> simp [DefaultValue.ofSample?] at hd
  | text => cases v <;> cases hd
  | object declared => cases v <;> cases hd

theorem scalar_of_fallback {type : ValueType} {s : String}
    (hd : DefaultValue.fallback type = .literal s) : Scalar s := by
  cases type with
  | primitive p =>
    cases hd
    cases p with
    | boolean => exact .bool false
    | _ => exact .int 0
  | _ => cases hd

section

variable {h : Hierarchy} {c : h.Id} {b : Attribute}

theorem scalar_of_default {s : String} (hd : (defaultOf h c b).1 = .literal s) : Scalar s := by
  rcases default_cases h c b with ⟨v, -, hv⟩ | hv
  · exact scalar_of_ofSample? (hv.trans (congrArg some hd))
  · exact scalar_of_fallback (hv.symm.trans hd)

/-- **A default is written like null only if it is null.** -/
theorem code_default_eq_null (hcode : (defaultOf h c b).1.code = [.text "null"]) :
    (defaultOf h c b).1 = .null := by
  cases hd : (defaultOf h c b).1 with
  | null => rfl
  | literal s =>
    rw [hd] at hcode
    have hs : s = "null" := by simpa [DefaultValue.code] using hcode
    exact absurd hs (scalar_of_default hd).ne_null
  | text s =>
    rw [hd] at hcode
    have hs : Source.Literal.encodeChars s.toList = "null".toList := by
      simpa [DefaultValue.code, Source.Literal.encode, ← String.toList_inj] using hcode
    exact absurd (List.cons.inj hs).1 (by decide)
  | constant e name =>
    rw [hd] at hcode
    cases hcode

/-! ## 3. Parameters that admit null -/

/-- **What the type and the default of a parameter say of null.** -/
structure NullSafe (a : AttributeShape) : Prop where
  /-- The declared type is the class of the parameter, and admits null exactly if the parameter does, -/
  declared : a.declaration.type = .plain a.type.sourceClass a.nullable
  /-- also as it is written. -/
  typeText : ∀ names : NameTable, Code.write names a.declaration.type.layout =
    Code.write names [.ref a.type.sourceClass] ++ if a.nullable then "?" else ""
  /-- Null is a default only where the type admits it, -/
  null : a.default = some .null → a.nullable = true
  /-- also as both are written. -/
  written : a.declaration.default = some [.text "null"] →
    a.declaration.type = .plain a.type.sourceClass true
  required : a.required = true → a.nullable = false ∧ a.default = none
  optional : a.required = false → ∃ d, a.default = some d
  primitive : ∀ p, a.type = .primitive p → a.nullable = false
  text : a.required = false → a.type = .text → (a.nullable = true ↔ a.default = some .null)
  other : a.required = false → a.type ≠ .text → (∀ p, a.type ≠ .primitive p) → a.nullable = true

theorem admitsNull_iff {type : ValueType} {d : DefaultValue} :
    admitsNull type d = true ↔ (∀ p, type ≠ .primitive p) ∧ (type = .text → d = .null) := by
  cases type <;> simp [admitsNull, ValueType.isPrimitive]

theorem nullSafe_shapeAs (name : String) : NullSafe (shapeAs h c b name) := by
  have hadmits : (defaultOf h c b).1 = .null →
      admitsNull (valueTypeOf b) (defaultOf h c b).1 = true :=
    fun hd => admitsNull_iff.2 ⟨(default_eq_null_iff.1 hd).1, fun _ => hd⟩
  unfold shapeAs
  cases isMandatory b with
  | true =>
    exact
      { declared := rfl
        typeText := fun names => TypeUse.write_plain names _ _
        null := nofun
        written := nofun
        required := fun _ => ⟨rfl, rfl⟩
        optional := nofun
        primitive := fun _ _ => rfl
        text := nofun
        other := nofun }
  | false =>
    exact
      { declared := rfl
        typeText := fun names => TypeUse.write_plain names _ _
        null := fun hd => hadmits (Option.some.inj hd)
        written := fun hcode => by
          have hd := hadmits (code_default_eq_null (Option.some.inj hcode))
          rw [AttributeShape.declaration, AttributeShape.typeUse, Bool.not_false, Bool.true_and, hd]
        required := nofun
        optional := fun _ => ⟨_, rfl⟩
        primitive := fun p hp => by
          have hnever : ¬ admitsNull (valueTypeOf b) (defaultOf h c b).1 = true :=
            fun hd => (admitsNull_iff.1 hd).1 p hp
          exact Bool.eq_false_iff.2 hnever
        text := fun _ htext => by
          refine ⟨fun hd => congrArg some ((admitsNull_iff.1 hd).2 htext), fun hd => ?_⟩
          exact hadmits (Option.some.inj hd)
        other := fun _ htext hprimitive =>
          admitsNull_iff.2 ⟨hprimitive, fun e => absurd e htext⟩ }

end

/-- **Each parameter of a target is safe for null**, as it is declared: a required one has no default
and no type that admits null, and an optional one has a default that its type admits. Null is the
default exactly if nothing was sampled for a type that is not primitive. -/
theorem nullSafe_of_derive {h : Hierarchy} {package : String} {i : h.Id} {shape : Shape}
    (hd : (derive h package i).result = .ok shape) {r : Relationship}
    (hr : r ∈ shape.relationships) {t : Target} (ht : t ∈ r.targets) {a : AttributeShape}
    (ha : a ∈ t.attributes) :
    NullSafe a ∧ ∃ c b, h.classRef c = t.host ∧ b ∈ h.attributes c ∧ a.setter = b.setter ∧
      a.type = valueTypeOf b ∧ (a.required = true ↔ b.required = true ∨ b.textContent = true) ∧
      (a.default = some .null ↔
        a.required = false ∧ (∀ p, a.type ≠ .primitive p) ∧ NothingSampled h c b) := by
  obtain ⟨c, -, -, rfl⟩ := exists_class_of_target hd hr ht
  obtain ⟨b, hb, rfl⟩ := exists_attribute_of_mem ha
  have hmandatory : isMandatory b = true ↔ b.required = true ∨ b.textContent = true :=
    Bool.or_eq_true_iff
  refine ⟨nullSafe_shapeAs _, c, b, by simp only [targetOf], hb, rfl, rfl, hmandatory, ?_⟩
  show (if isMandatory b then none else some (defaultOf h c b).1) = some .null ↔
    isMandatory b = false ∧ (∀ p, valueTypeOf b ≠ .primitive p) ∧ NothingSampled h c b
  rw [← default_eq_null_iff]
  cases isMandatory b <;> simp

/-! ## 4. A shelf -/

/-- A tin with one attribute of each sort. Null was sampled for the label and for the size. -/
def tin : HostClass := { HostClass.plain "p" "Tin" with
  element := some "tin"
  attributes := [
    ⟨"setBrand", "String", false, true, false⟩, ⟨"setLabel", "String", false, false, false⟩,
    ⟨"setColor", "String", false, false, false⟩, ⟨"setSize", "int", false, false, false⟩,
    ⟨"setAmount", "Integer", false, false, false⟩]
  sample := ⟨[("getLabel", .null), ("getColor", .text "red"), ("getSize", .null)], []⟩ }

/-- A shelf of tins. -/
def shelf : Manifest := ⟨Settings.default, [
  { HostClass.plain "p" "Shelf" with element := some "shelf", children := [⟨"setTin", "Tin"⟩] },
  tin]⟩

/-- The hierarchy of these classes. -/
def shelfHierarchy : Hierarchy := .ofLineages shelf.classes [[0], [1]]

/-- The label of the tin. -/
def labelShape : AttributeShape := ⟨"setLabel", "label", .text, false, true, some .null⟩

/-- What the function for the tin is written from. -/
def tinTarget : Target := ⟨⟨"p", ["Tin"]⟩, "tin", "tin", [
  ⟨"setBrand", "brand", .text, true, false, none⟩, labelShape,
  ⟨"setColor", "color", .text, false, false, some (.text "red")⟩,
  ⟨"setSize", "size", .primitive .int, false, false, some (.literal "0")⟩,
  ⟨"setAmount", "amount", .boxed .int "Integer", false, true, some .null⟩], none⟩

/-- The slot of the tin. -/
def tinSlot : Relationship := ⟨"setTin", "tin", false, "p.Tin", [tinTarget]⟩

/-- The shape of the builder of the shelf. -/
def shelfShape : Shape := ⟨.topLevel "d" "ShelfSpec", ⟨"p", ["Shelf"]⟩, "shelf", [tinSlot]⟩

theorem build_shelf : Hierarchy.build shelf = .ok shelfHierarchy :=
  Hierarchy.build_of_lineages (by decide) (by decide) (by decide) rfl

theorem derive_shelf : (derive shelfHierarchy "d" (0 : Fin 2)).result = .ok shelfShape := by
  decide +kernel

/-- The label admits null, and null is its default. -/
theorem nullSafe_in_shelf :
    Hierarchy.build shelf = .ok shelfHierarchy ∧
    (derive shelfHierarchy "d" (0 : Fin 2)).result = .ok shelfShape ∧
    tinSlot ∈ shelfShape.relationships ∧ tinTarget ∈ tinSlot.targets ∧
    labelShape ∈ tinTarget.attributes ∧ NullSafe labelShape ∧
    ∃ c b, shelfHierarchy.classRef c = tinTarget.host ∧ b ∈ shelfHierarchy.attributes c ∧
      labelShape.setter = b.setter ∧ labelShape.type = valueTypeOf b ∧
      (labelShape.required = true ↔ b.required = true ∨ b.textContent = true) ∧
      (labelShape.default = some .null ↔ labelShape.required = false ∧
        (∀ p, labelShape.type ≠ .primitive p) ∧ NothingSampled shelfHierarchy c b) := by
  have hr : tinSlot ∈ shelfShape.relationships := List.mem_singleton_self _
  have ht : tinTarget ∈ tinSlot.targets := List.mem_singleton_self _
  have ha : labelShape ∈ tinTarget.attributes := by decide
  exact ⟨build_shelf, derive_shelf, hr, ht, ha, nullSafe_of_derive derive_shelf hr ht ha⟩

end BuilderGen.Builder
