import BuilderGen.Proofs.Builder.Parameters
import Mathlib

/-!
# Legal defaults

The default of an optional attribute is what was sampled, if that fits the type, and otherwise the
zero of a primitive type or null. Sampled truth values and whole numbers are taken over for each
class that boxes a primitive type, also for one that boxes other values; everything else is checked.

* `Legal`: which defaults are values of a type;
* `Fits`, `Unchecked`: which sampled values are values of a type, and which are none but are taken
  over all the same;
* `isSome_ofSample?`, `legal_ofSample?`, `legal_fallback`: which defaults stand for sampled values,
  and when they are legal;
* `legal_default_iff`: the default of an optional attribute is legal unless it is taken over
  unchecked, and what does not fit gives way to the zero value or null.
-/

namespace BuilderGen.Builder

open BuilderGen.Data (Value)
open BuilderGen.Schema (Attribute HostClass Manifest Settings)
open BuilderGen.Source (ClassRef)
open BuilderGen.Types (Primitive ValueType)

/-! ## 1. Values of a type -/

/-- Whether a sampled value is a value of a primitive type: a truth value, or a whole number between
the least and the greatest value of the type. -/
def IsValue (p : Primitive) : Value → Prop
  | .bool _ => p.range? = none
  | .int n => ∃ low high, p.range? = some (low, high) ∧ low ≤ n ∧ n ≤ high
  | _ => False

example : Primitive.all.map Primitive.range? =
    [none, some (-128, 127), some (-32768, 32767), some (-2147483648, 2147483647),
      some (-9223372036854775808, 9223372036854775807)] := by decide

/-- **Whether a sampled value is a value of a type.** A text may be any value, as it is written. -/
def Fits : ValueType → Value → Prop
  | .primitive p, v => IsValue p v
  | .boxed p _, v => v = .null ∨ IsValue p v
  | .enumeration _, v => v = .null ∨ ∃ s, v = .text s ∧ Name.isIdentifier s = true
  | .text, _ | .object _, _ => True

/-- **Whether a sampled value is taken over for a class that boxes other values.** -/
def Unchecked : ValueType → Value → Prop
  | .boxed p _, .bool b => ¬ IsValue p (.bool b)
  | .boxed p _, .int n => ¬ IsValue p (.int n)
  | _, _ => False

/-! ## 2. Legal defaults -/

/-- Whether a text is the literal of a value of a primitive type. -/
def IsLiteral (p : Primitive) (s : String) : Prop :=
  (∃ b : Bool, IsValue p (.bool b) ∧ s = toString b) ∨ ∃ n : Int, IsValue p (.int n) ∧ s = toString n

/-- **Whether a default is a value of a type**, for all types that are no classes of their own. -/
inductive Legal : ValueType → DefaultValue → Prop where
  | primitive {p : Primitive} {s : String} : IsLiteral p s → Legal (.primitive p) (.literal s)
  | boxed {p : Primitive} {declared s : String} :
    IsLiteral p s → Legal (.boxed p declared) (.literal s)
  | text (s : String) : Legal .text (.text s)
  /-- A constant of exactly this enumeration, as it is written. -/
  | constant {declared s : String} : Name.isIdentifier s = true →
    Legal (.enumeration declared) (.constant (ClassRef.ofQualified declared) (Name.escape s))
  | boxedNull (p : Primitive) (declared : String) : Legal (.boxed p declared) .null
  | textNull : Legal .text .null
  | constantNull (declared : String) : Legal (.enumeration declared) .null

/-- No number is written like a text that cannot be read as one. -/
theorem toString_int_ne {s : String} (hs : s.toInt? = none) (n : Int) : toString n ≠ s := by
  intro e
  have hn : (toString n).toInt? = some n := Int.toInt?_repr n
  rw [e, hs] at hn
  cases hn

/-- No number is written like a truth value. -/
theorem toString_int_ne_bool (n : Int) (b : Bool) : toString n ≠ toString b := by
  have hb : (toString b).toInt? = none := by
    cases b <;> cbv
  exact toString_int_ne hb n

theorem isLiteral_bool {p : Primitive} {b : Bool} :
    IsLiteral p (toString b) ↔ IsValue p (.bool b) := by
  constructor
  · rintro (⟨_, hv, -⟩ | ⟨n, -, e⟩)
    · exact hv
    · exact absurd e.symm (toString_int_ne_bool n b)
  · exact fun hv => .inl ⟨b, hv, rfl⟩

theorem isLiteral_int {p : Primitive} {n : Int} :
    IsLiteral p (toString n) ↔ IsValue p (.int n) := by
  constructor
  · rintro (⟨b, -, e⟩ | ⟨k, hv, e⟩)
    · exact absurd e (toString_int_ne_bool n b)
    · obtain rfl : n = k := Int.repr_inj.1 e
      exact hv
  · exact fun hv => .inr ⟨n, hv, rfl⟩

theorem legal_boxed {p : Primitive} {declared s : String} :
    Legal (.boxed p declared) (.literal s) ↔ IsLiteral p s :=
  ⟨fun | .boxed hs => hs, .boxed⟩

/-! ## 3. Defaults for sampled values -/

theorem ofSample?_primitive_bool {p : Primitive} {b : Bool} {d : DefaultValue} :
    DefaultValue.ofSample? (.primitive p) (.bool b) = some d ↔
      IsValue p (.bool b) ∧ d = .literal (toString b) := by
  cases hr : p.range? with
  | none => simp [DefaultValue.ofSample?, IsValue, hr, eq_comm]
  | some bounds => simp [DefaultValue.ofSample?, IsValue, hr]

theorem ofSample?_primitive_int {p : Primitive} {n : Int} {d : DefaultValue} :
    DefaultValue.ofSample? (.primitive p) (.int n) = some d ↔
      IsValue p (.int n) ∧ d = .literal (toString n) := by
  cases hr : p.range? with
  | none => simp [DefaultValue.ofSample?, IsValue, hr]
  | some bounds =>
    simp [DefaultValue.ofSample?, IsValue, hr, Prod.ext_iff, eq_comm]

/-- Only truth values and whole numbers stand for a primitive value. -/
theorem ofSample?_primitive {p : Primitive} {v : Value} {d : DefaultValue}
    (hd : DefaultValue.ofSample? (.primitive p) v = some d) :
    (∃ b, v = .bool b) ∨ ∃ n, v = .int n := by
  cases v with
  | bool b => exact .inl ⟨b, rfl⟩
  | int n => exact .inr ⟨n, rfl⟩
  | _ => cases hr : p.range? <;> simp [DefaultValue.ofSample?, hr] at hd

/-- **A default stands for each sampled value that fits, and for those that are taken over
unchecked.** -/
theorem isSome_ofSample? {type : ValueType} {v : Value} :
    (DefaultValue.ofSample? type v).isSome = true ↔ Fits type v ∨ Unchecked type v := by
  cases type with
  | primitive p =>
    rw [Option.isSome_iff_exists]
    constructor
    · rintro ⟨d, hd⟩
      rcases ofSample?_primitive hd with ⟨b, rfl⟩ | ⟨n, rfl⟩
      · exact .inl (ofSample?_primitive_bool.1 hd).1
      · exact .inl (ofSample?_primitive_int.1 hd).1
    · rintro (hv | hv)
      · cases v with
        | bool b => exact ⟨_, ofSample?_primitive_bool.2 ⟨hv, rfl⟩⟩
        | int n => exact ⟨_, ofSample?_primitive_int.2 ⟨hv, rfl⟩⟩
        | _ => cases hv
      · cases hv
  | boxed p declared =>
    cases v with
    | null => exact iff_of_true rfl (.inl (.inl rfl))
    | bool b => exact iff_of_true rfl ((em (IsValue p (.bool b))).imp_left .inr)
    | int n => exact iff_of_true rfl ((em (IsValue p (.int n))).imp_left .inr)
    | _ => simp [DefaultValue.ofSample?, Fits, IsValue, Unchecked]
  | enumeration declared =>
    cases v <;> simp [DefaultValue.ofSample?, Fits, Unchecked]
  | text => cases v <;> exact iff_of_true rfl (.inl trivial)
  | object declared => cases v <;> exact iff_of_true rfl (.inl trivial)

/-- **The default for a sampled value is legal unless the value is taken over unchecked.** -/
theorem legal_ofSample? {type : ValueType} {v : Value} {d : DefaultValue}
    (hobject : ∀ declared, type ≠ .object declared)
    (hd : DefaultValue.ofSample? type v = some d) : Legal type d ↔ ¬ Unchecked type v := by
  cases type with
  | primitive p =>
    refine iff_of_true ?_ id
    rcases ofSample?_primitive hd with ⟨b, rfl⟩ | ⟨n, rfl⟩
    · obtain ⟨hv, rfl⟩ := ofSample?_primitive_bool.1 hd
      exact .primitive (isLiteral_bool.2 hv)
    · obtain ⟨hv, rfl⟩ := ofSample?_primitive_int.1 hd
      exact .primitive (isLiteral_int.2 hv)
  | boxed p declared =>
    cases v with
    | null =>
      cases hd
      exact iff_of_true (.boxedNull p declared) id
    | bool b =>
      cases hd
      exact (legal_boxed.trans isLiteral_bool).trans not_not.symm
    | int n =>
      cases hd
      exact (legal_boxed.trans isLiteral_int).trans not_not.symm
    | _ => cases hd
  | enumeration declared =>
    cases v with
    | null =>
      cases hd
      exact iff_of_true (.constantNull declared) id
    | text s =>
      by_cases hs : Name.isIdentifier s = true
      · rw [DefaultValue.ofSample?, if_pos hs] at hd
        cases hd
        exact iff_of_true (.constant hs) id
      · rw [DefaultValue.ofSample?, if_neg hs] at hd
        cases hd
    | _ => cases hd
  | text =>
    cases v with
    | null =>
      cases hd
      exact iff_of_true .textNull id
    | _ =>
      cases hd
      exact iff_of_true (.text _) id
  | object declared => exact absurd rfl (hobject declared)

/-- The default without a fitting value is legal. -/
theorem legal_fallback {type : ValueType} (hobject : ∀ declared, type ≠ .object declared) :
    Legal type (.fallback type) := by
  cases type with
  | primitive p =>
    have hzero : IsLiteral p p.zero := by
      cases p with
      | boolean => exact .inl ⟨false, rfl, rfl⟩
      | _ => exact .inr ⟨0, ⟨_, _, rfl, by decide, by decide⟩, rfl⟩
    exact .primitive hzero
  | text => exact .textNull
  | boxed p declared => exact .boxedNull p declared
  | enumeration declared => exact .constantNull declared
  | object declared => exact absurd rfl (hobject declared)

/-! ## 4. Optional attributes -/

section

variable {h : Hierarchy} {c : h.Id}

/-- The default is the one for what was sampled, or else the zero value or null. -/
theorem default_eq (h : Hierarchy) (c : h.Id) (b : Attribute) : (defaultOf h c b).1 =
    ((sampleOf h c b).bind (DefaultValue.ofSample? (valueTypeOf b))).getD
      (.fallback (valueTypeOf b)) := by
  rw [defaultOf]
  cases sampleOf h c b with
  | none => rfl
  | some v =>
    dsimp only [Option.bind_some]
    cases DefaultValue.ofSample? (valueTypeOf b) v <;> rfl

/-- The default is the one for a sampled value, or the one for lack of such a value. -/
theorem default_cases (h : Hierarchy) (c : h.Id) (b : Attribute) :
    (∃ v, sampleOf h c b = some v ∧
      DefaultValue.ofSample? (valueTypeOf b) v = some (defaultOf h c b).1) ∨
    (defaultOf h c b).1 = .fallback (valueTypeOf b) := by
  rw [default_eq]
  cases hd : (sampleOf h c b).bind (DefaultValue.ofSample? (valueTypeOf b)) with
  | none => exact .inr rfl
  | some d =>
    obtain ⟨v, hv, hd⟩ := Option.bind_eq_some_iff.1 hd
    exact .inl ⟨v, hv, hd⟩

theorem legal_default {b : Attribute} (hobject : ∀ declared, valueTypeOf b ≠ .object declared) :
    Legal (valueTypeOf b) (defaultOf h c b).1 ↔
      ∀ v, sampleOf h c b = some v → ¬ Unchecked (valueTypeOf b) v := by
  rw [default_eq]
  cases sampleOf h c b with
  | none => exact iff_of_true (legal_fallback hobject) (by simp)
  | some v =>
    simp only [Option.bind_some, Option.some.injEq, forall_eq']
    cases hd : DefaultValue.ofSample? (valueTypeOf b) v with
    | some d => exact legal_ofSample? hobject hd
    | none =>
      refine iff_of_true (legal_fallback hobject) fun hu => ?_
      have hsome := isSome_ofSample?.2 (.inr hu)
      rw [hd] at hsome
      cases hsome

/-- What does not fit and is not taken over unchecked gives way. -/
theorem default_of_not_fits {b : Attribute} (hv : ∀ v, sampleOf h c b = some v →
    ¬ Fits (valueTypeOf b) v ∧ ¬ Unchecked (valueTypeOf b) v) :
    (defaultOf h c b).1 = .fallback (valueTypeOf b) := by
  rw [default_eq]
  cases hs : sampleOf h c b with
  | none => rfl
  | some v =>
    rw [Option.bind_some]
    cases hd : DefaultValue.ofSample? (valueTypeOf b) v with
    | none => rfl
    | some d =>
      have hfits := isSome_ofSample?.1 (Option.isSome_iff_exists.2 ⟨d, hd⟩)
      exact absurd hfits (not_or.2 (hv v hs))

/-- The optional parameters of a target are those of the optional attributes, with their types and
defaults. -/
theorem exists_attribute_of_optional {package property : String} {a : AttributeShape}
    (ha : a ∈ (targetOf h package property c).attributes) (hopt : a.required = false) :
    ∃ b ∈ h.attributes c, isMandatory b = false ∧ a.setter = b.setter ∧ a.type = valueTypeOf b ∧
      a.default = some (defaultOf h c b).1 := by
  obtain ⟨b, hb, rfl⟩ := exists_attribute_of_mem ha
  have hoptional : isMandatory b = false := hopt
  refine ⟨b, hb, hoptional, rfl, rfl, ?_⟩
  rw [shapeAs, hoptional]
  rfl

end

/-- **The default of an optional attribute is a value of its type exactly if what was sampled is
checked**, for all types that are no classes of their own: it is not checked for a class that boxes
other truth values or numbers. What does not fit and is checked gives way to the zero value of a
primitive type, or to null. -/
theorem legal_default_iff {h : Hierarchy} {package : String} {i : h.Id} {shape : Shape}
    (hd : (derive h package i).result = .ok shape) {r : Relationship}
    (hr : r ∈ shape.relationships) {t : Target} (ht : t ∈ r.targets) {a : AttributeShape}
    (ha : a ∈ t.attributes) (hopt : a.required = false) :
    ∃ c b d, h.classRef c = t.host ∧ b ∈ h.attributes c ∧ a.setter = b.setter ∧
      a.type = valueTypeOf b ∧ a.default = some d ∧
      ((∀ declared, a.type ≠ .object declared) →
        (Legal a.type d ↔ ∀ v, sampleOf h c b = some v → ¬ Unchecked a.type v)) ∧
      ((∀ v, sampleOf h c b = some v → ¬ Fits a.type v ∧ ¬ Unchecked a.type v) →
        d = .fallback a.type) := by
  obtain ⟨c, -, -, rfl⟩ := exists_class_of_target hd hr ht
  obtain ⟨b, hb, -, hsetter, htype, hdefault⟩ := exists_attribute_of_optional ha hopt
  refine ⟨c, b, (defaultOf h c b).1, by simp only [targetOf], hb, hsetter, htype, hdefault, ?_, ?_⟩
  · rw [htype]
    exact legal_default
  · rw [htype]
    exact default_of_not_fits

/-! ## 5. A jar -/

/-- A lid whose size is a boxed byte, for which a number beyond a byte was sampled. -/
def lid : HostClass := { HostClass.plain "p" "Lid" with
  element := some "lid", attributes := [⟨"setSize", "Byte", false, false, false⟩],
  sample := ⟨[("getSize", .int 300)], []⟩ }

/-- A jar with a lid. -/
def jar : Manifest := ⟨Settings.default, [
  { HostClass.plain "p" "Jar" with element := some "jar", children := [⟨"setLid", "Lid"⟩] }, lid]⟩

/-- The hierarchy of these classes. -/
def jarHierarchy : Hierarchy := .ofLineages jar.classes [[0], [1]]

/-- The size of the lid. -/
def sizeShape : AttributeShape :=
  ⟨"setSize", "size", .boxed .byte "Byte", false, true, some (.literal "300")⟩

/-- What the function for the lid is written from. -/
def lidTarget : Target := ⟨⟨"p", ["Lid"]⟩, "lid", "lid", [sizeShape], none⟩

/-- The slot of the lid. -/
def lidSlot : Relationship := ⟨"setLid", "lid", false, "p.Lid", [lidTarget]⟩

/-- The shape of the builder of the jar. -/
def jarShape : Shape := ⟨.topLevel "d" "JarSpec", ⟨"p", ["Jar"]⟩, "jar", [lidSlot]⟩

theorem build_jar : Hierarchy.build jar = .ok jarHierarchy :=
  Hierarchy.build_of_lineages (by decide) (by decide) (by decide) rfl

theorem derive_jar : (derive jarHierarchy "d" (0 : Fin 2)).result = .ok jarShape := by
  decide +kernel

/-- The default of a boxed byte is 300. -/
theorem default_in_jar :
    Hierarchy.build jar = .ok jarHierarchy ∧
    (derive jarHierarchy "d" (0 : Fin 2)).result = .ok jarShape ∧
    lidSlot ∈ jarShape.relationships ∧ lidTarget ∈ lidSlot.targets ∧
    sizeShape ∈ lidTarget.attributes ∧ sizeShape.required = false ∧
    sizeShape.type = .boxed .byte "Byte" ∧ sizeShape.default = some (.literal "300") ∧
    ¬ Legal sizeShape.type (.literal "300") := by
  have hr : lidSlot ∈ jarShape.relationships := List.mem_singleton_self _
  have ht : lidTarget ∈ lidSlot.targets := List.mem_singleton_self _
  have ha : sizeShape ∈ lidTarget.attributes := List.mem_singleton_self _
  refine ⟨build_jar, derive_jar, hr, ht, ha, rfl, rfl, rfl, fun hl => ?_⟩
  have hliteral : IsLiteral .byte (toString (300 : Int)) := legal_boxed.1 hl
  obtain ⟨low, high, hrange, hvalue⟩ := isLiteral_int.1 hliteral
  cases hrange
  exact absurd hvalue (by decide)

theorem legal_in_jar :
    Hierarchy.build jar = .ok jarHierarchy ∧
    (derive jarHierarchy "d" (0 : Fin 2)).result = .ok jarShape ∧
    lidSlot ∈ jarShape.relationships ∧ lidTarget ∈ lidSlot.targets ∧
    sizeShape ∈ lidTarget.attributes ∧ sizeShape.required = false ∧
    ∃ c b d, jarHierarchy.classRef c = lidTarget.host ∧ b ∈ jarHierarchy.attributes c ∧
      sizeShape.setter = b.setter ∧ sizeShape.type = valueTypeOf b ∧ sizeShape.default = some d ∧
      ((∀ declared, sizeShape.type ≠ .object declared) →
        (Legal sizeShape.type d ↔
          ∀ v, sampleOf jarHierarchy c b = some v → ¬ Unchecked sizeShape.type v)) ∧
      ((∀ v, sampleOf jarHierarchy c b = some v →
        ¬ Fits sizeShape.type v ∧ ¬ Unchecked sizeShape.type v) →
          d = .fallback sizeShape.type) := by
  have hr : lidSlot ∈ jarShape.relationships := List.mem_singleton_self _
  have ht : lidTarget ∈ lidSlot.targets := List.mem_singleton_self _
  have ha : sizeShape ∈ lidTarget.attributes := List.mem_singleton_self _
  exact ⟨build_jar, derive_jar, hr, ht, ha, rfl, legal_default_iff derive_jar hr ht ha rfl⟩

end BuilderGen.Builder
