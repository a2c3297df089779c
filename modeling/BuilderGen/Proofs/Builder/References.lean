import BuilderGen.Builder.Assembly
import BuilderGen.Proofs.Builder.Defaults

/-!
# The classes that a generated file refers to

* `mem_refs_childFunction`: what the function for a target refers to;
* `mem_refs_file`: what the file of a builder refers to: the wrapped class, the classes that it
  creates with the types of their attributes, and the builders of these classes;
* `mem_refs_entryFile`: what the file of an entry function refers to.
-/

namespace BuilderGen.Builder

open BuilderGen.Data (Value)
open BuilderGen.Schema (Attribute)
open BuilderGen.Source (ClassRef Code Function Statement)
open BuilderGen.Types (ValueType)

/-! ## 1. Attributes -/

/-- A default refers to no other class than the type of its attribute. -/
theorem refs_ofSample? {type : ValueType} {v : Value} {d : DefaultValue}
    (hd : DefaultValue.ofSample? type v = some d) {c : ClassRef} (hc : c ∈ d.code.refs) :
    c = type.sourceClass := by
  cases d with
  | constant enumeration name =>
    obtain rfl := List.mem_singleton.1 hc
    cases type with
    | enumeration declared =>
      cases v with
      | text s =>
        rw [DefaultValue.ofSample?] at hd
        split at hd
        · rw [Option.some.injEq, DefaultValue.constant.injEq] at hd
          exact hd.1.symm
        · cases hd
      | _ => cases hd
    | primitive p =>
      rcases ofSample?_primitive hd with ⟨b, rfl⟩ | ⟨n, rfl⟩
      · cases (ofSample?_primitive_bool.1 hd).2
      · cases (ofSample?_primitive_int.1 hd).2
    | _ => cases v <;> cases hd
  | _ => cases hc

theorem refs_fallback (type : ValueType) : Code.refs (DefaultValue.fallback type).code = [] := by
  rw [DefaultValue.fallback]
  cases type.zero? <;> rfl

section

variable {h : Hierarchy} {i : h.Id} {package property : String}

theorem refs_default {b : Attribute} {c : ClassRef} (hc : c ∈ (defaultOf h i b).1.code.refs) :
    c = (valueTypeOf b).sourceClass := by
  rcases default_cases h i b with ⟨v, -, hd⟩ | hd
  · exact refs_ofSample? hd hc
  · rw [hd, refs_fallback] at hc
    cases hc

/-- A parameter of a target refers to its type and to nothing else. -/
theorem mem_refs_declaration {a : AttributeShape}
    (ha : a ∈ (targetOf h package property i).attributes) {c : ClassRef} :
    c ∈ a.declaration.refs ↔ c = a.type.sourceClass := by
  obtain ⟨b, -, hb⟩ := exists_attribute_of_mem ha
  have htype : a.type = valueTypeOf b := congrArg AttributeShape.type hb
  have hdefault : ∀ d, a.default = some d → d = (defaultOf h i b).1 := by
    intro d hd
    rw [hb, shapeAs] at hd
    simp only [Option.ite_none_left_eq_some, Option.some.injEq] at hd
    exact hd.2.symm
  have hmentioned : a.declaration.type.mentioned = a.type.sourceClass := rfl
  rw [Source.Parameter.refs, List.mem_cons, hmentioned]
  refine or_iff_left_of_imp fun hc => ?_
  cases hd : a.default with
  | none =>
    simp only [AttributeShape.declaration, hd] at hc
    cases hc
  | some d =>
    simp only [AttributeShape.declaration, hd] at hc
    rw [htype]
    rw [hdefault d hd] at hc
    exact refs_default hc

end

/-! ## 2. Functions -/

/-- The creation of an instance refers to its class. -/
theorem refs_creation (t : Target) : ((creation t).flatMap fun s => s.code.refs) = [t.host] := by
  rw [creation]
  split
  · rfl
  · have hsetters : ((t.attributes.map fun a : AttributeShape =>
        Statement.line [.text (a.setter ++ "(" ++ a.parameter ++ ")")]).flatMap fun s =>
          s.code.refs) = [] := by
      rw [List.flatMap_map]
      exact List.flatMap_eq_nil_iff.2 fun a _ => rfl
    rw [List.cons_append, List.flatMap_cons, List.flatMap_append, hsetters]
    rfl

/-- **The function for a target refers to the class that it creates**, to the builder of this class,
and to what its parameters refer to. -/
theorem mem_refs_childFunction {property : String} {r : Relationship} {t : Target} {c : ClassRef} :
    c ∈ (childFunction property r t).refs ↔
      c = t.host ∨ t.nested = some c ∨ ∃ a ∈ t.attributes, c ∈ a.declaration.refs := by
  have hbody : ((childFunction property r t).body.flatMap fun s => s.code.refs) =
      t.host :: t.nested.toList := by
    rw [childFunction, List.flatMap_append, List.flatMap_append, refs_creation]
    cases t.nested <;> rfl
  have hinit : ((t.nested.map initParameter).toList.flatMap Source.Parameter.refs) =
      t.nested.toList := by
    cases t.nested <;> rfl
  rw [Function.refs, hbody, childFunction, List.flatMap_append, List.flatMap_map, hinit]
  simp only [Option.map_none, Option.toList_none, List.append_nil, List.mem_append, List.mem_cons,
    List.mem_flatMap, Option.mem_toList]
  -- the builder is referred to twice, by its parameter and by its configuration
  constructor
  · rintro ((ha | hn) | hc | hn)
    · exact .inr (.inr ha)
    · exact .inr (.inl hn)
    · exact .inl hc
    · exact .inr (.inl hn)
  · rintro (hc | hn | ha)
    · exact .inr (.inl hc)
    · exact .inr (.inr hn)
    · exact .inl (.inl ha)

/-! ## 3. Files -/

/-- **The file of a builder refers to the wrapped class**, to the classes that it creates, to the
builders of these classes, and to the types of their attributes. -/
theorem mem_refs_file {h : Hierarchy} {package : String} {i : h.Id} {shape : Shape}
    (hd : (derive h package i).result = .ok shape) {c : ClassRef} :
    c ∈ (shape.file package).refs ↔ c = shape.host ∨
      ∃ r ∈ shape.relationships, ∃ t ∈ r.targets,
        c = t.host ∨ t.nested = some c ∨ ∃ a ∈ t.attributes, c = a.type.sourceClass := by
  have hrefs : (shape.file package).refs =
      shape.host :: shape.functions.flatMap Function.refs := by
    rw [Shape.file, Source.File.refs, List.flatMap_nil, List.append_nil, List.flatMap_singleton]
    rfl
  have htarget : ∀ r ∈ shape.relationships, ∀ t ∈ r.targets,
      (c ∈ (childFunction shape.property r t).refs ↔
        c = t.host ∨ t.nested = some c ∨ ∃ a ∈ t.attributes, c = a.type.sourceClass) := by
    intro r hr t ht
    obtain ⟨k, -, -, rfl⟩ := exists_class_of_target hd hr ht
    rw [mem_refs_childFunction]
    refine or_congr_right (or_congr_right (exists_congr fun a => and_congr_right fun ha => ?_))
    exact mem_refs_declaration ha
  rw [hrefs, List.mem_cons, Shape.functions, List.flatMap_assoc, List.mem_flatMap]
  refine or_congr_right (exists_congr fun r => and_congr_right fun hr => ?_)
  rw [List.flatMap_map, List.mem_flatMap]
  exact exists_congr fun t => and_congr_right fun ht => htarget r hr t ht

/-- The file of an entry function refers to the root and to its builder. -/
theorem mem_refs_entryFile {function package : String} {root builder c : ClassRef} :
    c ∈ (entryFile function root builder package).refs ↔ c = root ∨ c = builder := by
  have hrefs : (entryFile function root builder package).refs =
      [builder, root, root, builder] := rfl
  rw [hrefs]
  simp only [List.mem_cons, List.not_mem_nil, or_false]
  tauto

end BuilderGen.Builder
