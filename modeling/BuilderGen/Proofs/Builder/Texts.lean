import BuilderGen.Proofs.Builder.Samples
import BuilderGen.Proofs.Hierarchy.Names
import BuilderGen.Proofs.Source.Literal
import BuilderGen.Source.Printer

/-!
# Texts as defaults

A text that was sampled for an optional attribute of a text type becomes its default. The default is
written as a literal in the declaration of the parameter, and this literal evaluates to the text that
was sampled, whatever characters it has.

* `default_of_text`: the default for a sampled text;
* `DefaultEvaluates`, `defaultEvaluates_declaration`: what the written default of a parameter
  evaluates to;
* `texts_evaluate_of_derive`: literals evaluate to what they are written for, and the defaults of the
  parameters to what was sampled.
-/

namespace BuilderGen.Builder

open BuilderGen.Schema (Attribute HostClass Manifest Settings)
open BuilderGen.Source (Code NameTable Parameter)
open BuilderGen.Source.Literal (Evaluates encode evaluates_encode_iff)

/-! ## 1. Defaults that are texts -/

/-- A text that was sampled for a text type is the default. -/
theorem default_of_text {h : Hierarchy} {c : h.Id} {b : Attribute} {property : String}
    (hs : b.setter = "set" ++ property) (hp : Name.isIdentifier property = true)
    (htype : valueTypeOf b = .text) {s : String} (hsampled : Sampled h c b property (.text s)) :
    (defaultOf h c b).1 = .text s := by
  have hfits : DefaultValue.ofSample? (valueTypeOf b) (.text s) = some (.text s) := by
    rw [htype]
    rfl
  exact (mined_default hs hp).taken (.text s) hsampled (.text s) hfits

/-! ## 2. Written defaults -/

/-- **The default of a parameter evaluates to a text**: with whatever names its file writes for
classes, a literal for this text stands behind the name and the type of the parameter. -/
def DefaultEvaluates (p : Parameter) (text : String) : Prop :=
  ∃ literal, Evaluates literal text ∧ ∀ names : NameTable, Code.write names p.layout =
    p.name ++ ": " ++ Code.write names p.type.layout ++ " = " ++ literal

/-- A default that is a text is written as a literal for it. -/
theorem defaultEvaluates_declaration {a : AttributeShape} {s : String}
    (ha : a.default = some (.text s)) : DefaultEvaluates a.declaration s := by
  refine ⟨encode s, (evaluates_encode_iff s s).2 rfl, fun names => ?_⟩
  have hdefault : a.declaration.default = some [.text (encode s)] := by
    unfold AttributeShape.declaration
    rw [ha]
    rfl
  unfold Parameter.layout
  rw [hdefault]
  simp [Code.write, Source.Piece.write, String.append_assoc]

/-- **A literal evaluates to the text for which it is written, and to no other.** So the default of
each optional attribute of a text type evaluates to the text that was sampled for it, if one was. -/
theorem texts_evaluate_of_derive :
    (∀ s t, Evaluates (encode s) t ↔ t = s) ∧
    ∀ {m : Manifest} {h : Hierarchy}, Hierarchy.build m = .ok h →
      ∀ {package : String} {i : h.Id} {shape : Shape}, (derive h package i).result = .ok shape →
      ∀ r ∈ shape.relationships, ∀ t ∈ r.targets, ∃ c, h.classRef c = t.host ∧
        ∀ b ∈ h.attributes c, b.required = false → b.textContent = false → valueTypeOf b = .text →
          ∃ property, b.setter = "set" ++ property ∧
            (∃ a ∈ t.attributes, a.setter = b.setter) ∧
            ∀ a ∈ t.attributes, a.setter = b.setter →
              a.declaration ∈ (childFunction shape.property r t).parameters ∧
              ∀ s, Sampled h c b property (.text s) → DefaultEvaluates a.declaration s := by
  refine ⟨evaluates_encode_iff, ?_⟩
  intro m h hm package i shape hd r hr t ht
  have hv := Hierarchy.valid_of_build hm
  obtain ⟨c, -, -, rfl⟩ := exists_class_of_target hd hr ht
  refine ⟨c, rfl, fun b hb hrequired htext htype => ?_⟩
  obtain ⟨property, hs, hp⟩ := hv.property_of_attribute hb
  have hoptional : isMandatory b = false := by rw [isMandatory, hrequired, htext, Bool.or_false]
  obtain ⟨hexists, hshape⟩ := shape_of_setter hb
  refine ⟨property, hs, hexists, fun a ha hsetter => ⟨?_, fun s hsampled => ?_⟩⟩
  · exact List.mem_append_left _ (List.mem_map_of_mem ha)
  · have hdefault : a.default = some (defaultOf h c b).1 := by
      rw [hshape a ha hsetter, shapeAs, hoptional]
      rfl
    rw [default_of_text hs hp htype hsampled] at hdefault
    exact defaultEvaluates_declaration hdefault

/-! ## 3. A signboard -/

/-- A sign on a board, of which a fresh one says something with quotes, a dollar sign, a backslash
and a line end. -/
def signboard : Manifest := ⟨Settings.default, [
  { HostClass.plain "p" "Board" with
    element := some "board", children := [⟨"setSign", "Sign"⟩] },
  { HostClass.plain "p" "Sign" with
    element := some "sign", attributes := [⟨"setWords", "String", false, false, false⟩],
    sample := ⟨[("getWords", .text "\"$5\"\\n\n")], []⟩ }]⟩

/-- The hierarchy of these classes. -/
def signboardHierarchy : Hierarchy := .ofLineages signboard.classes [[0], [1]]

/-- What the function for the sign is written from. -/
def signTarget : Target := ⟨⟨"p", ["Sign"]⟩, "sign", "sign", [
  ⟨"setWords", "words", .text, false, false, some (.text "\"$5\"\\n\n")⟩], none⟩

/-- The slot of the sign. -/
def signSlot : Relationship := ⟨"setSign", "sign", false, "p.Sign", [signTarget]⟩

/-- The shape of the builder of the board. -/
def signboardShape : Shape :=
  ⟨.topLevel "d" "BoardSpec", ⟨"p", ["Board"]⟩, "board", [signSlot]⟩

theorem build_signboard : Hierarchy.build signboard = .ok signboardHierarchy :=
  Hierarchy.build_of_lineages (by decide) (by decide) (by decide) rfl

theorem derive_signboard :
    (derive signboardHierarchy "d" (0 : Fin 2)).result = .ok signboardShape := by
  decide +kernel

/-- The default of the words on the sign evaluates to what a fresh sign says. -/
theorem texts_evaluate_on_sign :
    Hierarchy.build signboard = .ok signboardHierarchy ∧
    (derive signboardHierarchy "d" (0 : Fin 2)).result = .ok signboardShape ∧
    signSlot ∈ signboardShape.relationships ∧ signTarget ∈ signSlot.targets ∧
    ∃ a ∈ signTarget.attributes, a.setter = "setWords" ∧
      DefaultEvaluates a.declaration "\"$5\"\\n\n" := by
  have hr : signSlot ∈ signboardShape.relationships := List.mem_singleton_self _
  have ht : signTarget ∈ signSlot.targets := List.mem_singleton_self _
  refine ⟨build_signboard, derive_signboard, hr, ht, ?_⟩
  obtain ⟨c, hc, hall⟩ :=
    texts_evaluate_of_derive.2 build_signboard derive_signboard signSlot hr signTarget ht
  have hsign : c = (1 : Fin 2) := by
    refine (Hierarchy.valid_of_build build_signboard).classRef_injective (hc.trans ?_)
    decide +kernel
  subst hsign
  obtain ⟨property, hs, ⟨a, ha, hsetter⟩, hdefault⟩ :=
    hall ⟨"setWords", "String", false, false, false⟩ (by decide +kernel) rfl rfl (by decide +kernel)
  have hproperty : "Words" = property := (String.append_right_inj "set").1 hs
  subst hproperty
  have hsampled : Sampled signboardHierarchy (1 : Fin 2)
      ⟨"setWords", "String", false, false, false⟩ "Words" (.text "\"$5\"\\n\n") :=
    .getter ⟨[], (1 : Fin 2), [], by decide +kernel, by decide +kernel, nofun⟩
  exact ⟨a, ha, hsetter, (hdefault a ha hsetter).2 _ hsampled⟩

end BuilderGen.Builder
