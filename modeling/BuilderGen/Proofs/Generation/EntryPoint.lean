import BuilderGen.Proofs.Builder.Derivation
import BuilderGen.Proofs.Generation.Report
import BuilderGen.Proofs.Hierarchy.EntryPoint
import BuilderGen.Proofs.Hierarchy.Names

/-!
# The builder that an entry file applies

The function of an entry file creates the root and has it configured by the builder of the nearest
element. Every instance of the root is one of the class that this builder wraps.

* `Applies`, `applies_entrySource`: what it means that a file applies the builder of an element;
* `entryPoint_of_build`: when an entry point has a root and an element, what the two are to each
  other, and which builder is applied.
-/

namespace BuilderGen.Generation

open Relation
open BuilderGen.Builder (builderClass configuration derive entryFunction initName)
open BuilderGen.Hierarchy (Configures Extends)
open BuilderGen.Schema
open BuilderGen.Source (File)

/-- **A file applies the builder of an element to a new root.** Its one function takes a lambda `init`
on this builder, puts the root into a variable, calls `init` on the builder of the variable, and
returns the variable. The builder is that of no other element, and where it is derived, it wraps
instances of the element. -/
structure Applies (h : Hierarchy) (package : String) (f : File) (root element : h.Id) : Prop where
  configures : ∃ g name, f.functions = [g] ∧
    (g.parameters.map fun p => (p.name, p.type)) =
      [("init", .receiverLambda (builderClass h package element))] ∧
    g.body = [
      .line [.text ("val " ++ name ++ " = "), .ref (h.classRef root), .text "()"],
      .line [.ref (builderClass h package element), .text ("(" ++ name ++ ").init()")],
      .line [.text ("return " ++ name)]]
  own : ∀ i ∈ h.elements, builderClass h package i = builderClass h package element → i = element
  wraps : ∀ shape, (derive h package element).result = .ok shape →
    shape.builder = builderClass h package element ∧
      shape.wrapped.type = .plain (h.classRef element) false

theorem applies_entrySource {h : Hierarchy} (hv : h.Valid) (s : Settings) (e : EntryPoint)
    {root element : h.Id} (helement : (h.get element).isElement = true) :
    Applies h s.package (entrySource h s e root element) root element where
  configures := by
    refine ⟨_, Builder.rootName (h.classRef root), rfl, rfl, ?_⟩
    have hcall : ")." ++ initName ++ "()" = ").init()" := rfl
    rw [← hcall]
    simp only [entryFunction, configuration, String.append_assoc]
  own := by
    intro i hi hbuilder
    have hname : h.builderName i = h.builderName element :=
      List.singleton_inj.1 (congrArg Source.ClassRef.names hbuilder)
    have hmem : element ∈ h.elements := Hierarchy.mem_elements.2 helement
    exact List.inj_on_of_nodup_map hv.nodup_builderName hi hmem hname
  wraps := by
    intro shape hd
    obtain ⟨hbuilder, hhost, -⟩ := Builder.head_of_derive hd
    refine ⟨hbuilder, ?_⟩
    rw [Builder.Shape.wrapped, hhost]

/-- **An entry point has a root exactly if its reference means a class that can be created and has an
element in its lineage.** The element that comes with the root is the root itself or the nearest
ancestor that is one, and the entry file applies its builder. -/
theorem entryPoint_of_build {m : Manifest} {h : Hierarchy} (hb : Hierarchy.build m = .ok h)
    (e : EntryPoint) :
    (∀ root, (∃ element, h.entryPoint e = .ok (root, element)) ↔
      h.resolve? e.root = .ok root ∧ (∃ a ∈ h.lineage root, (h.get a).isElement = true) ∧
        (h.get root).isAbstract = false ∧ (h.get root).defaultConstructible = true) ∧
    ∀ root element, h.entryPoint e = .ok (root, element) → Configures h root element ∧
      ∀ s : Settings, s.entry = some e → ∃ f, entrySources h s = .ok [f] ∧
        Applies h s.package f root element := by
  have hv := Hierarchy.valid_of_build hb
  refine ⟨fun root => Hierarchy.exists_entryPoint_iff, fun root element hp => ?_⟩
  obtain ⟨-, hn, -⟩ := Hierarchy.entryPoint_eq_ok.1 hp
  have hc := Hierarchy.configures_of_nearestElement hv hn
  refine ⟨hc, fun s hs => ⟨entrySource h s e root element, ?_, ?_⟩⟩
  · exact entrySources_ok.2 (.inr ⟨e, root, element, hs, hp, rfl⟩)
  · exact applies_entrySource hv s e hc.isElement

/-- A canoe is a boat and, once more, a craft. Both of these are elements, and the canoe is none. -/
def harbour : Manifest := ⟨{ Settings.default with entry := some ⟨"canoe", "Canoe"⟩ }, [
  { HostClass.plain "p" "Canoe" with supertypes := ["Boat", "Craft"] },
  { HostClass.plain "p" "Boat" with element := some "boat", supertypes := ["Craft"] },
  { HostClass.plain "p" "Craft" with element := some "craft" }]⟩

/-- The hierarchy of these classes. -/
def harbourHierarchy : Hierarchy := .ofLineages harbour.classes [[2, 1, 0], [2, 1], [2]]

theorem build_harbour : Hierarchy.build harbour = .ok harbourHierarchy :=
  Hierarchy.build_of_lineages (by decide) (by decide) (by decide) rfl

/-- The canoe is configured as a boat. -/
theorem entryPoint_in_harbour :
    Hierarchy.build harbour = .ok harbourHierarchy ∧
    harbourHierarchy.entryPoint ⟨"canoe", "Canoe"⟩ = .ok ((0 : Fin 3), (1 : Fin 3)) ∧
    Configures harbourHierarchy (0 : Fin 3) (1 : Fin 3) ∧
    ∃ f, entrySources harbourHierarchy harbour.settings = .ok [f] ∧
      Applies harbourHierarchy harbour.settings.package f (0 : Fin 3) (1 : Fin 3) := by
  have hp : harbourHierarchy.entryPoint ⟨"canoe", "Canoe"⟩ = .ok ((0 : Fin 3), (1 : Fin 3)) := by
    decide +kernel
  obtain ⟨hc, happlies⟩ :=
    (entryPoint_of_build build_harbour ⟨"canoe", "Canoe"⟩).2 (0 : Fin 3) (1 : Fin 3) hp
  exact ⟨build_harbour, hp, hc, happlies harbour.settings rfl⟩

end BuilderGen.Generation
