import BuilderGen.Source.Printer
import Mathlib.Data.List.Basic

/-!
# The references of a layout

What a file refers to is collected from its declarations, and what is written comes from its layout.
Both walk through the file in the same order, so the references of the layout are those of the file,
as long as no property of a class has a default: the collection leaves these out.

* `File.refs_layout`: the references of a file are those of its layout;
* `File.mem_layout`: where the type of a parameter is laid out.
-/

namespace BuilderGen.Source

/-! ## 1. Fragments -/

namespace Code

theorem refs_append (a b : Code) : Code.refs (a ++ b) = Code.refs a ++ Code.refs b :=
  List.filterMap_append

theorem refs_text (s : String) (code : Code) : Code.refs (.text s :: code) = Code.refs code :=
  List.filterMap_cons_none rfl

theorem refs_nil : Code.refs [] = [] := rfl

theorem refs_flatMap {α : Type} (f : α → Code) (l : List α) :
    Code.refs (l.flatMap f) = l.flatMap fun a => Code.refs (f a) :=
  List.filterMap_flatMap

theorem refs_separated (separator : String) (codes : List Code) :
    Code.refs (separated separator codes) = codes.flatMap Code.refs := by
  induction codes with
  | nil => rfl
  | cons c rest ih =>
    cases rest with
    | nil => simp [separated]
    | cons d rest =>
      show Code.refs (c ++ .text separator :: separated separator (d :: rest)) = _
      rw [refs_append, refs_text, ih, ← List.flatMap_cons]

theorem refs_line (indent : String) (depth : Nat) (code : Code) :
    Code.refs (lineLayout indent depth code) = Code.refs code := by
  have hindent : Code.refs (List.replicate depth (.text indent)) = [] := by
    rw [Code.refs, List.filterMap_eq_nil_iff]
    intro p hp
    rw [List.eq_of_mem_replicate hp]
    rfl
  rw [lineLayout, refs_append, refs_append, hindent, refs_text, refs_nil, List.append_nil,
    List.nil_append]

end Code

open Code

/-! ## 2. Declarations -/

theorem TypeUse.refs_layout (t : TypeUse) : Code.refs t.layout = [t.mentioned] := by
  cases t with
  | plain c nullable => cases nullable <;> rfl
  | receiverLambda c => rfl

theorem Parameter.refs_layout (p : Parameter) : Code.refs p.layout = p.refs := by
  rw [Parameter.layout, Parameter.refs, List.cons_append, refs_text, refs_append,
    TypeUse.refs_layout]
  cases p.default with
  | none => rfl
  | some code => rw [refs_text]; rfl

theorem refs_bodyLayout (indent : String) (floor depth : Nat) (body : List Statement) :
    Code.refs (bodyLayout indent floor depth body) = body.flatMap fun s => s.code.refs := by
  induction body generalizing depth with
  | nil => rfl
  | cons s rest ih =>
    cases s with
    | line code =>
      rw [bodyLayout, refs_append, refs_line, ih, List.flatMap_cons]
      rfl
    | openBlock code =>
      rw [bodyLayout, refs_append, refs_line, refs_append, refs_text, refs_nil, List.append_nil, ih,
        List.flatMap_cons]
      rfl
    | closeBlock =>
      rw [bodyLayout, refs_append, refs_line, refs_text, refs_nil, ih, List.flatMap_cons]
      rfl

theorem Function.refs_layout (indent : String) (depth : Nat) (f : Function) :
    Code.refs (f.layout indent depth) = f.refs := by
  have hparameters : (f.parameters.map Parameter.layout).flatMap Code.refs =
      f.parameters.flatMap Parameter.refs := by
    rw [List.flatMap_map]
    simp only [Parameter.refs_layout]
  rw [Function.layout, Function.refs]
  simp only [refs_append, refs_line, refs_text, refs_nil, refs_bodyLayout, refs_separated,
    hparameters, List.cons_append, List.append_nil]
  cases f.returns with
  | none => simp [refs_nil]
  | some type => simp [refs_text, TypeUse.refs_layout]

/-! ## 3. Files -/

/-- No property of a class has a default. -/
def ClassDecl.Plain (d : ClassDecl) : Prop := ∀ p ∈ d.properties, p.default = none

/-- A class writes what its properties and its functions refer to, also in the defaults of its
properties. -/
theorem ClassDecl.refs_layout_eq (indent : String) (d : ClassDecl) :
    Code.refs (d.layout indent) =
      d.properties.flatMap Parameter.refs ++ d.functions.flatMap Function.refs := by
  have hproperties : (d.properties.map propertyLayout).flatMap Code.refs =
      d.properties.flatMap Parameter.refs := by
    rw [List.flatMap_map]
    simp only [propertyLayout, refs_text, Parameter.refs_layout]
  have hfunctions : (d.functions.map (Function.layout indent 1)).flatMap Code.refs =
      d.functions.flatMap Function.refs := by
    rw [List.flatMap_map]
    simp only [Function.refs_layout]
  rw [ClassDecl.layout, List.cons_append, refs_text, refs_append, refs_separated, hproperties,
    ← hfunctions]
  cases d.functions with
  | nil => rfl
  | cons f rest =>
    simp only [List.cons_append, refs_text, refs_append, refs_separated, refs_nil, List.append_nil]

theorem ClassDecl.refs_layout (indent : String) {d : ClassDecl} (hd : d.Plain) :
    Code.refs (d.layout indent) = d.refs := by
  have hproperty : ∀ p ∈ d.properties, p.refs = [p.type.mentioned] := by
    intro p hp
    rw [Parameter.refs, hd p hp]
    rfl
  rw [ClassDecl.refs_layout_eq, ClassDecl.refs, List.flatMap_congr hproperty, ← List.map_eq_flatMap]

/-- **The references of a file are those that its layout writes.** -/
theorem File.refs_layout (indent : String) {f : File} (hf : ∀ d ∈ f.classes, d.Plain) :
    Code.refs (f.layout indent) = f.refs := by
  rw [File.layout, File.refs, refs_append, refs_flatMap, refs_flatMap]
  simp only [refs_text, Function.refs_layout]
  rw [List.flatMap_congr fun d hd => ClassDecl.refs_layout indent (hf d hd)]

/-! ## 4. Parameters -/

/-- The parameters of all functions of a file. -/
def File.parameters (f : File) : List Parameter :=
  (f.classes.flatMap ClassDecl.functions ++ f.functions).flatMap Function.parameters

theorem mem_separated (separator : String) {codes : List Code} {code : Code} (hc : code ∈ codes)
    {p : Piece} (hp : p ∈ code) : p ∈ separated separator codes := by
  induction codes with
  | nil => cases hc
  | cons c rest ih =>
    cases rest with
    | nil =>
      rw [separated, ← List.mem_singleton.1 hc]
      exact hp
    | cons d rest =>
      show p ∈ c ++ .text separator :: separated separator (d :: rest)
      rcases List.mem_cons.1 hc with rfl | hc
      · exact List.mem_append_left _ hp
      · exact List.mem_append_right _ (List.mem_cons_of_mem _ (ih hc))

/-- What the type of a parameter is laid out as stands in the layout of the function. -/
theorem Function.mem_layout {indent : String} {depth : Nat} {f : Function} {p : Parameter}
    (hp : p ∈ f.parameters) {x : Piece} (hx : x ∈ p.type.layout) : x ∈ f.layout indent depth := by
  have hlayout : x ∈ p.layout := by
    rw [Parameter.layout]
    exact List.mem_append_left _ (List.mem_cons_of_mem _ hx)
  have hsep := mem_separated ", " (List.mem_map_of_mem hp) hlayout
  simp only [Function.layout, lineLayout, List.mem_append, List.mem_cons, hsep, true_or, or_true]

/-- **What the type of a parameter is laid out as stands in the layout of the file.** -/
theorem File.mem_layout {indent : String} {f : File} {p : Parameter} (hp : p ∈ f.parameters)
    {x : Piece} (hx : x ∈ p.type.layout) : x ∈ f.layout indent := by
  obtain ⟨g, hg, hp⟩ := List.mem_flatMap.1 hp
  rw [File.layout, List.mem_append]
  rcases List.mem_append.1 hg with hg | hg
  · obtain ⟨d, hd, hg⟩ := List.mem_flatMap.1 hg
    refine .inl (List.mem_flatMap.2 ⟨d, hd, List.mem_cons_of_mem _ ?_⟩)
    have hfunction : x ∈ g.layout indent 1 := Function.mem_layout hp hx
    have hsep := mem_separated "\n" (List.mem_map_of_mem hg) hfunction
    rw [ClassDecl.layout]
    cases hfunctions : d.functions with
    | nil =>
      rw [hfunctions] at hg
      cases hg
    | cons g' rest =>
      rw [hfunctions] at hsep
      exact List.mem_append_right _ (List.mem_append_left _ (List.mem_cons_of_mem _ hsep))
  · exact .inr (List.mem_flatMap.2 ⟨g, hg, List.mem_cons_of_mem _ (Function.mem_layout hp hx)⟩)

end BuilderGen.Source
