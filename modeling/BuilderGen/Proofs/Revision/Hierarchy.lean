import BuilderGen.Proofs.Hierarchy.Alike

/-!
# Hierarchies with one class revised

A revision of a schema gives one class other attributes, another sample, or another mark of whether
it can be created. Names, references and slots stay, so the hierarchy stays the same: a reference
means the class at the same position, and lineages and subtypes are those of before. A class is the
same as before, with the same ancestors, unless the revised class is in its lineage.

* `Manifest.revise`: a schema with one class revised;
* `Revised`: what two hierarchies have in common when a class was revised, with `revised_of_build`;
* `Revised.alike`: which classes are the same in both;
* `Revised.children`, `Revised.builderName`, `Revised.classRef`: what all classes keep;
* `Revised.entryPoint`: what an entry point means.
-/

namespace BuilderGen

open BuilderGen.Schema

/-! ## 1. Revisions -/

namespace Schema

/-- A class with other attributes, another sample and another mark of whether it can be created. -/
def HostClass.revise (attributes : List Attribute) (sample : Sample) (constructible : Bool)
    (c : HostClass) : HostClass :=
  { c with attributes, sample, defaultConstructible := constructible }

/-- **A schema with the class at a position revised.** -/
def Manifest.revise (m : Manifest) (d : Nat) (attributes : List Attribute) (sample : Sample)
    (constructible : Bool) : Manifest :=
  { m with classes := m.classes.modify d (HostClass.revise attributes sample constructible) }

/-- What a revision leaves as it is. -/
def HostClass.frame (c : HostClass) : HostClass := c.revise [] .none true

theorem HostClass.frame_revise (attributes : List Attribute) (sample : Sample)
    (constructible : Bool) (c : HostClass) :
    (c.revise attributes sample constructible).frame = c.frame := rfl

/-- What does not depend on what a revision changes is the same for classes with one frame. -/
theorem HostClass.apply_eq {α : Type} {f : HostClass → α} (hf : ∀ c, f c.frame = f c)
    {c c' : HostClass} (h : c'.frame = c.frame) : f c' = f c := by
  rw [← hf, h, hf]

end Schema

namespace Hierarchy

/-- Positions in two lists of one length. -/
def samePosition {n k : Nat} (e : n = k) : Fin n ≃ Fin k where
  toFun := Fin.cast e
  invFun := Fin.cast e.symm
  left_inv _ := rfl
  right_inv _ := rfl

theorem map_samePosition_finRange {n k : Nat} (e : n = k) :
    (List.finRange n).map (samePosition e) = List.finRange k := by
  subst e
  exact List.map_id _

/-- **Two lists of classes that differ at one position at most**, and there only in what a revision
changes. -/
structure Touched (classes classes' : List HostClass) (d : Nat) : Prop where
  length : classes.length = classes'.length
  frame : ∀ i, (classes'.get (samePosition length i)).frame = (classes.get i).frame
  get : ∀ i : Fin classes.length, i.val ≠ d →
    classes'.get (samePosition length i) = classes.get i

/-- A revision touches one class. -/
theorem touched_revise (m : Manifest) (d : Nat) (attributes : List Attribute) (sample : Sample)
    (constructible : Bool) :
    Touched m.classes (m.revise d attributes sample constructible).classes d := by
  have hlength : m.classes.length = (m.revise d attributes sample constructible).classes.length :=
    (List.length_modify _ _ _).symm
  have hget : ∀ i, (m.revise d attributes sample constructible).classes.get
      (samePosition hlength i) =
        if d = i.val then (m.classes.get i).revise attributes sample constructible
        else m.classes.get i := fun i => List.getElem_modify _ _ _ _ _
  refine ⟨hlength, fun i => ?_, fun i hi => ?_⟩
  · rw [hget]
    split
    · exact HostClass.frame_revise _ _ _ _
    · rfl
  · rw [hget, if_neg (Ne.symm hi)]

/-! ## 2. References -/

namespace Touched

variable {classes classes' : List HostClass} {d : Nat} (τ : Touched classes classes' d)
include τ

theorem candidates (spelling : String) :
    Hierarchy.candidates classes' spelling =
      (Hierarchy.candidates classes spelling).map (samePosition τ.length) := by
  rw [Hierarchy.candidates, Hierarchy.candidates, ← map_samePosition_finRange τ.length,
    List.filter_map]
  congr 1
  refine List.filter_congr fun i _ => ?_
  show (spellings _).contains spelling = _
  rw [HostClass.apply_eq (f := spellings) (fun _ => rfl) (τ.frame i)]

/-- **A reference means the class at the same position**, or it fails for the same reason. -/
theorem resolve (r : String) : Hierarchy.resolve classes' r =
    (Hierarchy.resolve classes r).map (samePosition τ.length) := by
  rw [resolve_eq, resolve_eq, τ.candidates]
  match Hierarchy.candidates classes (Text.trim r) with
  | [] => rfl
  | [i] => rfl
  | i :: j :: rest =>
    have hnames : ((i :: j :: rest).map (samePosition τ.length)).map
        (fun k => (classes'.get k).qualifiedName) =
          (i :: j :: rest).map fun k => (classes.get k).qualifiedName := by
      rw [List.map_map]
      exact List.map_congr_left fun k _ =>
        HostClass.apply_eq (f := HostClass.qualifiedName) (fun _ => rfl) (τ.frame k)
    exact congrArg (fun names => Except.error (ReferenceFault.ambiguous names)) hnames

theorem parents (i : Fin classes.length) :
    Hierarchy.parents classes' (samePosition τ.length i) =
      (Hierarchy.parents classes i).map (samePosition τ.length) := by
  rw [Hierarchy.parents, Hierarchy.parents, List.map_filterMap,
    HostClass.apply_eq (f := HostClass.supertypes) (fun _ => rfl) (τ.frame i)]
  refine List.filterMap_congr fun r _ => ?_
  rw [τ.resolve]
  cases Hierarchy.resolve classes r <;> rfl

end Touched

/-! ## 3. Hierarchies -/

/-- **What two hierarchies have in common when a class was revised.** -/
structure Revised (h h' : Hierarchy) (place : h.Id ≃ h'.Id) (d : Nat) : Prop where
  position : ∀ i, (place i).val = i.val
  frame : ∀ i, (h'.get (place i)).frame = (h.get i).frame
  get : ∀ i : h.Id, i.val ≠ d → h'.get (place i) = h.get i
  ids : h'.ids = h.ids.map place
  resolve : ∀ r, h'.resolve? r = (h.resolve? r).map place
  lineage : ∀ i, h'.lineage (place i) = (h.lineage i).map place
  subtypes : ∀ i, h'.subtypes (place i) = (h.subtypes i).map place

/-- The hierarchies of a schema before and after a revision. -/
theorem revised_of_build {m : Manifest} {d : Nat} {attributes : List Attribute} {sample : Sample}
    {constructible : Bool} {h h' : Hierarchy} (hb : build m = .ok h)
    (hb' : build (m.revise d attributes sample constructible) = .ok h') :
    ∃ place, Revised h h' place d := by
  have hv := valid_of_build hb
  have hv' := valid_of_build hb'
  have τ : Touched h.classes h'.classes d := by
    rw [classes_of_build hb, classes_of_build hb']
    exact touched_revise m d attributes sample constructible
  have hids : h'.ids = h.ids.map (samePosition τ.length) :=
    (map_samePosition_finRange τ.length).symm
  have hlineage := lineage_of_parents hv hv' τ.parents
  refine ⟨samePosition τ.length, fun _ => rfl, τ.frame, τ.get, hids, τ.resolve, hlineage,
    fun i => ?_⟩
  rw [hv.subtypes_eq, hv'.subtypes_eq, hids, List.filter_map]
  congr 1
  refine List.filter_congr fun k _ => ?_
  simp [hlineage]

namespace Revised

variable {h h' : Hierarchy} {place : h.Id ≃ h'.Id} {d : Nat} (ρ : Revised h h' place d)
include ρ

/-- **A class is the same as before, with the same ancestors, if the revised class is not among
them.** -/
theorem alike {i : h.Id} (hself : i ∈ h.lineage i) (hd : ∀ a ∈ h.lineage i, a.val ≠ d) :
    h.Alike i h' (place i) where
  get := ρ.get i (hd i hself)
  ancestry := by
    rw [ancestry, ancestry, ρ.lineage, List.map_map]
    exact List.map_congr_left fun a ha => ρ.get a (hd a ha)

theorem isElement (i : h.Id) : (h'.get (place i)).isElement = (h.get i).isElement :=
  HostClass.apply_eq (f := HostClass.isElement) (fun _ => rfl) (ρ.frame i)

theorem qualifiedName (i : h.Id) : (h'.get (place i)).qualifiedName = (h.get i).qualifiedName :=
  HostClass.apply_eq (f := HostClass.qualifiedName) (fun _ => rfl) (ρ.frame i)

/-- Elements stay elements. -/
theorem elements : h'.elements = h.elements.map place := by
  rw [Hierarchy.elements, Hierarchy.elements, ρ.ids, List.filter_map]
  congr 1
  exact List.filter_congr fun i _ => ρ.isElement i

/-- **All classes keep their slots**, also the revised one. -/
theorem children (i : h.Id) : h'.children (place i) = h.children i := by
  rw [Hierarchy.children, Hierarchy.children, inherited, inherited, ρ.lineage, List.flatMap_map]
  congr 1
  exact List.flatMap_congr fun a _ =>
    HostClass.apply_eq (f := HostClass.children) (fun _ => rfl) (ρ.frame a)

theorem builderName (i : h.Id) : h'.builderName (place i) = h.builderName i :=
  HostClass.apply_eq (f := builderNameOf) (fun _ => rfl) (ρ.frame i)

theorem classRef (i : h.Id) : h'.classRef (place i) = h.classRef i :=
  let ref := fun c : HostClass =>
    Source.ClassRef.mk c.package ((c.enclosing.map Text.segments).getD [] ++ [c.name])
  HostClass.apply_eq (f := ref) (fun _ => rfl) (ρ.frame i)

theorem nearestElement (i : h.Id) : h'.nearestElement (place i) = (h.nearestElement i).map place :=
  nearestElement_of_lineage (ρ.lineage i) ρ.isElement

/-- **An entry point means the same classes**, or fails for the same reason, if its root is not the
revised class. -/
theorem entryPoint {e : EntryPoint} (hroot : ∀ root, h.resolve? e.root = .ok root → root.val ≠ d) :
    h'.entryPoint e = (h.entryPoint e).map (Prod.map place place) := by
  rw [Hierarchy.entryPoint, Hierarchy.entryPoint, ρ.resolve]
  cases hr : h.resolve? e.root with
  | error fault => rfl
  | ok root =>
    simp only [Except.map, ρ.nearestElement, ρ.get root (hroot root hr)]
    cases h.nearestElement root with
    | none => rfl
    | some element =>
      by_cases hc : (h.get root).isCreatable = true
      · simp only [Option.map_some, if_pos hc]
        rfl
      · simp only [Option.map_some, if_neg hc]

end Revised

end Hierarchy

end BuilderGen
