import BuilderGen.Proofs.Builder.Derivation
import BuilderGen.Proofs.Generation.Report
import BuilderGen.Proofs.Hierarchy.Names
import Mathlib.Algebra.GroupWithZero.Nat

/-!
# A report accounts for every element

Each element ends up in a report once: with the file of its builder, or as a failure in its own
name. The file of the entry point comes in addition, and its name is never that of a builder.

* `builderName_ne_entryFileName`: builders and entry files have different endings;
* `derived`, `underived`: the elements with a builder, and the others;
* `Accounts`: what it means that a report accounts for every element, with `accounts_of_generate`.
-/

namespace BuilderGen.Generation

open BuilderGen.Builder (Fault Relationship Shape Target)
open BuilderGen.Result
open BuilderGen.Schema

/-! ## 1. The names of files -/

/-- The name of a builder ends in another letter than that of an entry file. -/
theorem builderName_ne_entryFileName (h : Hierarchy) (i : h.Id) (function : String) :
    h.builderName i ≠ Name.entryFileName function := by
  intro e
  have hlast := congrArg (fun s => s.toList.getLast?) e
  have hspec : "Spec".toList.getLast? = some 'c' := by decide
  have hdsl : "Dsl".toList.getLast? = some 'l' := by decide
  simp only [Hierarchy.builderName, Hierarchy.builderNameOf, Name.builderName, Name.entryFileName,
    String.toList_append, List.getLast?_append, hspec, hdsl, Option.some_or] at hlast
  exact absurd hlast (by decide)

/-- Of things with different keys only one has the key of this one. -/
theorem filter_key_eq {α β : Type} [DecidableEq β] {key : α → β} {l : List α}
    (hnd : (l.map key).Nodup) {a : α} (ha : a ∈ l) : l.filter (fun b => key b = key a) = [a] := by
  refine List.perm_singleton.1 ((List.perm_ext_iff_of_nodup (hnd.of_map.filter _)
    (List.nodup_singleton a)).2 fun b => ?_)
  rw [List.mem_filter, List.mem_singleton, decide_eq_true_iff]
  constructor
  · intro ⟨hb, e⟩
    exact List.inj_on_of_nodup_map hnd hb ha e
  · rintro rfl
    exact ⟨ha, rfl⟩

/-! ## 2. Derived elements -/

/-- The elements that get a builder, in order. -/
def derived (h : Hierarchy) (package : String) : List h.Id :=
  h.elements.filter fun i => (Builder.derive h package i).result.toOption.isSome

/-- The elements that get none, in order. -/
def underived (h : Hierarchy) (package : String) : List h.Id :=
  h.elements.filter fun i => !(Builder.derive h package i).result.toOption.isSome

theorem perm_elements (h : Hierarchy) (package : String) :
    (derived h package ++ underived h package).Perm h.elements :=
  List.filter_append_perm _ _

/-- What is read from some elements of a list goes along with these elements. -/
theorem forall₂_filterMap {α β : Type} (f : α → Option β) (l : List α) :
    List.Forall₂ (fun a b => f a = some b) (l.filter fun a => (f a).isSome) (l.filterMap f) := by
  induction l with
  | nil => exact .nil
  | cons a rest ih =>
    cases ha : f a with
    | none => rwa [List.filter_cons_of_neg (by simp [ha]), List.filterMap_cons_none ha]
    | some b =>
      rw [List.filter_cons_of_pos (by simp [ha]), List.filterMap_cons_some ha]
      exact .cons ha ih

/-- Each derived element has its shape. -/
theorem forall₂_shapes (h : Hierarchy) (package : String) :
    List.Forall₂ (fun i shape => (Builder.derive h package i).result = .ok shape)
      (derived h package) (shapes h package) := by
  refine (forall₂_filterMap _ h.elements).imp fun i shape hi => ?_
  cases hr : (Builder.derive h package i).result with
  | error fault => simp [hr, Except.toOption] at hi
  | ok shape' => simpa [hr, Except.toOption] using hi

/-- What is read from the shapes can be read from the derived elements. -/
theorem map_shapes {α : Type} {h : Hierarchy} {package : String} {f : Shape → α} {g : h.Id → α}
    (hfg : ∀ i shape, (Builder.derive h package i).result = .ok shape → f shape = g i) :
    (shapes h package).map f = (derived h package).map g := by
  rw [← List.forall₂_eq_eq_eq, List.forall₂_map_left_iff, List.forall₂_map_right_iff]
  exact (forall₂_shapes h package).flip.imp fun shape i hd => hfg i shape hd

/-- The file of a shape has the name of the builder. -/
theorem typeName_builderFile {h : Hierarchy} {s : Settings} {i : h.Id} {shape : Shape}
    (hd : (Builder.derive h s.package i).result = .ok shape) :
    (builderFile s shape).typeName = h.builderName i := by
  show shape.builder.simpleName = _
  rw [(Builder.head_of_derive hd).1]
  rfl

/-- Each other element has its fault, in the name of its own builder. -/
theorem forall₂_faults (h : Hierarchy) (package : String) :
    List.Forall₂ (fun i fault => (Builder.derive h package i).result = .error fault ∧
        fault.owner = h.builderName i)
      (underived h package) (faults h package) := by
  have hu : underived h package = h.elements.filter fun i => (faultOf h package i).isSome := by
    refine List.filter_congr fun i _ => ?_
    rw [faultOf]
    cases (Builder.derive h package i).result <;> rfl
  rw [hu]
  refine (forall₂_filterMap _ h.elements).imp fun i fault hi => ?_
  have hd : (Builder.derive h package i).result = .error fault := by
    rw [faultOf] at hi
    cases hr : (Builder.derive h package i).result with
    | ok shape => simp [hr] at hi
    | error fault' => simpa [hr] using hi
  exact ⟨hd, Builder.owner_of_derive_error hd⟩

/-! ## 3. Functions -/

/-- The classes in the slots of a shape, each with its slot. -/
def pairs (shape : Shape) : List (Relationship × Target) :=
  shape.relationships.flatMap fun r => r.targets.map fun t => (r, t)

/-- A builder has one function for each class in each slot. -/
theorem functions_builderFile (s : Settings) (shape : Shape) :
    (builderFile s shape).functions = (pairs shape).length := by
  show shape.functions.length = _
  rw [Shape.functions, pairs, List.length_flatMap, List.length_flatMap]
  simp only [List.length_map]

/-! ## 4. The entry point -/

/-- The entry files fail exactly with what the entry point fails with. -/
theorem entryFiles_error {h : Hierarchy} {s : Settings} {e : SchemaError} :
    entryFiles h s = .error e ↔ ∃ entry, s.entry = some entry ∧ h.entryPoint entry = .error e := by
  rw [entryFiles]
  cases s.entry with
  | none => simp
  | some entry =>
    simp only [Option.some.injEq, exists_eq_left']
    cases h.entryPoint entry with
    | ok found => simp [bind, Except.bind, pure, Except.pure]
    | error fault => simp [bind, Except.bind]

/-! ## 5. Reports -/

/-- **A report accounts for every element.** The elements are split into those that are derived and
those that fail, both in the order of the schema. The files are those of the derived elements and
then the entry file, if one is configured; the failures are those of the other elements. All of them
have different names, and the functions are counted by slots and classes. -/
structure Accounts (h : Hierarchy) (s : Settings) (r : Report) (made failed : List h.Id)
    (shapes : List Shape) (entry : List GeneratedFile) : Prop where
  ordered : h.elements.Pairwise (· < ·)
  made_sublist : made.Sublist h.elements
  failed_sublist : failed.Sublist h.elements
  split : (made ++ failed).Perm h.elements
  derivations : List.Forall₂ (fun i shape => (Builder.derive h s.package i).result = .ok shape ∧
    (builderFile s shape).typeName = h.builderName i) made shapes
  files : r.files = shapes.map (builderFile s) ++ entry
  failures : List.Forall₂ (fun i fault => (Builder.derive h s.package i).result = .error fault ∧
    fault.owner = h.builderName i) failed r.failures
  entryPoint : s.entry = none ∧ entry = [] ∨ ∃ e root element, s.entry = some e ∧
    h.entryPoint e = .ok (root, element) ∧ entry = [entryFileOf s (entrySource h s e root element)]
  names : (r.files.map GeneratedFile.typeName ++ r.failures.map Fault.owner).Nodup
  functions : r.functionCount = (shapes.map fun shape => (pairs shape).length).sum + entry.length

theorem map_typeName_shapes (h : Hierarchy) (s : Settings) :
    ((shapes h s.package).map (builderFile s)).map GeneratedFile.typeName =
      (derived h s.package).map h.builderName := by
  rw [List.map_map]
  exact map_shapes fun _ _ hd => typeName_builderFile hd

theorem map_owner_faults (h : Hierarchy) (package : String) :
    (faults h package).map Fault.owner = (underived h package).map h.builderName := by
  rw [← List.forall₂_eq_eq_eq, List.forall₂_map_left_iff, List.forall₂_map_right_iff]
  exact ((forall₂_faults h package).flip).imp fun _ _ hi => hi.2

/-- No file or failure of an element has the name of the entry file. -/
theorem nodup_names {h : Hierarchy} (hv : h.Valid) {s : Settings} {entry : List GeneratedFile}
    (he : entryFiles h s = .ok entry) :
    (((shapes h s.package).map (builderFile s) ++ entry).map GeneratedFile.typeName ++
      (faults h s.package).map Fault.owner).Nodup := by
  have hnd : ((derived h s.package ++ underived h s.package).map h.builderName).Nodup :=
    ((perm_elements h s.package).map _).nodup_iff.2 hv.nodup_builderName
  rw [List.map_append, map_typeName_shapes, map_owner_faults]
  rcases entryFiles_cases he with ⟨-, rfl⟩ | ⟨e, root, element, -, -, rfl⟩
  · rwa [List.map_nil, List.append_nil, ← List.map_append]
  · -- the name of the entry file comes to the front
    rw [List.append_assoc, List.map_singleton, List.singleton_append]
    refine List.perm_middle.nodup_iff.2 (List.nodup_cons.2 ⟨fun hmem => ?_, ?_⟩)
    · rw [← List.map_append] at hmem
      obtain ⟨i, -, e⟩ := List.mem_map.1 hmem
      exact builderName_ne_entryFileName h i _ e
    · rwa [← List.map_append]

/-- **The sources of a hierarchy fail only with what the entry point fails with; otherwise their
report accounts for every element.** -/
theorem accounts_of_generate {m : Manifest} {h : Hierarchy} (hb : Hierarchy.build m = .ok h)
    (s : Settings) :
    (∀ e, (generate h s).result = .error e ↔
      ∃ entry, s.entry = some entry ∧ h.entryPoint entry = .error e) ∧
    ∀ r, (generate h s).result = .ok r →
      ∃ made failed shapes entry, Accounts h s r made failed shapes entry := by
  rw [result_generate]
  refine ⟨fun e => map_error.trans entryFiles_error, fun r hr => ?_⟩
  obtain ⟨entry, he, rfl⟩ := map_ok.1 hr
  refine ⟨derived h s.package, underived h s.package, shapes h s.package, entry, {
    ordered := Hierarchy.pairwise_elements h
    made_sublist := List.filter_sublist
    failed_sublist := List.filter_sublist
    split := perm_elements h s.package
    derivations := (forall₂_shapes h s.package).imp fun _ _ hd => ⟨hd, typeName_builderFile hd⟩
    files := rfl
    failures := forall₂_faults h s.package
    entryPoint := entryFiles_cases he
    names := nodup_names (Hierarchy.valid_of_build hb) he
    functions := ?_ }⟩
  have hentry : (entry.map GeneratedFile.functions).sum = entry.length := by
    rcases entryFiles_cases he with ⟨-, rfl⟩ | ⟨e, root, element, -, -, rfl⟩
    · rfl
    · rfl
  rw [Report.functionCount, ← List.sum_eq_foldr, List.map_append, List.sum_append, hentry,
    List.map_map]
  congr 2
  exact List.map_congr_left fun shape _ => functions_builderFile s shape

/-- A tray that takes a dish, of which there is none, and a cup. -/
def canteen : Manifest := ⟨{ Settings.default with entry := some ⟨"tray", "Tray"⟩ }, [
  { HostClass.plain "p" "Tray" with
    element := some "tray", children := [⟨"setDish", "Dish"⟩] },
  { HostClass.plain "p" "Dish" with isAbstract := true },
  { HostClass.plain "p" "Cup" with element := some "cup" }]⟩

/-- The hierarchy of these classes. -/
def canteenHierarchy : Hierarchy := .ofLineages canteen.classes [[0], [1], [2]]

theorem build_canteen : Hierarchy.build canteen = .ok canteenHierarchy :=
  Hierarchy.build_of_lineages (by decide) (by decide) (by decide) rfl

theorem accounts_canteen :
    Hierarchy.build canteen = .ok canteenHierarchy ∧
    derived canteenHierarchy canteen.settings.package = [(2 : Fin 3)] ∧
    underived canteenHierarchy canteen.settings.package = [(0 : Fin 3)] ∧
    ∃ r, (generate canteenHierarchy canteen.settings).result = .ok r ∧
      ∃ made failed shapes entry,
        Accounts canteenHierarchy canteen.settings r made failed shapes entry := by
  have hp : canteenHierarchy.entryPoint ⟨"tray", "Tray"⟩ = .ok ((0 : Fin 3), (0 : Fin 3)) := rfl
  have hr := result_generate_of_entryPoint (s := canteen.settings) rfl hp
  exact ⟨build_canteen, rfl, rfl, _, hr,
    (accounts_of_generate build_canteen canteen.settings).2 _ hr⟩

end BuilderGen.Generation
