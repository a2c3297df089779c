import BuilderGen.Proofs.Name.Written
import BuilderGen.Proofs.Result
import BuilderGen.Schema.Check
import Mathlib.Data.List.Nodup

/-!
# Which classes pass the checks that look at one place

A check is a row of conditions, each with the fault that it fails with. So a check passes exactly if
all its conditions hold, and a fault that no condition has is never reported.

* `Settings.WellFormed`: what has to hold of the settings, with `Settings.check_ok`;
* `HostClass.WellFormed`: what has to hold of a class by itself;
* `checkClasses_ok`: the classes of a manifest pass exactly if each is well formed and their full
  names are pairwise distinct;
* `checkClasses_ne_cycle`: these checks say nothing about cycles.
-/

namespace BuilderGen.Schema

open BuilderGen.Result

/-! ## 1. Conditions -/

theorem require_ok {condition : Bool} {fault : SchemaError} :
    require condition fault = .ok () ↔ condition = true := by
  cases condition <;> simp [require]

theorem require_error {condition : Bool} {fault e : SchemaError} :
    require condition fault = .error e ↔ condition = false ∧ fault = e := by
  cases condition <;> simp [require]

/-! ## 2. Settings -/

namespace Settings

/-- **What has to hold of the settings.** -/
structure WellFormed (s : Settings) : Prop where
  package : s.package ≠ ""
  segments : ∀ segment ∈ Text.segments s.package, Name.isIdentifier segment = true
  indent : s.indent ≠ 0
  extension : s.fileExtension ≠ ""
  extensionChars : ∀ c ∈ s.fileExtension.toList, c ≠ '.' ∧ c ≠ '/' ∧ c ≠ '\\'
  entry : ∀ e, s.entry = some e → Name.isIdentifier e.function = true ∧ e.root ≠ ""

theorem checkEntry_ok {e : EntryPoint} :
    checkEntry e = .ok () ↔ Name.isIdentifier e.function = true ∧ e.root ≠ "" := by
  simp [checkEntry, andThen_ok, require_ok]

theorem hasValidPackage_iff {s : Settings} : s.hasValidPackage = true ↔
    s.package ≠ "" ∧ ∀ segment ∈ Text.segments s.package, Name.isIdentifier segment = true := by
  simp [hasValidPackage]

theorem hasValidExtension_iff {s : Settings} : s.hasValidExtension = true ↔
    s.fileExtension ≠ "" ∧ ∀ c ∈ s.fileExtension.toList, c ≠ '.' ∧ c ≠ '/' ∧ c ≠ '\\' := by
  simp [hasValidExtension, and_assoc]

/-- The steps of the check. -/
theorem check_eq (s : Settings) : s.check =
    (require s.hasValidPackage (.settings (.package s.package)) >>= fun _ =>
      require (s.indent != 0) (.settings .noIndent) >>= fun _ =>
        require s.hasValidExtension (.settings (.fileExtension s.fileExtension)) >>= fun _ =>
          s.entry.elim (.ok ()) checkEntry) := by
  rw [check]
  cases s.entry <;> rfl

/-- The settings pass exactly if they are well formed. -/
theorem check_ok {s : Settings} : s.check = .ok () ↔ s.WellFormed := by
  have hentry : s.entry.elim (.ok ()) checkEntry = .ok () ↔
      ∀ e, s.entry = some e → Name.isIdentifier e.function = true ∧ e.root ≠ "" := by
    cases s.entry with
    | none => simp
    | some e => simp [checkEntry_ok]
  rw [check_eq]
  simp only [andThen_ok, require_ok, hasValidPackage_iff, hasValidExtension_iff, hentry, bne_iff_ne]
  constructor
  · rintro ⟨⟨hp, hs⟩, hi, ⟨hx, hc⟩, he⟩
    exact ⟨hp, hs, hi, hx, hc, he⟩
  · rintro ⟨hp, hs, hi, hx, hc, he⟩
    exact ⟨⟨hp, hs⟩, hi, ⟨hx, hc⟩, he⟩

end Settings

/-! ## 3. One class -/

/-- A text is a setter if it is `set` with an identifier behind it. -/
theorem isSome_propertyOfSetter? {setter : String} :
    (Name.propertyOfSetter? setter).isSome = true ↔
      ∃ property, setter = "set" ++ property ∧ Name.isIdentifier property = true := by
  unfold Name.propertyOfSetter?
  split
  · rename_i rest h
    rw [Name.behind?_eq_some] at h
    constructor
    · intro hs
      refine ⟨rest, h, ?_⟩
      by_contra hi
      simp [hi] at hs
    · intro ⟨property, hp, hi⟩
      have : rest = property := by
        rw [h, ← String.toList_inj, String.toList_append, String.toList_append] at hp
        exact String.toList_inj.1 (List.append_cancel_left hp)
      rw [this, if_pos hi, Option.isSome_some]
  · rename_i h
    constructor
    · intro hs
      cases hs
    · rintro ⟨property, hp, -⟩
      rw [Name.behind?_eq_some.2 hp] at h
      cases h

namespace HostClass

/-- **What has to hold of a class by itself.** -/
structure WellFormed (c : HostClass) : Prop where
  name : c.name ≠ ""
  element : ∀ e, c.element = some e → Name.isIdentifier e = true
  setters : ∀ s ∈ c.setters, ∃ property, s = "set" ++ property ∧ Name.isIdentifier property = true
  types : ∀ a ∈ c.attributes, a.type ≠ ""

theorem checkElement_ok {owner : String} {element : Option String} :
    checkElement owner element = .ok () ↔ ∀ e, element = some e → Name.isIdentifier e = true := by
  cases element with
  | none => simp [checkElement]
  | some e => simp [checkElement, require_ok]

theorem checkSetters_ok {owner : String} {setters : List String} :
    checkSetters owner setters = .ok () ↔
      ∀ s ∈ setters, ∃ property, s = "set" ++ property ∧ Name.isIdentifier property = true := by
  induction setters with
  | nil => simp [checkSetters]
  | cons s rest ih =>
    rw [checkSetters, andThen_ok, require_ok, isSome_propertyOfSetter?, ih, List.forall_mem_cons]

theorem checkTypes_ok {owner : String} {attributes : List Attribute} :
    checkTypes owner attributes = .ok () ↔ ∀ a ∈ attributes, a.type ≠ "" := by
  induction attributes with
  | nil => simp [checkTypes]
  | cons a rest ih =>
    rw [checkTypes, andThen_ok, require_ok, ih, List.forall_mem_cons]
    simp

/-- A class passes if it is well formed and its full name is a new one. -/
theorem check_ok {seen : List String} {c : HostClass} :
    c.check seen = .ok () ↔ c.WellFormed ∧ c.qualifiedName ∉ seen := by
  simp only [check, andThen_ok, require_ok, checkElement_ok, checkSetters_ok, checkTypes_ok]
  constructor
  · intro ⟨hn, hs, he, hset, ht⟩
    exact ⟨⟨by simpa using hn, he, hset, ht⟩, by simpa using hs⟩
  · intro ⟨⟨hn, he, hset, ht⟩, hs⟩
    exact ⟨by simpa using hn, by simpa using hs, he, hset, ht⟩

end HostClass

/-! ## 4. All classes -/

/-- **The classes of a manifest pass exactly if each is well formed and their full names are
pairwise distinct**, and distinct from those of the classes before them. -/
theorem checkClasses_ok {seen : List String} {classes : List HostClass} :
    checkClasses seen classes = .ok () ↔
      (∀ c ∈ classes, c.WellFormed) ∧ (classes.map HostClass.qualifiedName).Nodup ∧
        ∀ c ∈ classes, c.qualifiedName ∉ seen := by
  induction classes generalizing seen with
  | nil => simp [checkClasses]
  | cons c rest ih =>
    rw [checkClasses, andThen_ok, HostClass.check_ok, ih, List.map_cons, List.nodup_cons]
    simp only [List.forall_mem_cons, List.mem_map]
    constructor
    · intro ⟨⟨hc, hs⟩, hall, hnd, hrest⟩
      refine ⟨⟨hc, hall⟩, ⟨?_, hnd⟩, hs, fun d hd h => hrest d hd (List.mem_cons_of_mem _ h)⟩
      intro ⟨d, hd, e⟩
      exact hrest d hd (e ▸ List.mem_cons_self)
    · intro ⟨⟨hc, hall⟩, ⟨hne, hnd⟩, hs, hrest⟩
      refine ⟨⟨hc, hs⟩, hall, hnd, fun d hd h => ?_⟩
      rcases List.mem_cons.1 h with e | h
      · exact hne ⟨d, hd, e⟩
      · exact hrest d hd h

/-! ## 5. Faults of other checks -/

theorem HostClass.checkElement_ne_cycle {owner : String} {element : Option String} {q : String} :
    checkElement owner element ≠ .error (.inheritanceCycle q) := by
  cases element with
  | none => simp [checkElement]
  | some e => simp [checkElement, require_error]

theorem HostClass.checkSetters_ne_cycle {owner : String} {setters : List String} {q : String} :
    checkSetters owner setters ≠ .error (.inheritanceCycle q) := by
  induction setters with
  | nil => simp [checkSetters]
  | cons s rest ih => simp [checkSetters, andThen_error, require_error, ih]

theorem HostClass.checkTypes_ne_cycle {owner : String} {attributes : List Attribute}
    {q : String} : checkTypes owner attributes ≠ .error (.inheritanceCycle q) := by
  induction attributes with
  | nil => simp [checkTypes]
  | cons a rest ih => simp [checkTypes, andThen_error, require_error, ih]

theorem HostClass.check_ne_cycle {seen : List String} {c : HostClass} {q : String} :
    c.check seen ≠ .error (.inheritanceCycle q) := by
  simp [check, andThen_error, require_error, checkElement_ne_cycle, checkSetters_ne_cycle,
    checkTypes_ne_cycle]

/-- The checks that look at one place say nothing about cycles. -/
theorem checkClasses_ne_cycle {seen : List String} {classes : List HostClass} {q : String} :
    checkClasses seen classes ≠ .error (.inheritanceCycle q) := by
  induction classes generalizing seen with
  | nil => simp [checkClasses]
  | cons c rest ih => simp [checkClasses, andThen_error, HostClass.check_ne_cycle, ih]

end BuilderGen.Schema
