import BuilderGen.Proofs.Builder.Samples
import BuilderGen.Proofs.Builder.Usability

/-!
# Which warnings a derivation reports

The classes in the slots of an element are reached in order, up to the first one that cannot be
created or the first slot that cannot be used. Each class that is reached reports one warning for
each optional attribute whose default does not come from a sample, and nothing else is a warning.

* `Reaches`: which classes a derivation reaches;
* `FromSample`, `Warns`, `default_spec`: where a default comes from, and what is reported otherwise;
* `WarnsOfEach`, `warnsOfEach_attributes`: the warnings for the attributes of a class;
* `warnings_of_derive`: the warnings of a derivation.
-/

namespace BuilderGen.Builder

open BuilderGen.Data (Value)
open BuilderGen.Log (Event Traced)
open BuilderGen.Schema (Attribute ChildSlot)

/-! ## 1. Classes that are reached -/

/-- **The classes that are reached in a slot**: those that the slot takes, in the order of the schema,
up to the first one that cannot be created. -/
structure ReachedIn (h : Hierarchy) (slot : ChildSlot) (classes : List h.Id) : Prop where
  sorted : classes.Pairwise (· < ·)
  mem : ∀ k, k ∈ classes ↔
    Takes h slot k ∧ ∀ k', Takes h slot k' → k' ≤ k → (h.get k').isCreatable = true

/-- **The classes that are reached in some slots**: those of each slot in turn, up to the first slot
that cannot be used. -/
inductive Reaches (h : Hierarchy) : List ChildSlot → List h.Id → Prop where
  | nil : Reaches h [] []
  | passed {slot : ChildSlot} {slots : List ChildSlot} {classes more : List h.Id} :
      Usable h slot → ReachedIn h slot classes → Reaches h slots more →
      Reaches h (slot :: slots) (classes ++ more)
  | stopped {slot : ChildSlot} {slots : List ChildSlot} {classes : List h.Id} :
      ¬ Usable h slot → ReachedIn h slot classes → Reaches h (slot :: slots) classes

/-- In a sorted list, what stands in front of the first exception is what has no exception up to
it. -/
theorem mem_takeWhile_of_pairwise {ι : Type} [LinearOrder ι] {p : ι → Bool} {l : List ι}
    (hsorted : l.Pairwise (· < ·)) {k : ι} :
    k ∈ l.takeWhile p ↔ k ∈ l ∧ ∀ k' ∈ l, k' ≤ k → p k' = true := by
  induction l with
  | nil => simp
  | cons a rest ih =>
    obtain ⟨hfirst, hrest⟩ := List.pairwise_cons.1 hsorted
    rw [List.takeWhile_cons]
    cases ha : p a with
    | false =>
      have hle : k ∈ a :: rest → a ≤ k := by
        intro hk
        rcases List.mem_cons.1 hk with hk | hk
        · exact ge_of_eq hk
        · exact le_of_lt (hfirst k hk)
      refine iff_of_false (by simp) ?_
      intro hk
      have hp := hk.2 a List.mem_cons_self (hle hk.1)
      rw [ha] at hp
      cases hp
    | true =>
      rw [if_pos rfl, List.mem_cons, List.mem_cons, ih hrest, List.forall_mem_cons]
      constructor
      · intro hk
        rcases hk with hk | ⟨hk, hall⟩
        · refine ⟨.inl hk, fun _ => ha, fun k' hk' hle => ?_⟩
          rw [hk] at hle
          exact absurd (hfirst k' hk') (not_lt.2 hle)
        · exact ⟨.inr hk, fun _ => ha, hall⟩
      · intro hk
        exact hk.1.imp_right fun hrest => ⟨hrest, hk.2.2⟩

/-- Whether a class can be created. -/
def creatable (h : Hierarchy) (k : h.Id) : Bool := (h.get k).isCreatable

theorem reachedIn_takenBy {h : Hierarchy} (hv : h.Valid) {slot : ChildSlot} (hs : HasSetter slot) :
    ReachedIn h slot ((takenBy h slot).takeWhile (creatable h)) where
  sorted := (pairwise_takenBy hv hs).sublist (List.takeWhile_sublist _)
  mem := by
    intro k
    rw [mem_takeWhile_of_pairwise (pairwise_takenBy hv hs)]
    simp only [mem_takenBy hv hs]
    rfl

/-! ## 2. Attributes -/

section

variable (h : Hierarchy) (k : h.Id)

/-- **A default comes from a sample**: it stands for the value that was sampled for the attribute. -/
def FromSample (b : Attribute) (d : DefaultValue) : Prop :=
  ∃ property v, b.setter = "set" ++ property ∧ Sampled h k b property v ∧
    DefaultValue.ofSample? (valueTypeOf b) v = some d

/-- **The warning for an attribute whose default comes from no sample**: the value that was sampled
does not fit, or there is none. -/
inductive Warns (b : Attribute) : Event → Prop where
  | unfit {property : String} {v : Value} : b.setter = "set" ++ property →
      Sampled h k b property v → DefaultValue.ofSample? (valueTypeOf b) v = none →
      Warns b (.unfitSample (h.get k).qualifiedName b.setter (Json.valueText v))
  | missing {property : String} : b.setter = "set" ++ property →
      (∀ v, ¬ Sampled h k b property v) →
      Warns b (.noSample (h.get k).qualifiedName (getterOf b property))

/-- **The warnings for the attributes of a class, in order**: one for each optional attribute whose
default comes from no sample, and none for any other attribute. -/
inductive WarnsOfEach : List Attribute → List Event → Prop where
  | nil : WarnsOfEach [] []
  | mandatory {b : Attribute} {all : List Attribute} {events : List Event} : isMandatory b = true →
      WarnsOfEach all events → WarnsOfEach (b :: all) events
  | sampled {b : Attribute} {d : DefaultValue} {all : List Attribute} {events : List Event} :
      isMandatory b = false → FromSample h k b d → WarnsOfEach all events →
      WarnsOfEach (b :: all) events
  | warned {b : Attribute} {e : Event} {all : List Attribute} {events : List Event} :
      isMandatory b = false → (∀ d, ¬ FromSample h k b d) → Warns h k b e →
      WarnsOfEach all events → WarnsOfEach (b :: all) (e :: events)

end

section

variable {h : Hierarchy} {k : h.Id} {b : Attribute} {property : String}

theorem fromSample_iff (hs : b.setter = "set" ++ property)
    (hp : Name.isIdentifier property = true) {d : DefaultValue} :
    FromSample h k b d ↔
      (sampleOf h k b).bind (DefaultValue.ofSample? (valueTypeOf b)) = some d := by
  rw [Option.bind_eq_some_iff]
  simp only [sampleOf_eq_some hs hp]
  constructor
  · intro hd
    obtain ⟨property', v, hs', hv, hd⟩ := hd
    have hsame : property' = property := (String.append_right_inj "set").1 (hs'.symm.trans hs)
    rw [hsame] at hv
    exact ⟨v, hv, hd⟩
  · intro hd
    obtain ⟨v, hv, hd⟩ := hd
    exact ⟨property, v, hs, hv, hd⟩

/-- **A default comes from a sample and is not reported, or it is that of the type and one warning
tells so.** -/
theorem default_spec (hs : b.setter = "set" ++ property) (hp : Name.isIdentifier property = true) :
    (∃ d, FromSample h k b d ∧ defaultOf h k b = (d, [])) ∨
    (∀ d, ¬ FromSample h k b d) ∧
      ∃ e, Warns h k b e ∧ defaultOf h k b = (.fallback (valueTypeOf b), [e]) := by
  simp only [fromSample_iff hs hp]
  unfold defaultOf
  cases hsample : sampleOf h k b with
  | none =>
    have hnone : ∀ v, ¬ Sampled h k b property v := by
      intro v hv
      rw [(sampleOf_eq_some hs hp).2 hv] at hsample
      cases hsample
    refine .inr ⟨fun d => nofun, _, .missing hs hnone, ?_⟩
    rw [← getterName_eq hs]
  | some v =>
    have hv := (sampleOf_eq_some hs hp).1 hsample
    simp only [Option.bind_some]
    cases hd : DefaultValue.ofSample? (valueTypeOf b) v with
    | some d => exact .inl ⟨d, rfl, rfl⟩
    | none => exact .inr ⟨fun d => nofun, _, .unfit hs hv hd, rfl⟩

end

/-! ## 3. Warnings of a class -/

section

variable (h : Hierarchy) (k : h.Id)

/-- The warnings that the derivation of the optional attributes reports. -/
def warningsFor (all : List Attribute) : List Event :=
  (optionalAttributes all).flatMap fun b => (defaultOf h k b).2

/-- All that is reported for a default is warnings. -/
theorem isWarning_of_mem_default {b : Attribute} {e : Event} (he : e ∈ (defaultOf h k b).2) :
    e.isWarning = true := by
  unfold defaultOf at he
  cases hsample : sampleOf h k b with
  | none =>
    rw [hsample] at he
    rw [List.mem_singleton.1 he]
    rfl
  | some v =>
    rw [hsample] at he
    dsimp only at he
    cases hd : DefaultValue.ofSample? (valueTypeOf b) v with
    | some d =>
      rw [hd] at he
      cases he
    | none =>
      rw [hd] at he
      rw [List.mem_singleton.1 he]
      rfl

/-- The warnings among what the attributes of a class report. -/
theorem warnings_attributesOf :
    (attributesOf h k).2.filter Event.isWarning = warningsFor h k (h.attributes k) := by
  have hoptional : ∀ b, (optional h k b).2.filter Event.isWarning = (defaultOf h k b).2 := by
    intro b
    unfold optional
    rw [List.filter_append, List.filter_eq_self.2 fun e => isWarning_of_mem_default h k]
    exact List.append_nil _
  unfold attributesOf warningsFor
  dsimp only
  rw [List.flatMap_map, List.filter_flatMap]
  simp only [hoptional]

end

section

variable {h : Hierarchy} {k : h.Id}

theorem warnsOfEach_warningsFor {all : List Attribute} (hall : ∀ b ∈ all, ∃ property,
      b.setter = "set" ++ property ∧ Name.isIdentifier property = true) :
    WarnsOfEach h k all (warningsFor h k all) := by
  induction all with
  | nil => exact .nil
  | cons b rest ih =>
    obtain ⟨⟨property, hs, hp⟩, hrest⟩ := List.forall_mem_cons.1 hall
    have hevents := ih hrest
    unfold warningsFor optionalAttributes at hevents ⊢
    rw [List.filter_cons]
    cases hb : isMandatory b with
    | true => exact .mandatory hb hevents
    | false =>
      rw [if_pos (by rfl), List.flatMap_cons]
      rcases default_spec (h := h) (k := k) hs hp with ⟨d, hd, hdefault⟩ | ⟨hnone, e, he, hdefault⟩
      · rw [hdefault]
        exact .sampled hb hd hevents
      · rw [hdefault]
        exact .warned hb hnone he hevents

/-- **The attributes of a class report a warning for each default that comes from no sample.** -/
theorem warnsOfEach_attributes (hv : h.Valid) :
    WarnsOfEach h k (h.attributes k) (warningsFor h k (h.attributes k)) :=
  warnsOfEach_warningsFor fun _ hb => hv.property_of_attribute hb

/-- **No default of a target falls back in silence.** -/
theorem default_of_target (hv : h.Valid) {package property : String} {a : AttributeShape}
    (ha : a ∈ (targetOf h package property k).attributes) {d : DefaultValue}
    (hd : a.default = some d) : ∃ b ∈ h.attributes k, a.setter = b.setter ∧
      (FromSample h k b d ∨ IsZero (valueTypeOf b) d ∧
        ∃ e ∈ warningsFor h k (h.attributes k), Warns h k b e) := by
  obtain ⟨b, hb, rfl⟩ := exists_attribute_of_mem ha
  obtain ⟨property', hs, hp⟩ := hv.property_of_attribute hb
  refine ⟨b, hb, rfl, ?_⟩
  unfold shapeAs at hd
  cases hoptional : isMandatory b with
  | true =>
    rw [hoptional] at hd
    cases hd
  | false =>
    rw [hoptional] at hd
    have hdefault : (defaultOf h k b).1 = d := Option.some.inj hd
    rcases default_spec (h := h) (k := k) hs hp with ⟨d', hd', e⟩ | ⟨-, event, hevent, e⟩
    · rw [e] at hdefault
      rw [← hdefault]
      exact .inl hd'
    · rw [e] at hdefault
      have hmem : b ∈ optionalAttributes (h.attributes k) :=
        List.mem_filter.2 ⟨hb, by rw [hoptional]; rfl⟩
      have hwarning : event ∈ warningsFor h k (h.attributes k) :=
        List.mem_flatMap.2 ⟨b, hmem, by rw [e]; exact List.mem_singleton_self event⟩
      rw [← hdefault]
      exact .inr ⟨isZero_fallback _, event, hwarning, hevent⟩

end

/-! ## 4. Warnings of a derivation -/

section

variable (h : Hierarchy) (package owner property : String)

/-- A class that can be created reports on its attributes, and any other class on nothing. -/
theorem events_target (k : h.Id) : (target h package owner property k).events =
    if creatable h k then (attributesOf h k).2 else [] := by
  unfold creatable
  rw [target]
  by_cases hk : (h.get k).isCreatable = true
  · rw [if_pos hk, if_pos hk]
  · rw [if_neg hk, if_neg hk]
    rfl

theorem warnings_targets (classes : List h.Id) :
    (Traced.each (target h package owner property) classes).events.filter Event.isWarning =
      (classes.takeWhile (creatable h)).flatMap fun k => warningsFor h k (h.attributes k) := by
  induction classes with
  | nil => rfl
  | cons k rest ih =>
    have hevents := events_target h package owner property k
    rw [List.takeWhile_cons]
    cases hk : creatable h k with
    | true =>
      have hresult : (target h package owner property k).result =
          .ok (targetOf h package property k) := target_ok.2 ⟨hk, rfl⟩
      rw [hk, if_pos rfl] at hevents
      rw [Traced.events_each_of_ok rest hresult, List.filter_append, ih, hevents,
        warnings_attributesOf, if_pos rfl, List.flatMap_cons]
    | false =>
      have hresult : (target h package owner property k).result = .error ⟨owner, _⟩ :=
        target_error.2 ⟨rfl, hk, rfl⟩
      rw [hk, if_neg Bool.false_ne_true] at hevents
      rw [Traced.events_each_of_error rest hresult, hevents]
      rfl

theorem warnings_relationship (slot : ChildSlot) :
    (relationship h package owner property slot).events.filter Event.isWarning =
      ((takenBy h slot).takeWhile (creatable h)).flatMap fun k =>
        warningsFor h k (h.attributes k) := by
  unfold relationship takenBy
  cases hread : readSlot h slot with
  | error cause => rfl
  | ok s =>
    rw [Traced.bind_of_ok _ rfl]
    dsimp only
    rw [Traced.events_bind_pure, ← warnings_targets h package owner property s.classes]
    rfl

/-- Nothing that a derivation reports behind its slots is a warning. -/
theorem warnings_derive (i : h.Id) : (derive h package i).events.filter Event.isWarning =
    (Traced.each (relationship h package (h.builderName i) (propertyOf h i))
      (h.children i)).events.filter Event.isWarning := by
  unfold derive
  dsimp only
  cases hslots : (Traced.each (relationship h package (h.builderName i) (propertyOf h i))
      (h.children i)).result with
  | error fault => rw [Traced.bind_of_error _ hslots]
  | ok relationships =>
    rw [Traced.bind_of_ok _ hslots]
    dsimp only
    rw [List.filter_append]
    cases firstConflict [] (functionKeys relationships) with
    | some cause => exact List.append_nil _
    | none => exact List.append_nil _

end

section

variable {h : Hierarchy} (hv : h.Valid)
include hv

/-- The warnings of some slots are those of the classes that are reached in them. If all slots can be
used, these are the classes of the targets. -/
theorem exists_reaches (package owner property : String) {slots : List ChildSlot}
    (hslots : ∀ slot ∈ slots, HasSetter slot) : ∃ classes, Reaches h slots classes ∧
      (Traced.each (relationship h package owner property) slots).events.filter Event.isWarning =
        (classes.flatMap fun k => warningsFor h k (h.attributes k)) ∧
      ∀ rs, (Traced.each (relationship h package owner property) slots).result = .ok rs →
        rs.flatMap Relationship.targets = classes.map (targetOf h package property) := by
  induction slots with
  | nil =>
    refine ⟨[], .nil, rfl, fun rs hrs => ?_⟩
    cases hrs
    rfl
  | cons slot rest ih =>
    obtain ⟨hs, hrest⟩ := List.forall_mem_cons.1 hslots
    have hin := reachedIn_takenBy hv hs
    have husable : (∃ r, (relationship h package owner property slot).result = .ok r) ↔
        Usable h slot := relationship_ok_iff hv hs
    cases hr : (relationship h package owner property slot).result with
    | error fault =>
      have hnot : ¬ Usable h slot := by
        rw [← husable, hr]
        exact fun ⟨r, e⟩ => nomatch e
      refine ⟨_, .stopped hnot hin, ?_, fun rs hrs => ?_⟩
      · rw [Traced.events_each_of_error rest hr, warnings_relationship]
      · rw [Traced.result_each_cons, hr] at hrs
        cases hrs
    | ok r =>
      obtain ⟨classes, hreaches, hevents, htargets⟩ := ih hrest
      refine ⟨_, .passed (husable.1 ⟨r, hr⟩) hin hreaches, ?_, fun rs hrs => ?_⟩
      · rw [Traced.events_each_of_ok rest hr, List.filter_append, warnings_relationship, hevents,
          List.flatMap_append]
      · rw [Traced.result_each_cons, hr] at hrs
        obtain ⟨r', e, hrs⟩ := Result.bind_ok.1 hrs
        cases e
        obtain ⟨more, hmore, e⟩ := Result.bind_ok.1 hrs
        cases e
        obtain ⟨s, hread, hcreatable, rfl⟩ := relationship_ok.1 hr
        have htaken : (takenBy h slot).takeWhile (creatable h) = s.classes := by
          unfold takenBy
          rw [hread]
          exact List.takeWhile_eq_self_iff.2 hcreatable
        rw [List.flatMap_cons, htargets more hmore, htaken, List.map_append]

/-- **The warnings of a derivation are those of the classes that it reaches**, and where a shape is
derived, these are the classes of its targets. -/
theorem warnings_of_derive (package : String) (i : h.Id) : ∃ classes,
    Reaches h (h.children i) classes ∧
    (derive h package i).events.filter Event.isWarning =
      (classes.flatMap fun k => warningsFor h k (h.attributes k)) ∧
    ∀ shape, (derive h package i).result = .ok shape →
      shape.relationships.flatMap Relationship.targets =
        classes.map (targetOf h package shape.property) := by
  obtain ⟨classes, hreaches, hevents, htargets⟩ :=
    exists_reaches hv package (h.builderName i) (propertyOf h i)
      fun slot hslot => hasSetter_of_mem_children (i := i) hv hslot
  refine ⟨classes, hreaches, (warnings_derive h package i).trans hevents, fun shape hd => ?_⟩
  obtain ⟨rs, hrs, -, rfl⟩ := derive_ok.1 hd
  dsimp only
  exact htargets rs (Traced.result_each_ok.2 hrs)

end

end BuilderGen.Builder
