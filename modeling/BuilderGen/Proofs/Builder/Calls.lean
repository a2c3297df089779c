import BuilderGen.Proofs.Builder.Configuration

/-!
# How attributes are passed on

A function that creates an element takes the attributes as parameters and passes each of them to its
setter on the new instance. The attributes that have to be given come first, the text between the
tags behind the others, and then those that may be left out.

* `grouped`, `ordered_eq_grouped`: the attributes of a class in the order of the parameters;
* `Describes`, `describes_targetOf`: what is known of the shape of an attribute;
* `call?`, `call?_eq_some`: the calls that can be read off the text of a statement;
* `calls`, `calls_childFunction`: the calls in the body of a function, with the class of the instance
  on which they are made;
* `passes_on_of_derive`: the parameters of a function, and the calls that it makes with them.
-/

namespace BuilderGen.Builder

open BuilderGen.Schema (Attribute HostClass Manifest Settings)
open BuilderGen.Source (ClassRef Code Function Parameter Statement)

/-! ## 1. Attributes in groups -/

/-- **The attributes of a class in groups**: the required ones that are no text between the tags,
the text between the tags, and those that are neither required nor such a text. -/
def grouped (all : List Attribute) : List Attribute :=
  all.filter (fun a => a.required && !a.textContent) ++ all.filter (fun a => a.textContent)
    ++ all.filter fun a => !a.required && !a.textContent

/-- The parameters stand in the order of these groups. -/
theorem ordered_eq_grouped (all : List Attribute) : ordered all = grouped all := by
  have hrequired : ∀ a : Attribute,
      (isMandatory a && !a.textContent) = (a.required && !a.textContent) := by
    intro a
    unfold isMandatory
    cases a.textContent <;> simp
  have htext : ∀ a : Attribute, (isMandatory a && a.textContent) = a.textContent := by
    intro a
    unfold isMandatory
    cases a.textContent <;> simp
  have hoptional : ∀ a : Attribute, (!isMandatory a) = (!a.required && !a.textContent) := by
    intro a
    unfold isMandatory
    exact Bool.not_or _ _
  unfold ordered mandatoryAttributes optionalAttributes grouped
  simp only [hrequired, htext, hoptional]

/-- **What is known of the shape of an attribute**: its setter, its type and its parameter, and that
it has a default exactly if it may be left out. -/
structure Describes (nests : Bool) (b : Attribute) (a : AttributeShape) : Prop where
  setter : a.setter = b.setter
  type : a.type = valueTypeOf b
  parameter : a.parameter = parameterName nests b
  default : a.default.isSome = true ↔ b.required = false ∧ b.textContent = false

section

variable {h : Hierarchy} {package property : String} {c : h.Id}

theorem describes_shapeAs (nests : Bool) (b : Attribute) :
    Describes nests b (shapeAs h c b (parameterName nests b)) where
  setter := rfl
  type := rfl
  parameter := rfl
  default := by
    dsimp only [shapeAs]
    unfold isMandatory
    cases b.required <;> cases b.textContent <;> simp

/-- **The shapes of the attributes stand in the order of the groups.** -/
theorem describes_targetOf : List.Forall₂ (Describes (h.takesElements c))
    (grouped (h.attributes c)) (targetOf h package property c).attributes := by
  rw [attributes_targetOf, ordered_eq_grouped, List.forall₂_map_right_iff, List.forall₂_same]
  exact fun b _ => describes_shapeAs _ b

theorem setters_targetOf : (targetOf h package property c).attributes.map AttributeShape.setter =
    (ordered (h.attributes c)).map Attribute.setter := by
  rw [attributes_targetOf, List.map_map]
  rfl

/-- No two attributes have one setter. -/
theorem nodup_setters_targetOf :
    ((targetOf h package property c).attributes.map AttributeShape.setter).Nodup := by
  rw [setters_targetOf, ((ordered_perm _).map _).nodup_iff]
  exact Hierarchy.nodup_keys_inherited h _ _ c

end

/-! ## 2. Calls -/

/-- The function and the argument of a statement that calls a function by its name alone. The
argument has no dots, and so it is a name. -/
def call? : Statement → Option (String × String)
  | .line [.text s] =>
    let callee := s.toList.takeWhile (· != '(')
    let argument := (s.toList.drop (callee.length + 1)).dropLast
    if s.toList = callee ++ '(' :: (argument ++ [')']) ∧ Name.isIdentifierChars callee = true ∧
        '.' ∉ argument then
      some (String.ofList callee, String.ofList argument)
    else none
  | _ => none

/-- **A call can be read off its text.** -/
theorem call?_eq_some {s f x : String} : call? (.line [.text s]) = some (f, x) ↔
    s = f ++ "(" ++ x ++ ")" ∧ Name.isIdentifier f = true ∧ '.' ∉ x.toList := by
  constructor
  · intro hcall
    unfold call? at hcall
    dsimp only at hcall
    split at hcall
    · rename_i hs
      obtain ⟨hs, hcallee, hdot⟩ := hs
      obtain ⟨rfl, rfl⟩ := Prod.mk.inj (Option.some.inj hcall)
      refine ⟨?_, ?_, ?_⟩
      · rw [← String.toList_inj]
        simpa using hs
      · rw [Name.isIdentifier, String.toList_ofList]
        exact hcallee
      · rw [String.toList_ofList]
        exact hdot
    · cases hcall
  · intro hcall
    obtain ⟨hs, hcallee, hdot⟩ := hcall
    have hopen : ∀ d ∈ f.toList, (d != '(') = true := by
      intro d hd
      have hne : '(' ∉ f.toList := Name.not_mem_of_isIdentifier hcallee (by decide)
      rw [bne_iff_ne]
      exact fun e => hne (e ▸ hd)
    have hl : s.toList = f.toList ++ '(' :: (x.toList ++ [')']) := by
      rw [hs]
      simp
    have htake : s.toList.takeWhile (· != '(') = f.toList := by
      rw [hl, List.takeWhile_append_of_pos hopen]
      simp
    have hdrop : (s.toList.drop (f.toList.length + 1)).dropLast = x.toList := by
      rw [hl, ← List.drop_drop, List.drop_left]
      simp
    unfold call?
    dsimp only
    rw [htake, hdrop, if_pos ⟨hl, hcallee, hdot⟩, String.ofList_toList, String.ofList_toList]

/-- A line with a dot, and a name behind it, is no call. -/
theorem call?_of_dot (owner rest : String) : call? (.line [.text (owner ++ "." ++ rest)]) = none := by
  rw [Option.eq_none_iff_forall_ne_some]
  intro call hcall
  obtain ⟨f, x⟩ := call
  obtain ⟨hs, hcallee, hdot⟩ := call?_eq_some.1 hcall
  have hmem : '.' ∈ (owner ++ "." ++ rest).toList := by simp
  have hf : '.' ∉ f.toList := Name.not_mem_of_isIdentifier hcallee (by decide)
  rw [hs] at hmem
  simp [hf, hdot] at hmem

/-- **The calls in a body, in order.** Each of them is told with the class of the instance on which
it is made: the one that the line in front of the block creates. -/
def calls (receiver : Option ClassRef) : List Statement → List (Option ClassRef × String × String)
  | [] => []
  | .openBlock code :: rest => calls (Code.refs code).head? rest
  | .closeBlock :: rest => calls none rest
  | .line code :: rest => ((call? (.line code)).map (Prod.mk receiver)).toList ++ calls receiver rest

/-- The calls of setters are those that their texts say. -/
theorem calls_setters {receiver : Option ClassRef} {attributes : List AttributeShape}
    (hsetter : ∀ a ∈ attributes, Name.isIdentifier a.setter = true)
    (hparameter : ∀ a ∈ attributes, '.' ∉ a.parameter.toList) (rest : List Statement) :
    calls receiver (attributes.map (fun a => .line [.text (a.setter ++ "(" ++ a.parameter ++ ")")])
        ++ rest) =
      attributes.map (fun a => (receiver, a.setter, a.parameter)) ++ calls receiver rest := by
  induction attributes with
  | nil => rfl
  | cons a attributes ih =>
    obtain ⟨hs, hsetter⟩ := List.forall_mem_cons.1 hsetter
    obtain ⟨hp, hparameter⟩ := List.forall_mem_cons.1 hparameter
    have hcall := call?_eq_some.2 ⟨rfl, hs, hp⟩
    rw [List.map_cons, List.cons_append, calls, hcall, ih hsetter hparameter]
    rfl

/-- A body calls the setters on the new instance, and nothing else by its name alone. -/
theorem calls_body {property : String} {r : Relationship} {t : Target}
    (hsetter : ∀ a ∈ t.attributes, Name.isIdentifier a.setter = true)
    (hparameter : ∀ a ∈ t.attributes, '.' ∉ a.parameter.toList) :
    calls none (childFunction property r t).body =
      t.attributes.map fun a => (some t.host, a.setter, a.parameter) := by
  have hattachment : call? (attachment property r t) = none := by
    unfold attachment
    cases r.repeatable with
    | false =>
      have hdot := call?_of_dot property (r.accessor ++ " = " ++ t.instanceName)
      simpa [String.append_assoc] using hdot
    | true =>
      have hdot := call?_of_dot property (r.accessor ++ ".add(" ++ t.instanceName ++ ")")
      simpa [String.append_assoc] using hdot
  have hlast : calls none [attachment property r t] = [] := by
    show ((call? (attachment property r t)).map (Prod.mk none)).toList ++ [] = []
    rw [hattachment]
    rfl
  have hrest : calls none ((t.nested.map (configuration · t.instanceName)).toList ++
      [attachment property r t]) = [] := by
    cases t.nested with
    | none => exact hlast
    | some b => exact hlast
  show calls none (creation t ++ (t.nested.map (configuration · t.instanceName)).toList ++
    [attachment property r t]) = _
  rw [List.append_assoc]
  unfold creation
  cases hattributes : t.attributes with
  | nil => exact hrest
  | cons a attributes =>
    rw [← hattributes]
    have hne : t.attributes.isEmpty = false := by rw [hattributes]; rfl
    dsimp only
    rw [hne, if_neg Bool.false_ne_true, List.cons_append, List.cons_append, List.append_assoc]
    have hreceiver : (Code.refs ([.text ("val " ++ t.instanceName ++ " = "), .ref t.host,
        .text "()"] ++ [.text ".apply"])).head? = some t.host := rfl
    rw [calls, hreceiver, calls_setters hsetter hparameter, List.singleton_append, calls, hrest,
      List.append_nil]

/-! ## 3. Functions -/

/-- **How a function passes the attributes of a class on.** Its parameters are the attributes in
groups, and then the configuration of nested elements if there is one; none without a default stands
behind one with a default. Its calls are those of the setters on the new instance, each with the
parameter of its attribute, in the same order. -/
structure PassesOn (h : Hierarchy) (c : h.Id) (t : Target) (f : Function) : Prop where
  describes : List.Forall₂ (Describes t.nested.isSome) (grouped (h.attributes c)) t.attributes
  perm : (grouped (h.attributes c)).Perm (h.attributes c)
  nodup : (t.attributes.map AttributeShape.setter).Nodup
  parameters : f.parameters.map (fun p => (p.name, p.default.isSome)) =
    t.attributes.map (fun a => (a.parameter, a.default.isSome)) ++
      if t.nested.isSome then [(initName, true)] else []
  defaultsLast : f.parameters.Pairwise fun p q => p.default.isSome = true → q.default.isSome = true
  calls : calls none f.body = t.attributes.map fun a => (some t.host, a.setter, a.parameter)

section

variable {h : Hierarchy} {package property : String} {c : h.Id}

/-- No parameter for an attribute has a dot. -/
theorem dot_not_mem_parameterName (hv : h.Valid) {nests : Bool} {b : Attribute}
    (hb : b ∈ h.attributes c) : '.' ∉ (parameterName nests b).toList := by
  obtain ⟨word, hs, hword⟩ := hv.property_of_attribute hb
  have hdot : '.' ∉ word.toList := Name.not_mem_of_isIdentifier hword (by decide)
  have hplain : '.' ∉ (parameterWord b).toList := by
    rw [parameterWord_eq hs]
    split
    · simp [hdot]
    · exact Text.dot_not_mem_decapitalize hdot
  refine Name.dot_not_mem_escape ?_
  unfold giveWay
  split
  · decide
  · exact hplain

theorem calls_childFunction (hv : h.Valid) (r : Relationship) :
    calls none (childFunction property r (targetOf h package property c)).body =
      (targetOf h package property c).attributes.map fun a =>
        (some (h.classRef c), a.setter, a.parameter) := by
  have hhost : (targetOf h package property c).host = h.classRef c := by simp only [targetOf]
  rw [← hhost]
  refine calls_body (fun a ha => ?_) fun a ha => ?_
  · obtain ⟨b, hb, rfl⟩ := exists_attribute_of_mem ha
    obtain ⟨word, hs, hword⟩ := hv.property_of_attribute hb
    show Name.isIdentifier b.setter = true
    rw [hs]
    exact Name.isIdentifier_append (by decide) hword
  · obtain ⟨b, hb, rfl⟩ := exists_attribute_of_mem ha
    exact dot_not_mem_parameterName hv hb

theorem parameters_of_attributes {t : Target} (property : String) (r : Relationship) :
    (childFunction property r t).parameters.map (fun p => (p.name, p.default.isSome)) =
      t.attributes.map (fun a => (a.parameter, a.default.isSome)) ++
        if t.nested.isSome then [(initName, true)] else [] := by
  have hattributes : (t.attributes.map AttributeShape.declaration).map
      (fun p => (p.name, p.default.isSome)) =
        t.attributes.map fun a => (a.parameter, a.default.isSome) := by
    rw [List.map_map]
    refine List.map_congr_left fun a _ => ?_
    rw [Function.comp_apply, AttributeShape.declaration, Option.isSome_map]
  rw [childFunction, List.map_append, hattributes]
  cases t.nested <;> rfl

/-- No parameter without a default stands behind one with a default. -/
theorem defaultsLast_childFunction (r : Relationship) :
    (childFunction property r (targetOf h package property c)).parameters.Pairwise fun p q =>
      p.default.isSome = true → q.default.isSome = true := by
  have hmap := congrArg (List.map Prod.snd)
    (parameters_of_attributes (t := targetOf h package property c) property r)
  rw [List.map_append, List.map_map, List.map_map] at hmap
  have hdefaults : (targetOf h package property c).attributes.map
      (Prod.snd ∘ fun a => (a.parameter, a.default.isSome)) = _ := defaults_targetOf
  rw [hdefaults] at hmap
  have hpairs : ((childFunction property r (targetOf h package property c)).parameters.map
      (Prod.snd ∘ fun p => (p.name, p.default.isSome))).Pairwise
        fun x y => x = true → y = true := by
    rw [hmap, List.pairwise_append, List.pairwise_append]
    refine ⟨⟨?_, ?_, ?_⟩, ?_, ?_⟩
    · exact List.pairwise_map.2 (List.pairwise_of_forall fun _ _ => id)
    · exact List.pairwise_map.2 (List.pairwise_of_forall fun _ _ => id)
    · intro x hx y _ e
      obtain ⟨_, _, rfl⟩ := List.mem_map.1 hx
      cases e
    · split
      · exact List.pairwise_singleton _ _
      · exact List.Pairwise.nil
    · intro x _ y hy _
      split at hy
      · cases List.mem_singleton.1 hy
        rfl
      · cases hy
  exact List.pairwise_map.1 hpairs

end

/-- **Every function of a builder passes all attributes of the created class on**, the required ones
first, the text between the tags behind them, and those with a default at the end. -/
theorem passes_on_of_derive {m : Manifest} {h : Hierarchy} (hm : Hierarchy.build m = .ok h)
    {package : String} {i : h.Id} {shape : Shape} (hd : (derive h package i).result = .ok shape)
    {r : Relationship} (hr : r ∈ shape.relationships) {t : Target} (ht : t ∈ r.targets) :
    ∃ c, h.classRef c = t.host ∧ PassesOn h c t (childFunction shape.property r t) := by
  have hv := Hierarchy.valid_of_build hm
  obtain ⟨c, -, -, rfl⟩ := exists_class_of_target hd hr ht
  refine ⟨c, rfl, ?_⟩
  exact {
    describes := by
      rw [isSome_nested_targetOf]
      exact describes_targetOf
    perm := by
      rw [← ordered_eq_grouped]
      exact ordered_perm _
    nodup := nodup_setters_targetOf
    parameters := parameters_of_attributes shape.property r
    defaultsLast := defaultsLast_childFunction r
    calls := calls_childFunction hv r }

/-! ## 4. A letter -/

/-- A mailbox with a letter, which takes a stamp. The body of a letter is the text between its tags
and required as well. -/
def mailbox : Manifest := ⟨Settings.default, [
  { HostClass.plain "p" "Mailbox" with
    element := some "mailbox", children := [⟨"setLetter", "Letter"⟩] },
  { HostClass.plain "p" "Letter" with
    element := some "letter", children := [⟨"setStamp", "Stamp"⟩],
    attributes := [⟨"setPages", "int", false, false, false⟩, ⟨"setBody", "String", false, true, true⟩,
      ⟨"setUrgent", "boolean", false, false, false⟩, requiredText "setSender"] },
  { HostClass.plain "p" "Stamp" with element := some "stamp" }]⟩

/-- The hierarchy of these classes. -/
def mailboxHierarchy : Hierarchy := .ofLineages mailbox.classes [[0], [1], [2]]

/-- What the function for the letter is written from. -/
def letterTarget : Target := ⟨⟨"p", ["Letter"]⟩, "letter", "letter", [
  ⟨"setSender", "sender", .text, true, false, none⟩,
  ⟨"setBody", "body", .text, true, false, none⟩,
  ⟨"setPages", "pages", .primitive .int, false, false, some (.literal "0")⟩,
  ⟨"setUrgent", "isUrgent", .primitive .boolean, false, false, some (.literal "false")⟩],
  some (.topLevel "d" "LetterSpec")⟩

/-- The slot of the letter. -/
def letterSlot : Relationship := ⟨"setLetter", "letter", false, "p.Letter", [letterTarget]⟩

/-- The shape of the builder of the mailbox. -/
def mailboxShape : Shape :=
  ⟨.topLevel "d" "MailboxSpec", ⟨"p", ["Mailbox"]⟩, "mailbox", [letterSlot]⟩

theorem build_mailbox : Hierarchy.build mailbox = .ok mailboxHierarchy :=
  Hierarchy.build_of_lineages (by decide) (by decide) (by decide) rfl

theorem derive_mailbox :
    (derive mailboxHierarchy "d" (0 : Fin 3)).result = .ok mailboxShape := by
  decide +kernel

/-- The sender and the body of a letter have to be given, and are set in this order. -/
theorem passes_on_letter :
    Hierarchy.build mailbox = .ok mailboxHierarchy ∧
    (derive mailboxHierarchy "d" (0 : Fin 3)).result = .ok mailboxShape ∧
    letterSlot ∈ mailboxShape.relationships ∧ letterTarget ∈ letterSlot.targets ∧
    ∃ c, mailboxHierarchy.classRef c = letterTarget.host ∧
      PassesOn mailboxHierarchy c letterTarget
        (childFunction mailboxShape.property letterSlot letterTarget) := by
  have hr : letterSlot ∈ mailboxShape.relationships := List.mem_singleton_self _
  have ht : letterTarget ∈ letterSlot.targets := List.mem_singleton_self _
  exact ⟨build_mailbox, derive_mailbox, hr, ht,
    passes_on_of_derive build_mailbox derive_mailbox hr ht⟩

end BuilderGen.Builder
