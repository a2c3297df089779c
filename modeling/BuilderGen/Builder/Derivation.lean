import BuilderGen.Builder.Default
import BuilderGen.Builder.Fault
import BuilderGen.Hierarchy.Basic
import BuilderGen.Log.Traced

/-!
# Deriving the shape of a builder

The shape of the builder of a class follows from the hierarchy. Its slots are the setters for nested
elements, inherited ones included, in order. Into a slot go the concrete elements below the declared
class, or that class itself if there are none; each of them is created with its attributes, required
ones first, then the text between the tags, then the optional ones with their defaults.

The first slot that cannot be used, or the first class in it that cannot be created, stops the
derivation.
-/

namespace BuilderGen.Builder

open BuilderGen.Schema (Attribute ChildSlot HostClass)
open BuilderGen.Source (ClassRef)
open BuilderGen.Types (TypeExpression ValueType)
open BuilderGen.Log (Event Traced)

/-! ## 1. Attributes -/

/-- The name of the parameter for an attribute. -/
def parameterOf (a : Attribute) (type : ValueType) : String :=
  Name.escape (Name.parameterName (Name.getterName a.setter type.isTruthValue))

/-- The type of an attribute. -/
def valueTypeOf (a : Attribute) : ValueType := .ofDeclared a.type a.isEnum

/-- The shape of an attribute without a default. -/
def mandatory (a : Attribute) : AttributeShape :=
  { setter := a.setter, parameter := parameterOf a (valueTypeOf a), type := valueTypeOf a,
    required := true, nullable := false, default := none }

/-- What was sampled for an attribute: what its getter returned, or else what its field held. -/
def sampleOf (h : Hierarchy) (i : h.Id) (a : Attribute) : Option Data.Value :=
  let getter := Name.getterName a.setter (valueTypeOf a).isTruthValue
  (h.getterSample i getter).or ((Name.propertyOfSetter? a.setter).bind (h.fieldSample i))

/-- The default of an attribute, with a warning unless a fitting value was sampled. -/
def defaultOf (h : Hierarchy) (i : h.Id) (a : Attribute) : DefaultValue × List Event :=
  let type := valueTypeOf a
  let className := (h.get i).qualifiedName
  match sampleOf h i a with
  | none =>
    (.fallback type, [.noSample className (Name.getterName a.setter type.isTruthValue)])
  | some value =>
    match DefaultValue.ofSample? type value with
    | some default => (default, [])
    | none => (.fallback type, [.unfitSample className a.setter (Json.valueText value)])

/-- The shape of an attribute with the given default. -/
def optionalWith (a : Attribute) (default : DefaultValue) : AttributeShape :=
  let type := valueTypeOf a
  { setter := a.setter, parameter := parameterOf a type, type, required := false,
    nullable := admitsNull type default, default := some default }

/-- The shape of an optional attribute, with the events of its derivation. -/
def optional (h : Hierarchy) (i : h.Id) (a : Attribute) : AttributeShape × List Event :=
  let (default, warnings) := defaultOf h i a
  let shape := optionalWith a default
  (shape, warnings ++ [.optionalAttribute a.setter (shape.type.sourceText shape.nullable)])

/-- Whether an attribute has to be given. -/
def isMandatory (a : Attribute) : Bool := a.required || a.textContent

/-- The attributes that have to be given, in the order of the parameters. -/
def mandatoryAttributes (all : List Attribute) : List Attribute :=
  (all.filter fun a => isMandatory a && !a.textContent)
    ++ all.filter fun a => isMandatory a && a.textContent

/-- The attributes that may be left out. -/
def optionalAttributes (all : List Attribute) : List Attribute := all.filter fun a => !isMandatory a

/-- The shapes of the attributes of a class, with the events of their derivation. -/
def attributesOf (h : Hierarchy) (i : h.Id) : List AttributeShape × List Event :=
  let all := h.attributes i
  let optionals := (optionalAttributes all).map (optional h i)
  ((mandatoryAttributes all).map mandatory ++ optionals.map (·.1), optionals.flatMap (·.2))

/-! ## 2. Targets -/

/-- The class of the builder of a class. -/
def builderClass (h : Hierarchy) (package : String) (i : h.Id) : ClassRef :=
  .topLevel package (h.builderName i)

/-- The word that keeps a variable from hiding another name. -/
def localWord : String := "child"

/-- The attributes, with the one of the name `init` renamed if that name is taken. -/
def renameInit (taken : Bool) (attributes : List AttributeShape) : List AttributeShape :=
  attributes.map fun a =>
    if taken && a.parameter == initName then { a with parameter := initName ++ "Value" } else a

/-- The variable for a new instance, as it is written. It gets a word in front if its name is the
one of the wrapped instance, of a parameter, or of the configuration of a nested element. -/
def localFor (property simpleName : String) (attributes : List AttributeShape) (nests : Bool) :
    String :=
  let name := Name.instanceName simpleName
  let written := Name.escape name
  if written == property || nests && written == initName
      || attributes.any (fun a => a.parameter == written) then
    Name.escape (localWord ++ Text.capitalize name)
  else written

/-- The target for a class in a slot of a builder. -/
def target (h : Hierarchy) (package owner property : String) (i : h.Id) : Traced Fault Target :=
  let c := h.get i
  if c.isCreatable then
    let (attributes, events) := attributesOf h i
    let nests := h.takesElements i
    let attributes := renameInit nests attributes
    { events
      result := .ok {
        host := h.classRef i
        function := Name.escape (c.element.getD c.name)
        instanceName := localFor property (h.classRef i).simpleName attributes nests
        attributes
        nested := if nests then some (builderClass h package i) else none } }
  else
    let reason := if c.isAbstract then .isAbstract else .noConstructor
    .ofExcept (.error ⟨owner, .notCreatable c.qualifiedName reason⟩)

/-! ## 3. Slots -/

/-- The declared element type of a slot, and whether the slot is repeatable. -/
def elementType (slot : ChildSlot) (t : TypeExpression) : Except Cause (String × Bool) :=
  let unsupported := fun reason => Except.error (.unsupported slot.setter slot.parameter reason)
  if t.isCollection then
    match t.args with
    | [] => .error (.rawCollection slot.setter slot.parameter)
    | [element] =>
      if element.args.isEmpty then .ok (element.name, true) else unsupported .nestedGeneric
    | _ => unsupported .severalArguments
  else if t.args.isEmpty then .ok (t.name, false)
  else unsupported (.notACollection t.name)

/-- The class that a slot declares. -/
def declaredClass (h : Hierarchy) (slot : ChildSlot) (declared : String) : Except Cause h.Id :=
  match h.resolve? declared with
  | .ok i => .ok i
  | .error .missing => .error (.unknownType slot.setter declared)
  | .error (.ambiguous names) =>
    .error (.unsupported slot.setter slot.parameter (.ambiguous declared names))

/-- The concrete elements below a class. -/
def concreteElements (h : Hierarchy) (i : h.Id) : List h.Id :=
  (h.subtypes i).filter fun d => (h.get d).isElement && !(h.get d).isAbstract

/-- The classes that go into a slot: the concrete elements below the declared class, or that class
if there are none and it is an element. -/
def targetClasses (h : Hierarchy) (slot : ChildSlot) (i : h.Id) : Except Cause (List h.Id) :=
  if !(concreteElements h i).isEmpty then .ok (concreteElements h i)
  else if (h.get i).isElement then .ok [i]
  else .error (.notAnElement slot.setter (h.get i).qualifiedName)

/-- What a slot declares, before its targets are derived. -/
structure Slot (h : Hierarchy) where
  accessor : String
  repeatable : Bool
  declared : h.Id
  classes : List h.Id

/-- The reading of a slot. -/
def readSlot (h : Hierarchy) (slot : ChildSlot) : Except Cause (Slot h) :=
  let unsupported := fun reason => Except.error (.unsupported slot.setter slot.parameter reason)
  match Name.propertyOfSetter? slot.setter with
  | none => unsupported .notASetter
  | some property =>
    match TypeExpression.parse slot.parameter with
    | .error fault => unsupported (.malformed fault)
    | .ok t => do
      let (name, repeatable) ← elementType slot t
      let declared ← declaredClass h slot name
      let classes ← targetClasses h slot declared
      return ⟨Name.escape property, repeatable, declared, classes⟩

/-- The relationship that a slot gives rise to. -/
def relationship (h : Hierarchy) (package owner property : String) (slot : ChildSlot) :
    Traced Fault Relationship := do
  let s ← .ofExcept ((readSlot h slot).mapError fun cause => ⟨owner, cause⟩)
  let targets ← Traced.each (target h package owner property) s.classes
  return {
    setter := slot.setter
    accessor := s.accessor
    repeatable := s.repeatable
    declared := (h.get s.declared).qualifiedName
    targets }

/-! ## 4. Conflicts -/

/-- The name and the signature of a function, with the setter of its slot. -/
structure FunctionKey where
  function : String
  signature : List String
  setter : String
deriving DecidableEq, Repr

/-- The functions of a builder, in order. -/
def functionKeys (relationships : List Relationship) : List FunctionKey :=
  relationships.flatMap fun r => r.targets.map fun t => ⟨t.function, t.signature, r.setter⟩

/-- The first function that an earlier one already is, as a cause. Two setters are told if they
differ. -/
def firstConflict (seen : List FunctionKey) : List FunctionKey → Option Cause
  | [] => none
  | k :: rest =>
    match seen.find? fun s => s.function == k.function && s.signature == k.signature with
    | some first =>
      some (.conflict k.function
        (if first.setter = k.setter then [first.setter] else [first.setter, k.setter]))
    | none => firstConflict (seen ++ [k]) rest

/-! ## 5. Shapes -/

/-- The property that holds the instance that the builder of a class wraps, as it is written. -/
def propertyOf (h : Hierarchy) (i : h.Id) : String :=
  Name.escape (Name.instanceName (h.classRef i).simpleName)

/-- The shape of the builder of a class. -/
def derive (h : Hierarchy) (package : String) (i : h.Id) : Traced Fault Shape := do
  let owner := h.builderName i
  let property := propertyOf h i
  let relationships ← Traced.each (relationship h package owner property) (h.children i)
  match firstConflict [] (functionKeys relationships) with
  | some cause => .ofExcept (.error ⟨owner, cause⟩)
  | none => do
    let shape : Shape :=
      { builder := builderClass h package i, host := h.classRef i, property, relationships }
    Traced.report (.shapeDerived owner relationships.length shape.functionCount)
    return shape

end BuilderGen.Builder
