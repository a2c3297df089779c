import BuilderGen.Hierarchy.Lineage
import BuilderGen.Hierarchy.Reference
import BuilderGen.Name.Derived
import BuilderGen.Schema.Check
import BuilderGen.Source.ClassRef

/-!
# The class hierarchy of a schema

The hierarchy is built once from the classes of a schema. It answers which classes extend a class,
and which marked setters and samples a class has, inherited ones included. Every reference between
classes is checked when it is built.
-/

namespace BuilderGen

open BuilderGen.Schema
open BuilderGen.Hierarchy (ReferenceFault)

/-- The classes of a schema, with the lineage of each and the classes below it. -/
structure Hierarchy where
  classes : List HostClass
  lineages : Vector (List (Fin classes.length)) classes.length
  descendants : Vector (List (Fin classes.length)) classes.length

namespace Hierarchy

/-! ## 1. Building -/

/-- The fault of a supertype reference that does not mean a class. -/
def supertypeFault (className reference : String) : ReferenceFault → SchemaError
  | .missing => .unresolvedType className reference
  | .ambiguous names => .ambiguousType reference names

/-- The check that references mean classes. -/
def checkReferences (classes : List HostClass) (className : String) :
    List String → Except SchemaError Unit
  | [] => .ok ()
  | r :: rest =>
    match resolve classes r with
    | .ok _ => checkReferences classes className rest
    | .error e => .error (supertypeFault className r e)

/-- The check of the supertypes of some classes. -/
def checkSupertypes (classes : List HostClass) : List HostClass → Except SchemaError Unit
  | [] => .ok ()
  | c :: rest => do
    checkReferences classes c.qualifiedName c.supertypes
    checkSupertypes classes rest

/-- The direct supertypes of a class. References without a meaning have none. -/
def parents (classes : List HostClass) (i : Fin classes.length) : List (Fin classes.length) :=
  (classes.get i).supertypes.filterMap fun r => (resolve classes r).toOption

/-- The name of the builder of a class. -/
def builderNameOf (c : HostClass) : String := Name.builderName c.outerName c.name

/-- The check that no two elements have one builder name, behind elements with the given builder
names and full names. -/
def checkBuilderNames (seen : List (String × String)) : List HostClass → Except SchemaError Unit
  | [] => .ok ()
  | c :: rest =>
    if c.isElement then
      match seen.lookup (builderNameOf c) with
      | some first =>
        .error (.generatedNameCollision (builderNameOf c) first c.qualifiedName)
      | none => checkBuilderNames ((builderNameOf c, c.qualifiedName) :: seen) rest
    else checkBuilderNames seen rest

/-- The hierarchy of a schema. -/
def build (m : Manifest) : Except SchemaError Hierarchy := do
  m.check
  checkSupertypes m.classes m.classes
  let direct := Vector.ofFn (parents m.classes)
  match Lineage.table direct.get with
  | .error i => .error (.inheritanceCycle (m.classes.get i).qualifiedName)
  | .ok lineages => do
    checkBuilderNames [] m.classes
    return ⟨m.classes, lineages, Lineage.descendants lineages⟩

/-! ## 2. Classes -/

/-- The position of a class. -/
abbrev Id (h : Hierarchy) := Fin h.classes.length

/-- The class at a position. -/
def get (h : Hierarchy) (i : h.Id) : HostClass := h.classes.get i

/-- The number of classes. -/
def size (h : Hierarchy) : Nat := h.classes.length

/-- The positions of all classes, in order. -/
def ids (h : Hierarchy) : List h.Id := List.finRange h.classes.length

/-- The elements, in order. -/
def elements (h : Hierarchy) : List h.Id := h.ids.filter fun i => (h.get i).isElement

/-- The class that a reference means. -/
def resolve? (h : Hierarchy) (reference : String) : Except ReferenceFault h.Id :=
  resolve h.classes reference

/-- The ancestors of a class and, last, the class itself. -/
def lineage (h : Hierarchy) (i : h.Id) : List h.Id := h.lineages.get i

/-- The classes below a class, in order. -/
def subtypes (h : Hierarchy) (i : h.Id) : List h.Id := h.descendants.get i

/-! ## 3. Members -/

/-- Members with one more, which takes the place of a member with the same key. -/
def override {α : Type} (key : α → String) (m : α) : List α → List α
  | [] => [m]
  | a :: rest => if key a = key m then m :: rest else a :: override key m rest

/-- The members that the classes of a lineage declare, in order of their first declaration. -/
def inherited {α : Type} (h : Hierarchy) (key : α → String) (members : HostClass → List α)
    (i : h.Id) : List α :=
  ((h.lineage i).flatMap fun a => members (h.get a)).foldl (fun all m => override key m all) []

/-- The setters for plain values, inherited ones included. -/
def attributes (h : Hierarchy) (i : h.Id) : List Attribute :=
  h.inherited Attribute.setter HostClass.attributes i

/-- The setters for nested elements, inherited ones included. -/
def children (h : Hierarchy) (i : h.Id) : List ChildSlot :=
  h.inherited ChildSlot.setter HostClass.children i

/-- Whether a class takes nested elements. -/
def takesElements (h : Hierarchy) (i : h.Id) : Bool :=
  (h.lineage i).any fun a => !(h.get a).children.isEmpty

/-- The value recorded under a name by the nearest class of the lineage. -/
def sampled (h : Hierarchy) (table : Sample → List (String × Data.Value)) (name : String)
    (i : h.Id) : Option Data.Value :=
  (h.lineage i).reverse.findSome? fun a => (table (h.get a).sample).lookup name

/-- What a getter returned on a fresh instance. -/
def getterSample (h : Hierarchy) (i : h.Id) (getter : String) : Option Data.Value :=
  h.sampled Sample.getters getter i

/-- What a field held on a fresh instance. -/
def fieldSample (h : Hierarchy) (i : h.Id) (field : String) : Option Data.Value :=
  h.sampled Sample.fields field i

/-! ## 4. Names -/

/-- The name of the builder of a class. -/
def builderName (h : Hierarchy) (i : h.Id) : String := builderNameOf (h.get i)

/-- The reference to a class. -/
def classRef (h : Hierarchy) (i : h.Id) : Source.ClassRef :=
  let c := h.get i
  ⟨c.package, (c.enclosing.map Text.segments).getD [] ++ [c.name]⟩

/-! ## 5. The entry point -/

/-- The class itself if it is an element, else its nearest ancestor that is one. -/
def nearestElement (h : Hierarchy) (i : h.Id) : Option h.Id :=
  (h.lineage i).reverse.find? fun a => (h.get a).isElement

/-- The root class of an entry point, and the element whose builder configures it. -/
def entryPoint (h : Hierarchy) (e : EntryPoint) : Except SchemaError (h.Id × h.Id) :=
  match h.resolve? e.root with
  | .error fault => .error (supertypeFault ("entry point " ++ e.function) e.root fault)
  | .ok root =>
    match h.nearestElement root with
    | none => .error (.entryNotAnElement (h.get root).qualifiedName)
    | some element =>
      if (h.get root).isCreatable then .ok (root, element)
      else .error (.settings (.entryRoot (h.get root).qualifiedName))

end Hierarchy

end BuilderGen
