import BuilderGen.Text.CaseProperty
import BuilderGen.Text.Segments

/-!
# References to classes

A class is referred to by its package and the chain of its names, the innermost last. Where only a
qualified name is known, the package ends in front of the first segment with a capital letter.
-/

namespace BuilderGen.Source

/-- A class, by its package and the names from the outermost class inward. -/
structure ClassRef where
  package : String
  names : List String
deriving DecidableEq, Inhabited, Repr

namespace ClassRef

/-- The package whose classes need no import. -/
def builtinPackage : String := "kotlin"

/-- A class that is not nested. -/
def topLevel (package name : String) : ClassRef := ⟨package, [name]⟩

/-- A class that needs no import. -/
def builtin (name : String) : ClassRef := topLevel builtinPackage name

/-- Whether a segment starts with a capital letter. -/
def isClassSegment (s : String) : Bool := s.toList.head?.any Text.isUppercase

/-- The number of segments in front of the first class: those without a capital letter at their
front, but never all of them. -/
def packageLength (segments : List String) : Nat :=
  (segments.findIdx? isClassSegment).getD (segments.length - 1)

/-- The class with a qualified name. -/
def ofQualified (name : String) : ClassRef :=
  let segments := Text.segments name
  let n := packageLength segments
  ⟨Text.joinDots (segments.take n), segments.drop n⟩

/-- The innermost name. -/
def simpleName (c : ClassRef) : String := c.names.getLast?.getD ""

/-- The name inside the package. -/
def nestedName (c : ClassRef) : String := Text.joinDots c.names

/-- The name with the package. -/
def canonical (c : ClassRef) : String :=
  if c.package.isEmpty then c.nestedName else c.package ++ "." ++ c.nestedName

end ClassRef

end BuilderGen.Source
