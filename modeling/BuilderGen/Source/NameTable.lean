import BuilderGen.Source.File
import BuilderGen.Text.Sorted

/-!
# How classes are written in a file

A class is written by its simple name, with an import if it needs one. If two classes that the file
declares or refers to have one simple name, each of them is written with its full name at every
place, and neither is imported.
-/

namespace BuilderGen.Source

/-- What a file decides about names. -/
structure NameTable where
  /-- The simple names that two classes of the file share. -/
  ambiguous : List String
  /-- The full names of the imported classes, in order. -/
  imports : List String
deriving DecidableEq, Repr

namespace NameTable

/-- The simple and the full name of each class, once. -/
def spellings (classes : List ClassRef) : List (String × String) :=
  (classes.map fun c => (c.simpleName, c.canonical)).eraseDups

/-- The simple names under which several full names are known. -/
def ambiguousNames (spellings : List (String × String)) : List String :=
  (spellings.filter fun p => spellings.any fun q => q.1 == p.1 && q.2 != p.2).map (·.1)

/-- Whether a class is known in a package without an import. -/
def isImplicit (package : String) (c : ClassRef) : Bool :=
  (c.package == package || c.package == ClassRef.builtinPackage) && c.names.length ≤ 1

/-- The names of a file. -/
def ofFile (f : File) : NameTable :=
  let ambiguous := ambiguousNames (spellings (f.declared ++ f.refs))
  let imported := f.refs.filter fun c =>
    !ambiguous.contains c.simpleName && !isImplicit f.package c
  { ambiguous, imports := Text.sortedSet (imported.map ClassRef.canonical) }

/-- How a class is written. -/
def write (t : NameTable) (c : ClassRef) : String :=
  if t.ambiguous.contains c.simpleName then c.canonical else c.simpleName

end NameTable

end BuilderGen.Source
