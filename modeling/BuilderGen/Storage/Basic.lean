import BuilderGen.Storage.Error

/-!
# What a run needs of a file system

A run reads one file, creates one directory with its ancestors, and writes files into it. These are
all the operations it has; each of them may fail. The operations live in any monad, so a run can be
followed on a model of a file system as well as done on a real one.
-/

namespace BuilderGen

open BuilderGen.Storage (SystemError)

/-- The operations of a file system. -/
structure Storage (m : Type → Type) where
  /-- The text of a file. -/
  readText : String → m (Except SystemError String)
  /-- Creates a directory, and its ancestors where they are missing. -/
  createDirectories : String → m (Except SystemError Unit)
  /-- Writes a file, in place of one that is there. -/
  writeText : String → String → m (Except SystemError Unit)

end BuilderGen
