/-!
# Faults of a file system

Why an operation on a file or a directory fails, and how the system words it.
-/

namespace BuilderGen.Storage

/-- Why an operation on a file or directory failed. -/
inductive SystemError where
  | notFound
  | exists
  | notADirectory
  | isADirectory
  | notEmpty
  | nameTooLong
  | nulInPath
  /-- The file is not text. -/
  | notText
  /-- The directories could not all be created. -/
  | incompleteTree
  /-- Any other failure, in the words of the system. -/
  | other (message : String)
deriving DecidableEq, Repr

namespace SystemError

/-- The words of the system. -/
def message : SystemError → String
  | .notFound => "No such file or directory (os error 2)"
  | .exists => "File exists (os error 17)"
  | .notADirectory => "Not a directory (os error 20)"
  | .isADirectory => "Is a directory (os error 21)"
  | .notEmpty => "Directory not empty (os error 39)"
  | .nameTooLong => "File name too long (os error 36)"
  | .nulInPath => "file name contained an unexpected NUL byte"
  | .notText => "stream did not contain valid UTF-8"
  | .incompleteTree => "failed to create whole tree"
  | .other message => message

end SystemError

end BuilderGen.Storage
