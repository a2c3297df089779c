import BuilderGen.CommandLine.Commands

/-!
# The program

The file system of the machine in place of the model of one, and the two output streams. Everything
else is decided before the first line is written.
-/

namespace BuilderGen.Program

open BuilderGen.CommandLine (Output)
open BuilderGen.Storage (SystemError)

/-- The number and the words of the system behind a failure, if it came from the system. -/
def systemCause? : IO.Error → Option (UInt32 × String)
  | .alreadyExists _ code details => some (code, details)
  | .otherError code details => some (code, details)
  | .resourceBusy code details => some (code, details)
  | .resourceVanished code details => some (code, details)
  | .unsupportedOperation code details => some (code, details)
  | .hardwareFault code details => some (code, details)
  | .unsatisfiedConstraints code details => some (code, details)
  | .illegalOperation code details => some (code, details)
  | .protocolError code details => some (code, details)
  | .timeExpired code details => some (code, details)
  | .interrupted _ code details => some (code, details)
  | .noFileOrDirectory _ code details => some (code, details)
  | .invalidArgument _ code details => some (code, details)
  | .permissionDenied _ code details => some (code, details)
  | .resourceExhausted _ code details => some (code, details)
  | .inappropriateType _ code details => some (code, details)
  | .noSuchThing _ code details => some (code, details)
  | .unexpectedEof => none
  | .userError _ => none

/-- The fault that a failure stands for. -/
def systemError (e : IO.Error) : SystemError :=
  match systemCause? e with
  | none => .other e.toString
  | some (2, _) => .notFound
  | some (17, _) => .exists
  | some (20, _) => .notADirectory
  | some (21, _) => .isADirectory
  | some (36, _) => .nameTooLong
  | some (39, _) => .notEmpty
  | some (code, details) => .other (details ++ " (os error " ++ toString code ++ ")")

/-- An operation whose failure is a result. -/
def attempt {α : Type} (operation : IO α) : IO (Except SystemError α) := do
  match ← operation.toBaseIO with
  | .ok a => return .ok a
  | .error e => return .error (systemError e)

/-- The text of a file. -/
def readText (path : String) : IO (Except SystemError String) := do
  match ← attempt (IO.FS.readBinFile path) with
  | .error e => return .error e
  | .ok content =>
    match String.fromUTF8? content with
    | some s => return .ok s
    | none => return .error .notText

/-- The file system of the machine. -/
def machineStorage : Storage IO where
  readText := readText
  createDirectories path :=
    if path.isEmpty then return .ok () else attempt (IO.FS.createDirAll path)
  writeText path text := attempt (IO.FS.writeFile path text)

/-- Writes a line to the stream that it is meant for. -/
def write : Output → IO Unit
  | .out line => IO.println line
  | .err line => IO.eprintln line
  | .log event => IO.eprintln event.line

end BuilderGen.Program

/-- Runs the command line. The environment may hold a filter for the log. -/
def main (arguments : List String) : IO UInt32 := do
  let filter ← IO.getEnv "RUST_LOG"
  let outcome ← BuilderGen.CommandLine.execute BuilderGen.Program.machineStorage filter arguments
  outcome.output.forM BuilderGen.Program.write
  return outcome.status.toUInt32
