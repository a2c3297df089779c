import BuilderGen.Generation
import BuilderGen.Storage.Basic
import BuilderGen.Toml.Reader

/-!
# Runs on a file system

A run loads a manifest, generates all its sources in memory, and only then writes the first of them.
The first file that cannot be written stops the run.
-/

namespace BuilderGen.Run

open BuilderGen.Builder (Fault)
open BuilderGen.Generation (GeneratedFile)
open BuilderGen.Log (Event Traced)
open BuilderGen.Schema (Manifest SchemaError Settings)
open BuilderGen.Storage (SystemError)

variable {m : Type → Type} [Monad m]

/-! ## 1. Loading -/

/-- The manifest that a text describes, by the extension of its path. -/
def parse (path text : String) : Except SchemaError Manifest :=
  match Path.extension? path with
  | some "toml" => Manifest.ofToml text
  | some "json" => Manifest.ofJson text
  | _ => .error (.unsupportedFormat path)

/-- The manifest in a file. The file is read before its extension is looked at. -/
def load (st : Storage m) (path : String) : m (Except SchemaError Manifest) := do
  match ← st.readText path with
  | .error cause => return .error (.unreadable path cause)
  | .ok text => return parse path text

/-! ## 2. Writing -/

/-- Why a file was not written. -/
inductive WriteError where
  | createDirectory (typeName path : String) (cause : SystemError)
  | writeText (typeName path : String) (cause : SystemError)
deriving DecidableEq, Repr

namespace WriteError

/-- The cause behind a fault. -/
def cause : WriteError → SystemError
  | .createDirectory _ _ cause => cause
  | .writeText _ _ cause => cause

/-- The wording of a fault. -/
def message : WriteError → String
  | .createDirectory t path cause =>
    t ++ ": cannot create directory " ++ path ++ ": " ++ cause.message
  | .writeText t path cause => t ++ ": cannot write " ++ path ++ ": " ++ cause.message

end WriteError

/-- Writes a file, and returns its path. -/
def writeFile (st : Storage m) (s : Settings) (f : GeneratedFile) :
    m (Except WriteError String) := do
  match ← st.createDirectories s.directory with
  | .error cause => return .error (.createDirectory f.typeName s.directory cause)
  | .ok () =>
    let path := s.artifactPath f.typeName
    match ← st.writeText path f.source with
    | .error cause => return .error (.writeText f.typeName path cause)
    | .ok () => return .ok path

/-- What became of a row of files. -/
structure Written where
  /-- The paths of the files that were written, in order. -/
  paths : List String
  /-- What stopped the writing. -/
  fault : Option WriteError
deriving DecidableEq, Repr

/-- Writes files up to the first one that cannot be written. -/
def writeFiles (st : Storage m) (s : Settings) : List GeneratedFile → m Written
  | [] => return ⟨[], none⟩
  | f :: rest => do
    match ← writeFile st s f with
    | .error e => return ⟨[], some e⟩
    | .ok path =>
      let later ← writeFiles st s rest
      return ⟨path :: later.paths, later.fault⟩

/-! ## 3. Whole runs -/

/-- What stops a run. -/
inductive Failure where
  | schema (e : SchemaError)
  | writing (e : WriteError)
deriving DecidableEq, Repr

/-- What a run produced. -/
structure Summary where
  /-- The paths of the written files, in order. -/
  written : List String
  failures : List Fault
  /-- The number of functions in the written files. -/
  functions : Nat
deriving DecidableEq, Repr

/-- Whether every element has its builder written. -/
def Summary.isSuccess (s : Summary) : Bool := s.failures.isEmpty

/-- Generates the sources of a manifest and writes them. -/
def execute (st : Storage m) (manifest : Manifest) (s : Settings) : m (Traced Failure Summary) := do
  let checked := Generation.check manifest s
  match checked.result with
  | .error e => return ⟨checked.events, .error (.schema e)⟩
  | .ok report => do
    let written ← writeFiles st s report.files
    let events := checked.events ++ written.paths.map .artifactWritten
    match written.fault with
    | some e => return ⟨events, .error (.writing e)⟩
    | none =>
      let finished := Event.generationFinished written.paths.length report.failures.length
        s.directory
      return ⟨events ++ [finished], .ok ⟨written.paths, report.failures, report.functionCount⟩⟩

end BuilderGen.Run
