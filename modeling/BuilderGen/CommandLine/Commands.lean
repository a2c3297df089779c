import BuilderGen.CommandLine.Arguments
import BuilderGen.Log.Filter
import BuilderGen.Run

/-!
# The commands

`check` loads a manifest and generates all sources without writing them; `generate` writes them. A
command says what it does, lists what could not be generated, and ends with the status zero only if
everything was.

A relative output directory in a manifest is meant from the place of the manifest; one on the
command line is taken as it is.
-/

namespace BuilderGen.CommandLine

open BuilderGen.Builder (Fault)
open BuilderGen.Run (Failure)
open BuilderGen.Log (Event Filter)
open BuilderGen.Schema (Manifest SchemaError Settings)

variable {m : Type → Type} [Monad m]

/-! ## 1. Output -/

/-- Something that a command writes. -/
inductive Output where
  /-- A line of the output. -/
  | out (line : String)
  /-- A line of the error output. -/
  | err (line : String)
  /-- An event in the log, which is part of the error output. -/
  | log (event : Event)
deriving DecidableEq, Repr

/-- What a command wrote, and how it ended. -/
structure Outcome where
  output : List Output
  status : Nat
deriving DecidableEq, Repr

/-- What a filter shows of a log. -/
def logged (f : Filter) (events : List Event) : List Output :=
  (events.filter f.shows).map .log

/-! ## 2. Errors -/

/-- A cause with its further lines moved below the first. -/
def indented (first following : String) (cause : String) : String :=
  let broken := cause.toList.flatMap fun c => if c = '\n' then '\n' :: following.toList else [c]
  first ++ String.ofList broken

/-- The lines for causes that are numbered. -/
def numberedCauses (n : Nat) : List String → List String
  | [] => []
  | c :: rest =>
    indented ("    " ++ toString n ++ ": ") "       " c :: numberedCauses (n + 1) rest

/-- The lines for an error: what was being done, and what went wrong. The cause is numbered if a
further one lies behind it. -/
def errorLines (context : String) (cause : String) (hasFurther : Bool) (further : Option String) :
    List Output :=
  let causes :=
    if hasFurther then numberedCauses 0 (cause :: further.toList)
    else [indented "    " "    " cause]
  (("Error: " ++ context) :: "" :: "Caused by:" :: causes).map .err

/-- The lines for a fault of a schema. -/
def schemaErrorLines (context : String) (e : SchemaError) : List Output :=
  errorLines context e.message e.hasCause e.cause?

/-- The lines for what stopped a run. -/
def runErrorLines (context : String) : Failure → List Output
  | .schema e => schemaErrorLines context e
  | .writing e => errorLines context e.message true (some e.cause.message)

/-- The lines for builders that could not be generated. -/
def failureLines (title : String) (failures : List Fault) : List Output :=
  .err "" :: .err title :: failures.map fun f => .err ("  - " ++ f.message)

/-! ## 3. Settings -/

/-- The output directory of a manifest, as it is meant from the place of the manifest. -/
def resolvedOutput (manifestPath outputDir : String) : String :=
  if Path.isAbsolute outputDir then outputDir
  else
    match Path.parent? manifestPath with
    | some dir => Path.join dir outputDir
    | none => outputDir

/-- The settings of a manifest, with what the command line overrides. -/
def effectiveSettings (s : Settings) (manifestPath : String) (output package : Option String) :
    Settings :=
  { s with
    outputDir := output.getD (resolvedOutput manifestPath s.outputDir)
    package := package.getD s.package }

/-- The event that tells the settings of a run. -/
def settingsEvent (s : Settings) : Event := .settingsChosen s.package s.outputDir s.fileExtension

/-! ## 4. Commands -/

/-- The context of a manifest that cannot be loaded. -/
def loadContext (path : String) : String := "Failed to load manifest: " ++ path

/-- What `check` writes for a manifest that was loaded. -/
def checkLoaded (f : Filter) (path : String) (manifest : Manifest) : Outcome :=
  let s := effectiveSettings manifest.settings path none none
  let checked := Generation.check manifest s
  let log := logged f (settingsEvent s :: checked.events)
  match checked.result with
  | .error e => ⟨log ++ schemaErrorLines "Manifest is invalid" e, 1⟩
  | .ok report =>
    let counts := [
      "✓ Classes: " ++ toString manifest.classes.length,
      "✓ Elements: " ++ toString manifest.elementCount,
      "✓ Abstract types: " ++ toString (manifest.classes.countP (·.isAbstract)),
      "✓ Builder functions: " ++ toString report.functionCount]
    let shown := log ++ counts.map .out
    if report.isComplete then ⟨shown ++ [.out "", .out "Manifest is valid!"], 0⟩
    else
      let count := toString report.failures.length
      ⟨shown ++ failureLines ("✗ Failures: " ++ count) report.failures
        ++ [.err ("Error: " ++ count ++ " types cannot be generated")], 1⟩

/-- Checks a manifest. -/
def check (st : Storage m) (f : Filter) (path : String) : m Outcome := do
  let title := Output.out ("Checking manifest: " ++ path)
  match ← Run.load st path with
  | .error e => return ⟨title :: schemaErrorLines (loadContext path) e, 1⟩
  | .ok manifest =>
    let outcome := checkLoaded f path manifest
    return ⟨title :: outcome.output, outcome.status⟩

/-- What `generate` writes behind its title for a run that came to its end. -/
def summaryOutcome (summary : Run.Summary) : Outcome :=
  let wrote := "✓ Wrote " ++ toString summary.written.length ++ " files ("
    ++ toString summary.functions ++ " builder functions)"
  if summary.isSuccess then ⟨[.out wrote], 0⟩
  else
    let count := toString summary.failures.length
    ⟨.out wrote :: failureLines ("✗ " ++ count ++ " types could not be generated:") summary.failures
      ++ [.err ("Error: " ++ count ++ " of the configuration elements failed")], 1⟩

/-- Generates the sources of a manifest. -/
def generate (st : Storage m) (f : Filter) (path : String) (output package : Option String) :
    m Outcome := do
  match ← Run.load st path with
  | .error e => return ⟨schemaErrorLines (loadContext path) e, 1⟩
  | .ok manifest => do
    let s := effectiveSettings manifest.settings path output package
    let title := [
      "Generating Kotlin DSL from " ++ path,
      "  Package: " ++ s.package,
      "  Output:  " ++ s.outputDir]
    let opening := logged f [settingsEvent s] ++ title.map .out
      ++ logged f [.manifestLoaded path manifest.classes.length]
    let run ← Run.execute st manifest s
    let shown := opening ++ logged f run.events
    match run.result with
    | .error e => return ⟨shown ++ runErrorLines "Generation failed" e, 1⟩
    | .ok summary =>
      let outcome := summaryOutcome summary
      return ⟨shown ++ outcome.output, outcome.status⟩

/-- The version of the program. -/
def version : String := "proxydsl 0.3.0"

/-- How the program is used. -/
def usage : List String := [
  "Kotlin DSL generator for proxy configuration classes",
  "",
  "Usage: proxydsl [OPTIONS] <COMMAND>",
  "",
  "Commands:",
  "  generate  Generate Kotlin builders from a schema manifest",
  "  check     Validate a manifest and derive every builder without writing",
  "",
  "Options:",
  "  -v, --verbose...  Increase log verbosity (-v info, -vv debug, -vvv trace)",
  "  -h, --help        Print help",
  "  -V, --version     Print version"
]

/-- The status of a command line that makes no sense. -/
def misuseStatus : Nat := 2

/-- Does what the arguments ask for. `filter` is a written filter for the log, if there is one. -/
def execute (st : Storage m) (filter : Option String) (arguments : List String) : m Outcome :=
  match readArguments arguments with
  | .version => return ⟨[.out version], 0⟩
  | .help => return ⟨usage.map .out, 0⟩
  | .misuse => return ⟨usage.map .err, misuseStatus⟩
  | .run verbosity (.generate manifest output package) =>
    generate st (.choose filter verbosity) manifest output package
  | .run verbosity (.check manifest) => check st (.choose filter verbosity) manifest

end BuilderGen.CommandLine
