/-!
# What a run reports

A run reports what it does as events. An event is a fact with its data; its level, its wording and
the component that reports it follow from the fact.
-/

namespace BuilderGen.Log

/-- The weight of an event, from the heaviest on. -/
inductive Level where
  | error
  | warn
  | info
  | debug
  | trace
deriving DecidableEq, Repr

namespace Level

/-- The place of a level in the order from the heaviest on, counted from one. -/
def rank : Level → Nat
  | .error => 1
  | .warn => 2
  | .info => 3
  | .debug => 4
  | .trace => 5

/-- The name of a level. -/
def name : Level → String
  | .error => "ERROR"
  | .warn => "WARN"
  | .info => "INFO"
  | .debug => "DEBUG"
  | .trace => "TRACE"

end Level

/-- A fact that a run reports. -/
inductive Event where
  | schemaIndexed (classes elements : Nat)
  /-- A sampled value is not a value of the attribute's type. -/
  | unfitSample (className setter value : String)
  /-- Nothing was sampled for an attribute. -/
  | noSample (className getter : String)
  | optionalAttribute (setter type : String)
  | shapeDerived (builder : String) (relationships functions : Nat)
  | builderRendered (typeName : String) (bytes : Nat)
  | builderFailed (typeName error : String)
  | artifactWritten (path : String)
  | generationFinished (written failed : Nat) (dir : String)
  | settingsChosen (package output extension : String)
  | manifestLoaded (path : String) (classes : Nat)
deriving DecidableEq, Repr

namespace Event

/-- The level of an event. -/
def level : Event → Level
  | .unfitSample .. | .noSample .. | .builderFailed .. => .warn
  | .generationFinished .. | .manifestLoaded .. => .info
  | .schemaIndexed .. | .optionalAttribute .. | .shapeDerived .. | .builderRendered ..
  | .artifactWritten .. | .settingsChosen .. => .debug

/-- Whether an event is a warning. -/
def isWarning (e : Event) : Bool := e.level == .warn

/-- The component that reports an event, as a filter addresses it. -/
def target : Event → String
  | .schemaIndexed .. => "proxydsl_core::codegen::discover"
  | .unfitSample .. | .noSample .. | .optionalAttribute .. | .shapeDerived .. =>
    "proxydsl_core::codegen::derive"
  | .builderRendered .. | .builderFailed .. => "proxydsl_core::codegen"
  | .artifactWritten .. => "proxydsl_core::emit"
  | .generationFinished .. => "proxydsl_core"
  | .settingsChosen .. | .manifestLoaded .. => "proxydsl::generate"

/-- The wording of an event. -/
def message : Event → String
  | .schemaIndexed .. => "schema indexed"
  | .unfitSample .. => "sampled value does not fit the attribute type, using zero value"
  | .noSample .. => "no sampled default, using zero value"
  | .optionalAttribute .. => "optional attribute"
  | .shapeDerived .. => "derived element shape"
  | .builderRendered .. => "rendered builder"
  | .builderFailed .. => "builder generation failed"
  | .artifactWritten .. => "wrote artifact"
  | .generationFinished .. => "generation finished"
  | .settingsChosen .. => "effective generator config"
  | .manifestLoaded .. => "loaded manifest"

/-- The data of an event, by name. -/
def fields : Event → List (String × String)
  | .schemaIndexed classes elements =>
    [("classes", toString classes), ("elements", toString elements)]
  | .unfitSample c setter value => [("class", c), ("setter", setter), ("value", value)]
  | .noSample c getter => [("class", c), ("getter", getter)]
  | .optionalAttribute setter type => [("setter", setter), ("ty", type)]
  | .shapeDerived builder relationships functions =>
    [("spec", builder), ("relationships", toString relationships),
      ("functions", toString functions)]
  | .builderRendered typeName bytes => [("type_name", typeName), ("bytes", toString bytes)]
  | .builderFailed typeName error => [("type_name", typeName), ("error", error)]
  | .artifactWritten path => [("path", path)]
  | .generationFinished written failed dir =>
    [("written", toString written), ("failed", toString failed), ("dir", dir)]
  | .settingsChosen package output extension =>
    [("package", package), ("output", output), ("extension", extension)]
  | .manifestLoaded path classes => [("manifest", path), ("classes", toString classes)]

/-- The names of the data of an event, to which its wording belongs. -/
def fieldNames (e : Event) : List String := "message" :: e.fields.map (·.1)

/-- The line that a log holds for an event. -/
def line (e : Event) : String :=
  " ".intercalate (e.level.name :: e.message :: e.fields.map fun f => f.1 ++ "=" ++ f.2)

end Event

end BuilderGen.Log
