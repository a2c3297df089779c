import BuilderGen.CommandLine.Commands
import BuilderGen.Proofs.Generation.Closure
import BuilderGen.Proofs.Run.Attempts

/-!
# What the commands end with

`check` and `generate` load the same manifest, settle the same settings and look at the same report.
Where all writes succeed, `generate` has nothing further that can fail, so both commands end alike.
The files are written before `generate` looks at the failures.

* `WritesSucceed`, `Loaded`: file systems on which writes succeed, and files that hold a manifest;
* `run_writeFiles_of_writesSucceed`, `run_execute_of_check_ok`: what a run comes to there;
* `check_cases`, `generate_cases`: what the commands come to there;
* `AllWritten`: the settings and the classes are accepted, and every source is written;
* `verdict_of_writesSucceed`: when the commands succeed, and what `generate` writes if it does not.
-/

namespace BuilderGen.Run

open BuilderGen.Generation
open BuilderGen.Schema (Manifest SchemaError Settings)

/-! ## 1. File systems on which writes succeed -/

/-- **All writes succeed**, whatever was attempted before. Files may still not be readable. -/
structure WritesSucceed (pattern : FailurePattern) : Prop where
  directory : ∀ past path, pattern past (.createDirectories path) = none
  text : ∀ past path text, pattern past (.writeText path text) = none

section

variable {pattern : FailurePattern} (hw : WritesSucceed pattern) (texts : String → String)
  (s : Settings)
include hw

theorem run_writeFile_of_writesSucceed (f : GeneratedFile) (past : History) :
    (writeFile (following pattern texts) s f).run past =
      (.ok (s.artifactPath f.typeName), past ++ writing s f) := by
  have hdirectory := hw.directory past s.directory
  have htext := hw.text (past ++ [⟨.createDirectories s.directory, none⟩])
    (s.artifactPath f.typeName) f.source
  rw [writeFile, following]
  dsimp only
  rw [run_bind_of_run (run_attempt hdirectory), outcomeOf]
  dsimp only
  rw [run_bind_of_run (run_attempt htext), List.append_assoc]
  rfl

/-- All files are written. -/
theorem run_writeFiles_of_writesSucceed (files : List GeneratedFile) (past : History) :
    (writeFiles (following pattern texts) s files).run past =
      (⟨files.map fun f => s.artifactPath f.typeName, none⟩,
        past ++ files.flatMap (writing s)) := by
  induction files generalizing past with
  | nil =>
    rw [List.flatMap_nil, List.append_nil]
    rfl
  | cons f rest ih =>
    rw [writeFiles, run_bind_of_run (run_writeFile_of_writesSucceed hw texts s f past)]
    dsimp only
    rw [run_bind_of_run (ih (past ++ writing s f)), List.flatMap_cons, List.append_assoc]
    rfl

/-- **Behind a check all files of the report are written**, and the summary tells of it. -/
theorem run_execute_of_check_ok {manifest : Manifest} {report : Report}
    (hc : (Generation.check manifest s).result = .ok report) (past : History) :
    ∃ events, (execute (following pattern texts) manifest s).run past =
      (⟨events, .ok ⟨report.files.map fun f => s.artifactPath f.typeName, report.failures,
        report.functionCount⟩⟩, past ++ report.files.flatMap (writing s)) := by
  rw [execute, hc]
  dsimp only
  rw [run_bind_of_run (run_writeFiles_of_writesSucceed hw texts s report.files past)]
  exact ⟨_, rfl⟩

end

/-- What a check refuses is not attempted. -/
theorem run_execute_of_check_error (pattern : FailurePattern) (texts : String → String)
    {s : Settings} {manifest : Manifest} {e : SchemaError}
    (hc : (Generation.check manifest s).result = .error e) (past : History) :
    ∃ events, (execute (following pattern texts) manifest s).run past =
      (⟨events, .error (.schema e)⟩, past) := by
  rw [execute, hc]
  exact ⟨_, rfl⟩

/-! ## 2. Files that hold a manifest -/

/-- A file can be read, and holds a manifest. -/
structure Loaded (pattern : FailurePattern) (texts : String → String) (path : String)
    (manifest : Manifest) : Prop where
  readable : pattern [] (.readText path) = none
  parsed : parse path (texts path) = .ok manifest

section

variable {pattern : FailurePattern} {texts : String → String} {path : String}

theorem run_readText {past : History} {failure : Option Storage.SystemError}
    (h : pattern past (.readText path) = failure) :
    ((following pattern texts).readText path).run past =
      ((outcomeOf failure).map fun _ => texts path, past ++ [⟨.readText path, failure⟩]) := by
  rw [following]
  dsimp only
  rw [run_bind_of_run (run_attempt h)]
  rfl

/-- A file that holds a manifest is loaded. -/
theorem run_load {manifest : Manifest} (hl : Loaded pattern texts path manifest) :
    (load (following pattern texts) path).run [] = (.ok manifest, [⟨.readText path, none⟩]) := by
  rw [load, run_bind_of_run (run_readText hl.readable)]
  dsimp only [outcomeOf, Except.map]
  rw [hl.parsed]
  rfl

/-- Otherwise the loading fails, and nothing is attempted but to read the file. -/
theorem run_load_error (hl : ¬ ∃ manifest, Loaded pattern texts path manifest) :
    ∃ e failure, (load (following pattern texts) path).run [] =
      (.error e, [⟨.readText path, failure⟩]) := by
  cases hp : pattern [] (.readText path) with
  | some cause =>
    rw [load, run_bind_of_run (run_readText hp)]
    exact ⟨_, _, rfl⟩
  | none =>
    rw [load, run_bind_of_run (run_readText hp)]
    dsimp only [outcomeOf, Except.map]
    cases ht : parse path (texts path) with
    | ok manifest => exact absurd ⟨manifest, hp, ht⟩ hl
    | error e => exact ⟨_, _, rfl⟩

end

end BuilderGen.Run

namespace BuilderGen.CommandLine

open BuilderGen.Builder (derive)
open BuilderGen.Generation
open BuilderGen.Log (Event Filter)
open BuilderGen.Run (FailurePattern History Loaded WritesSucceed artifact following run_bind_of_run
  writing)
open BuilderGen.Schema (EntryPoint HostClass Manifest SchemaError Settings)

/-! ## 3. Commands -/

/-- A line of the output. -/
def Output.line? : Output → Option String
  | .out line => some line
  | _ => none

/-- The lines that a command writes to its output. -/
def Outcome.lines (o : Outcome) : List String := o.output.filterMap Output.line?

/-- What a command comes to, with all that it attempted. -/
structure Followed where
  outcome : Outcome
  attempts : History

/-- A command on a file system where nothing was attempted before. -/
def follow (command : StateM History Outcome) : Followed :=
  let (outcome, attempts) := command.run []
  ⟨outcome, attempts⟩

/-- The lines of a check that finds nothing wrong. -/
def checkLines (path : String) (manifest : Manifest) (functions : Nat) : List String := [
  "Checking manifest: " ++ path,
  "✓ Classes: " ++ toString manifest.classes.length,
  "✓ Elements: " ++ toString manifest.elementCount,
  "✓ Abstract types: " ++ toString (manifest.classes.countP (·.isAbstract)),
  "✓ Builder functions: " ++ toString functions,
  "",
  "Manifest is valid!"]

/-- The lines of a generation without failures. -/
def generateLines (path : String) (s : Settings) (files functions : Nat) : List String := [
  "Generating Kotlin DSL from " ++ path,
  "  Package: " ++ s.package,
  "  Output:  " ++ s.outputDir,
  "✓ Wrote " ++ toString files ++ " files (" ++ toString functions ++ " builder functions)"]

/-- A log is no part of the output. -/
theorem filterMap_logged (f : Filter) (events : List Event) :
    (logged f events).filterMap Output.line? = [] := by
  rw [logged, List.filterMap_map]
  exact List.filterMap_eq_nil_iff.2 fun _ _ => rfl

/-- **What a check comes to**: it fails without a manifest or without a report, and succeeds if the
report has no failures. -/
theorem check_cases (pattern : FailurePattern) (texts : String → String) (f : Filter)
    (path : String) :
    ((¬ ∃ manifest, Loaded pattern texts path manifest) →
      (follow (check (following pattern texts) f path)).outcome.status = 1) ∧
    ∀ manifest, Loaded pattern texts path manifest →
      (∀ e, (Generation.check manifest
          (effectiveSettings manifest.settings path none none)).result = .error e →
        (follow (check (following pattern texts) f path)).outcome.status = 1) ∧
      ∀ report, (Generation.check manifest
          (effectiveSettings manifest.settings path none none)).result = .ok report →
        ((follow (check (following pattern texts) f path)).outcome.status = 0 ↔
          report.failures = []) ∧
        (report.failures = [] → (follow (check (following pattern texts) f path)).outcome.lines =
          checkLines path manifest report.functionCount) := by
  refine ⟨fun hl => ?_, fun manifest hl => ⟨fun e hc => ?_, fun report hc => ?_⟩⟩
  · obtain ⟨e, failure, hload⟩ := Run.run_load_error hl
    rw [check, follow, run_bind_of_run hload]
    rfl
  · rw [check, follow, run_bind_of_run (Run.run_load hl)]
    dsimp only
    rw [checkLoaded, hc]
    rfl
  · have hfollow : follow (check (following pattern texts) f path) =
        ⟨⟨.out ("Checking manifest: " ++ path) :: (checkLoaded f path manifest).output,
          (checkLoaded f path manifest).status⟩, [⟨.readText path, none⟩]⟩ := by
      rw [check, follow, run_bind_of_run (Run.run_load hl)]
      rfl
    rw [hfollow, checkLoaded, hc]
    dsimp only
    by_cases hf : report.failures = []
    · rw [if_pos (isComplete_iff.2 hf)]
      refine ⟨iff_of_true rfl hf, fun _ => ?_⟩
      rw [Outcome.lines]
      simp [filterMap_logged, Output.line?, checkLines]
    · rw [if_neg fun hc => hf (isComplete_iff.1 hc)]
      exact ⟨iff_of_false (by simp) hf, fun h => absurd h hf⟩

/-- **What a generation comes to where all writes succeed**: it writes nothing without a manifest or
without a report, and all files of the report otherwise. It succeeds if the report has no
failures. -/
theorem generate_cases {pattern : FailurePattern} (hw : WritesSucceed pattern)
    (texts : String → String) (f : Filter) (path : String) (output package : Option String) :
    ((¬ ∃ manifest, Loaded pattern texts path manifest) →
      (follow (generate (following pattern texts) f path output package)).outcome.status = 1) ∧
    ∀ manifest, Loaded pattern texts path manifest →
      ∀ s, s = effectiveSettings manifest.settings path output package →
      (∀ e, (Generation.check manifest s).result = .error e →
        (follow (generate (following pattern texts) f path output package)).outcome.status = 1) ∧
      ∀ report, (Generation.check manifest s).result = .ok report →
        ((follow (generate (following pattern texts) f path output package)).outcome.status = 0 ↔
          report.failures = []) ∧
        (follow (generate (following pattern texts) f path output package)).attempts.written =
          report.files.map (artifact s) ∧
        (report.failures = [] →
          (follow (generate (following pattern texts) f path output package)).outcome.lines =
            generateLines path s report.files.length report.functionCount) := by
  refine ⟨fun hl => ?_, fun manifest hl s hs => ⟨fun e hc => ?_, fun report hc => ?_⟩⟩
  · obtain ⟨e, failure, hload⟩ := Run.run_load_error hl
    rw [generate, follow, run_bind_of_run hload]
    rfl
  · obtain ⟨events, hrun⟩ :=
      Run.run_execute_of_check_error pattern texts hc [⟨.readText path, none⟩]
    rw [generate, follow, run_bind_of_run (Run.run_load hl)]
    dsimp only
    rw [← hs, run_bind_of_run hrun]
    rfl
  · obtain ⟨events, hrun⟩ := Run.run_execute_of_check_ok hw texts s hc [⟨.readText path, none⟩]
    have hwritten : History.written ([⟨.readText path, none⟩] ++
        report.files.flatMap (writing s)) = report.files.map (artifact s) := by
      rw [Run.written_append, Run.written_flatMap]
      rfl
    have hfollow : ∃ shown, shown.filterMap Output.line? = [
          "Generating Kotlin DSL from " ++ path, "  Package: " ++ s.package,
          "  Output:  " ++ s.outputDir] ∧
        follow (generate (following pattern texts) f path output package) =
          ⟨⟨shown ++ (summaryOutcome ⟨report.files.map fun f => s.artifactPath f.typeName,
              report.failures, report.functionCount⟩).output,
            (summaryOutcome ⟨report.files.map fun f => s.artifactPath f.typeName,
              report.failures, report.functionCount⟩).status⟩,
            [⟨.readText path, none⟩] ++ report.files.flatMap (writing s)⟩ := by
      rw [generate, follow, run_bind_of_run (Run.run_load hl)]
      dsimp only
      rw [← hs, run_bind_of_run hrun]
      refine ⟨_, ?_, rfl⟩
      simp [filterMap_logged, Output.line?]
    obtain ⟨shown, hshown, hfollow⟩ := hfollow
    rw [hfollow, summaryOutcome, Run.Summary.isSuccess]
    dsimp only
    by_cases hf : report.failures = []
    · rw [if_pos (List.isEmpty_iff.2 hf)]
      refine ⟨iff_of_true rfl hf, hwritten, fun _ => ?_⟩
      rw [Outcome.lines, List.filterMap_append, hshown, List.length_map]
      rfl
    · rw [if_neg fun he => hf (List.isEmpty_iff.1 he)]
      exact ⟨iff_of_false (by simp) hf, hwritten, fun h => absurd h hf⟩

/-- A command succeeds exactly if there is a report without failures, if it fails without a manifest
and without a report, and else tells by its status whether there are failures. -/
theorem status_eq_zero_iff {status : Nat} {loaded : Manifest → Prop}
    {checked : Manifest → Except SchemaError Report}
    (hnone : (¬ ∃ manifest, loaded manifest) → status = 1)
    (herror : ∀ manifest, loaded manifest → ∀ e, checked manifest = .error e → status = 1)
    (hok : ∀ manifest, loaded manifest → ∀ report, checked manifest = .ok report →
      (status = 0 ↔ report.failures = [])) :
    status = 0 ↔ ∃ manifest report, loaded manifest ∧ checked manifest = .ok report ∧
      report.failures = [] := by
  constructor
  · intro h0
    by_cases hl : ∃ manifest, loaded manifest
    · obtain ⟨manifest, hl⟩ := hl
      cases hc : checked manifest with
      | error e =>
        have h1 := herror manifest hl e hc
        omega
      | ok report => exact ⟨manifest, report, hl, hc, (hok manifest hl report hc).1 h0⟩
    · have h1 := hnone hl
      omega
  · rintro ⟨manifest, report, hl, hc, hf⟩
    exact (hok manifest hl report hc).2 hf

theorem status_check_iff {pattern : FailurePattern} {texts : String → String} {f : Filter}
    {path : String} : (follow (check (following pattern texts) f path)).outcome.status = 0 ↔
      ∃ manifest report, Loaded pattern texts path manifest ∧ (Generation.check manifest
        (effectiveSettings manifest.settings path none none)).result = .ok report ∧
        report.failures = [] := by
  obtain ⟨hnone, hsome⟩ := check_cases pattern texts f path
  exact status_eq_zero_iff hnone (fun manifest hl => (hsome manifest hl).1)
    fun manifest hl report hc => ((hsome manifest hl).2 report hc).1

theorem status_generate_iff {pattern : FailurePattern} (hw : WritesSucceed pattern)
    {texts : String → String} {f : Filter} {path : String} {output package : Option String} :
    (follow (generate (following pattern texts) f path output package)).outcome.status = 0 ↔
      ∃ manifest report, Loaded pattern texts path manifest ∧ (Generation.check manifest
        (effectiveSettings manifest.settings path output package)).result = .ok report ∧
        report.failures = [] := by
  obtain ⟨hnone, hsome⟩ := generate_cases hw texts f path output package
  exact status_eq_zero_iff hnone (fun manifest hl => (hsome manifest hl _ rfl).1)
    fun manifest hl report hc => ((hsome manifest hl _ rfl).2 report hc).1

/-! ## 4. Verdicts -/

/-- **All sources are written**: the settings and the classes are accepted, each element has a
builder whose file is written, and so has a configured entry point. -/
structure AllWritten (manifest : Manifest) (s : Settings) (done : History) : Prop where
  settings : s.check = .ok ()
  sources : ∃ h, Hierarchy.build manifest = .ok h ∧
    (∀ i ∈ h.elements, ∃ shape, (derive h s.package i).result = .ok shape ∧
      artifact s (builderFile s shape) ∈ done.written) ∧
    ∀ e, s.entry = some e → ∃ root element, h.entryPoint e = .ok (root, element) ∧
      artifact s (entryFileOf s (entrySource h s e root element)) ∈ done.written

/-- There are no faults exactly if each element has a shape. -/
theorem faults_eq_nil_iff {h : Hierarchy} {package : String} : faults h package = [] ↔
    ∀ i ∈ h.elements, ∃ shape, (derive h package i).result = .ok shape := by
  constructor
  · intro hf i hi
    obtain ⟨shape, -, hd⟩ := exists_shape hf hi
    exact ⟨shape, hd⟩
  · intro hall
    refine List.filterMap_eq_nil_iff.2 fun i hi => ?_
    obtain ⟨shape, hd⟩ := hall i hi
    rw [faultOf, hd]

/-- Without failures all files of a report are those of all elements and of the entry point. -/
theorem allWritten_of_report {manifest : Manifest} {s : Settings} {report : Report}
    (hc : (Generation.check manifest s).result = .ok report) (hf : report.failures = [])
    {done : History} (hd : done.written = report.files.map (artifact s)) :
    AllWritten manifest s done := by
  obtain ⟨hs, h, entry, hb, he, rfl⟩ := check_ok.1 hc
  dsimp only at hf hd
  refine ⟨hs, h, hb, fun i hi => ?_, fun e hsome => ?_⟩
  · obtain ⟨shape, hmem, hshape⟩ := exists_shape hf hi
    refine ⟨shape, hshape, ?_⟩
    rw [hd]
    exact List.mem_map_of_mem (List.mem_append_left _ (List.mem_map_of_mem hmem))
  · rcases entryFiles_cases he with ⟨hnone, -⟩ | ⟨e', root, element, hsome', hp, rfl⟩
    · rw [hsome] at hnone
      cases hnone
    · rw [hsome] at hsome'
      cases hsome'
      refine ⟨root, element, hp, ?_⟩
      rw [hd]
      exact List.mem_map_of_mem (List.mem_append_right _ (List.mem_singleton_self _))

/-- Where all sources are written, there is a report, and it has no failures. -/
theorem AllWritten.exists_report {manifest : Manifest} {s : Settings} {done : History}
    (ha : AllWritten manifest s done) :
    ∃ report, (Generation.check manifest s).result = .ok report ∧ report.failures = [] := by
  obtain ⟨h, hb, hall, hentry⟩ := ha.sources
  have hfaults : faults h s.package = [] := by
    refine faults_eq_nil_iff.2 fun i hi => ?_
    obtain ⟨shape, hd, -⟩ := hall i hi
    exact ⟨shape, hd⟩
  have hfiles : ∃ files, entrySources h s = .ok files := by
    cases hs : s.entry with
    | none => exact ⟨_, entrySources_ok.2 (.inl ⟨hs, rfl⟩)⟩
    | some e =>
      obtain ⟨root, element, hp, -⟩ := hentry e hs
      exact ⟨_, entrySources_ok.2 (.inr ⟨e, root, element, hs, hp, rfl⟩)⟩
  obtain ⟨files, hf⟩ := hfiles
  have he := entryFiles_ok.2 ⟨files, hf, rfl⟩
  exact ⟨_, check_ok.2 ⟨ha.settings, h, _, hb, he, rfl⟩, hfaults⟩

/-- **The verdicts of the commands where all writes succeed.** `check` succeeds exactly if
`generate` does without overrides, and both tell one number of functions. `generate` succeeds
exactly if the file holds a manifest and all its sources are written. If some elements fail, it does
not succeed, and has written the files of all others and of the entry point, and nothing else. -/
theorem verdict_of_writesSucceed {pattern : FailurePattern} (hw : WritesSucceed pattern)
    (texts : String → String) (path : String) (f f' : Filter) :
    ((follow (check (following pattern texts) f path)).outcome.status = 0 ↔
      (follow (generate (following pattern texts) f' path none none)).outcome.status = 0) ∧
    ((follow (check (following pattern texts) f path)).outcome.status = 0 →
      ∃ manifest files functions, Loaded pattern texts path manifest ∧
        (follow (check (following pattern texts) f path)).outcome.lines =
          checkLines path manifest functions ∧
        (follow (generate (following pattern texts) f' path none none)).outcome.lines =
          generateLines path (effectiveSettings manifest.settings path none none) files
            functions) ∧
    ∀ output package,
      ((follow (generate (following pattern texts) f' path output package)).outcome.status = 0 ↔
        ∃ manifest, Loaded pattern texts path manifest ∧
          AllWritten manifest (effectiveSettings manifest.settings path output package)
            (follow (generate (following pattern texts) f' path output package)).attempts) ∧
      ∀ manifest, Loaded pattern texts path manifest →
        ∀ s, s = effectiveSettings manifest.settings path output package → s.check = .ok () →
        ∀ h, Hierarchy.build manifest = .ok h → ∀ entry, entryFiles h s = .ok entry →
        (∃ i ∈ h.elements, ∃ fault, (derive h s.package i).result = .error fault) →
          (follow (generate (following pattern texts) f' path output package)).outcome.status ≠ 0 ∧
          (follow (generate (following pattern texts) f' path output package)).attempts.written =
            ((shapes h s.package).map (builderFile s) ++ entry).map (artifact s) := by
  refine ⟨status_check_iff.trans (status_generate_iff hw).symm, fun h0 => ?_,
    fun output package => ⟨?_, ?_⟩⟩
  · obtain ⟨manifest, report, hl, hc, hf⟩ := status_check_iff.1 h0
    have hcheck := ((check_cases pattern texts f path).2 manifest hl).2 report hc
    have hgenerate := ((generate_cases hw texts f' path none none).2 manifest hl _ rfl).2 report hc
    exact ⟨manifest, _, _, hl, hcheck.2 hf, hgenerate.2.2 hf⟩
  · rw [status_generate_iff hw]
    constructor
    · rintro ⟨manifest, report, hl, hc, hf⟩
      obtain ⟨-, hwritten, -⟩ :=
        ((generate_cases hw texts f' path output package).2 manifest hl _ rfl).2 report hc
      exact ⟨manifest, hl, allWritten_of_report hc hf hwritten⟩
    · rintro ⟨manifest, hl, ha⟩
      obtain ⟨report, hc, hf⟩ := ha.exists_report
      exact ⟨manifest, report, hl, hc, hf⟩
  · intro manifest hl s hs hsettings h hb entry he ⟨i, hi, fault, hd⟩
    have hc := check_ok.2 ⟨hsettings, h, entry, hb, he, rfl⟩
    obtain ⟨hstatus, hwritten, -⟩ :=
      ((generate_cases hw texts f' path output package).2 manifest hl s hs).2 _ hc
    refine ⟨fun h0 => ?_, hwritten⟩
    obtain ⟨shape, hshape⟩ := faults_eq_nil_iff.1 (hstatus.1 h0) i hi
    rw [hd] at hshape
    cases hshape

/-! ## 5. A cup and a jar -/

/-- A disk on which nothing fails. -/
def soundDisk : FailurePattern := fun _ _ => none

/-- A cup. -/
def cup : HostClass := { HostClass.plain "" "Cup" with element := some "cup" }

/-- A jar with a lid, of which nothing is known. -/
def jar : HostClass :=
  { HostClass.plain "" "Jar" with element := some "jar", children := [⟨"setLid", "Lid"⟩] }

/-- The schema of the cup alone. -/
def cups : Manifest := ⟨Settings.default, [cup]⟩

/-- The schema of the cup and the jar. -/
def jars : Manifest := ⟨Settings.default, [cup, jar]⟩

/-- The texts of two files, which hold these schemas. -/
def schemaText (path : String) : String :=
  if path = "cups.toml" then "[[class]]\nname=\"Cup\"\nelement=\"cup\"\n"
  else "[[class]]\nname=\"Cup\"\nelement=\"cup\"\n[[class]]\nname=\"Jar\"\nelement=\"jar\"\n" ++
    "[[class.child]]\nsetter=\"setLid\"\nparameter=\"Lid\"\n"

theorem writesSucceed_soundDisk : WritesSucceed soundDisk := ⟨fun _ _ => rfl, fun _ _ _ => rfl⟩

theorem loaded_cups : Loaded soundDisk schemaText "cups.toml" cups := ⟨rfl, by decide +kernel⟩

theorem loaded_jars : Loaded soundDisk schemaText "jars.toml" jars := ⟨rfl, by decide +kernel⟩

/-- The hierarchy of the cup alone. -/
def cupsHierarchy : Hierarchy := .ofLineages cups.classes [[0]]

/-- The hierarchy of the cup and the jar. -/
def jarsHierarchy : Hierarchy := .ofLineages jars.classes [[0], [1]]

theorem build_cups : Hierarchy.build cups = .ok cupsHierarchy :=
  Hierarchy.build_of_lineages (by decide) (by decide) (by decide) rfl

theorem build_jars : Hierarchy.build jars = .ok jarsHierarchy :=
  Hierarchy.build_of_lineages (by decide) (by decide) (by decide) rfl

/-- The cup is found valid. -/
theorem status_check_cups :
    (follow (check (following soundDisk schemaText) [] "cups.toml")).outcome.status = 0 := by
  have hs : (effectiveSettings cups.settings "cups.toml" none none).check = .ok () := by
    decide +kernel
  have hc := check_ok.2 ⟨hs, cupsHierarchy, [], build_cups, rfl, rfl⟩
  refine status_check_iff.2 ⟨cups, _, loaded_cups, hc, ?_⟩
  dsimp only
  decide +kernel

/-- The cup is generated as it is checked. The jar fails, and then only the cup is written. -/
theorem verdicts_on_soundDisk :
    WritesSucceed soundDisk ∧
    (follow (generate (following soundDisk schemaText) [] "cups.toml" none none)).outcome.status =
      0 ∧
    Loaded soundDisk schemaText "jars.toml" jars ∧
    (follow (generate (following soundDisk schemaText) [] "jars.toml" (some "out")
      (some "d"))).outcome.status ≠ 0 ∧
    (follow (generate (following soundDisk schemaText) [] "jars.toml" (some "out")
      (some "d"))).attempts.written.map Prod.fst = ["out/d/CupSpec.kt"] := by
  obtain ⟨hcups, -, -⟩ :=
    verdict_of_writesSucceed writesSucceed_soundDisk schemaText "cups.toml" [] []
  obtain ⟨-, -, hjars⟩ :=
    verdict_of_writesSucceed writesSucceed_soundDisk schemaText "jars.toml" [] []
  have hfault : (derive jarsHierarchy "d" (1 : Fin 2)).result =
      .error ⟨"JarSpec", .unknownType "setLid" "Lid"⟩ := by decide +kernel
  obtain ⟨hstatus, hwritten⟩ := (hjars (some "out") (some "d")).2 _ loaded_jars _ rfl
    (by decide +kernel) _ build_jars [] rfl ⟨(1 : Fin 2), Hierarchy.mem_elements.2 rfl, _, hfault⟩
  refine ⟨writesSucceed_soundDisk, hcups.1 status_check_cups, loaded_jars, hstatus, ?_⟩
  rw [hwritten, List.append_nil, List.map_map, List.map_map]
  decide +kernel

end BuilderGen.CommandLine
