import BuilderGen.Proofs.Generation.Report
import BuilderGen.Run

/-!
# What a run attempts on a file system

A run is followed on a file system that keeps a history of all that was attempted, in order, with
what became of it. A failure pattern decides which operations fail, and it may look at the history:
a disk may fill up, a directory may go away between two files, and the same write may fail now and
succeed later.

* `following`: a file system that follows a failure pattern and keeps the history;
* `run_writeFile`, `run_writeFiles`: what the writing of one file and of several files attempts;
* `follow_of_check_error`, `follow_of_check_ok`: what a whole run attempts;
* `attempts_of_follow`: what can be said of the history behind each end of a run.
-/

namespace BuilderGen.Run

open BuilderGen.Generation
open BuilderGen.Log (Traced)
open BuilderGen.Schema (Manifest SchemaError Settings)
open BuilderGen.Storage (SystemError)

/-! ## 1. Histories -/

/-- An operation on a file system. -/
inductive Operation where
  | readText (path : String)
  | createDirectories (path : String)
  | writeText (path text : String)
deriving DecidableEq, Repr

/-- An operation that was attempted, with what it failed with, if it failed. -/
structure Attempt where
  operation : Operation
  failure : Option SystemError
deriving DecidableEq, Repr

/-- What was attempted, in order. -/
abbrev History := List Attempt

/-- The path and the text of the file that an attempt wrote. -/
def Attempt.written? : Attempt → Option (String × String)
  | ⟨.writeText path text, none⟩ => some (path, text)
  | _ => none

/-- The files that were written, with their texts, in order. -/
def History.written (attempts : History) : List (String × String) :=
  attempts.filterMap Attempt.written?

/-- Which operations fail, behind what was attempted before. -/
abbrev FailurePattern := History → Operation → Option SystemError

/-- The outcome of an operation that fails with the given failure, if any. -/
def outcomeOf : Option SystemError → Except SystemError Unit
  | none => .ok ()
  | some cause => .error cause

/-- An operation is attempted, and comes to the end of the history. -/
def attempt (pattern : FailurePattern) (operation : Operation) :
    StateM History (Except SystemError Unit) := fun past =>
  let failure := pattern past operation
  (outcomeOf failure, past ++ [⟨operation, failure⟩])

/-- The file system on which operations fail by a pattern. A file that can be read holds the text
that is told. -/
def following (pattern : FailurePattern) (texts : String → String) :
    Storage (StateM History) where
  readText path := return (← attempt pattern (.readText path)).map fun _ => texts path
  createDirectories path := attempt pattern (.createDirectories path)
  writeText path text := attempt pattern (.writeText path text)

/-! ## 2. One file -/

/-- The name of the type whose file was not written. -/
def WriteError.typeName : WriteError → String
  | .createDirectory typeName _ _ => typeName
  | .writeText typeName _ _ => typeName

/-- The path and the text of the file for a generated type. -/
def artifact (s : Settings) (f : GeneratedFile) : String × String :=
  (s.artifactPath f.typeName, f.source)

/-- The attempts by which a file is written. -/
def writing (s : Settings) (f : GeneratedFile) : History :=
  [⟨.createDirectories s.directory, none⟩, ⟨.writeText (s.artifactPath f.typeName) f.source, none⟩]

/-- **The attempts by which a file is not written**, with the error that tells it: the directory
could not be created, or it could and the file could not be written. -/
inductive Stopped (s : Settings) (f : GeneratedFile) : WriteError → History → Prop where
  | directory (cause : SystemError) :
      Stopped s f (.createDirectory f.typeName s.directory cause)
        [⟨.createDirectories s.directory, some cause⟩]
  | text (cause : SystemError) :
      Stopped s f (.writeText f.typeName (s.artifactPath f.typeName) cause)
        [⟨.createDirectories s.directory, none⟩,
          ⟨.writeText (s.artifactPath f.typeName) f.source, some cause⟩]

/-- The error tells the type of the file. -/
theorem Stopped.typeName_eq {s : Settings} {f : GeneratedFile} {e : WriteError} {stop : History}
    (h : Stopped s f e stop) : e.typeName = f.typeName := by
  cases h <;> rfl

/-- Nothing is written by attempts that end in an error. -/
theorem Stopped.written_eq_nil {s : Settings} {f : GeneratedFile} {e : WriteError}
    {stop : History} (h : Stopped s f e stop) : stop.written = [] := by
  cases h <;> rfl

/-- A step behind another one goes on with its value and its history. -/
theorem run_bind_of_run {α β : Type} {x : StateM History α} {next : α → StateM History β}
    {past now : History} {a : α} (h : x.run past = (a, now)) :
    (x >>= next).run past = (next a).run now := by
  rw [StateT.run_bind, h]
  rfl

theorem run_attempt {pattern : FailurePattern} {operation : Operation} {past : History}
    {failure : Option SystemError} (h : pattern past operation = failure) :
    (attempt pattern operation).run past =
      (outcomeOf failure, past ++ [⟨operation, failure⟩]) := by
  rw [← h]
  rfl

section Following

variable (pattern : FailurePattern) (texts : String → String) (s : Settings)

/-- **A file is written, or its writing stops.** -/
theorem run_writeFile (f : GeneratedFile) (past : History) :
    (writeFile (following pattern texts) s f).run past =
        (.ok (s.artifactPath f.typeName), past ++ writing s f) ∨
      ∃ e stop, Stopped s f e stop ∧
        (writeFile (following pattern texts) s f).run past = (.error e, past ++ stop) := by
  rw [writeFile, following]
  dsimp only
  cases hd : pattern past (.createDirectories s.directory) with
  | some cause =>
    rw [run_bind_of_run (run_attempt hd)]
    exact .inr ⟨_, _, .directory cause, rfl⟩
  | none =>
    rw [run_bind_of_run (run_attempt hd), outcomeOf]
    dsimp only
    cases hw : pattern (past ++ [⟨.createDirectories s.directory, none⟩])
      (.writeText (s.artifactPath f.typeName) f.source) with
    | some cause =>
      rw [run_bind_of_run (run_attempt hw), List.append_assoc]
      exact .inr ⟨_, _, .text cause, rfl⟩
    | none =>
      rw [run_bind_of_run (run_attempt hw), List.append_assoc]
      exact .inl rfl

/-! ## 3. Several files -/

/-- **Files are written in order up to the first one whose writing stops**, and nothing is attempted
for the files behind it. -/
theorem run_writeFiles (files : List GeneratedFile) (past : History) :
    (writeFiles (following pattern texts) s files).run past =
        (⟨files.map fun f => s.artifactPath f.typeName, none⟩,
          past ++ files.flatMap (writing s)) ∨
      ∃ front f back e stop, files = front ++ f :: back ∧ Stopped s f e stop ∧
        (writeFiles (following pattern texts) s files).run past =
          (⟨front.map fun f => s.artifactPath f.typeName, some e⟩,
            past ++ front.flatMap (writing s) ++ stop) := by
  -- the later files find the history of the first one, so the past is left open
  induction files generalizing past with
  | nil =>
    refine .inl ?_
    rw [List.flatMap_nil, List.append_nil]
    rfl
  | cons f rest ih =>
    rw [writeFiles]
    rcases run_writeFile pattern texts s f past with hf | ⟨e, stop, hstop, hf⟩
    · rw [run_bind_of_run hf]
      dsimp only
      rcases ih (past ++ writing s f) with hrest | ⟨front, g, back, e, stop, rfl, hstop, hrest⟩
      · refine .inl ?_
        rw [run_bind_of_run hrest, List.flatMap_cons, List.append_assoc]
        rfl
      · refine .inr ⟨f :: front, g, back, e, stop, rfl, hstop, ?_⟩
        rw [run_bind_of_run hrest, List.flatMap_cons, List.append_assoc past]
        rfl
    · rw [run_bind_of_run hf]
      refine .inr ⟨[], f, rest, e, stop, rfl, hstop, ?_⟩
      rw [List.flatMap_nil, List.append_nil]
      rfl

/-! ## 4. Whole runs -/

/-- What becomes of a run, with all that it attempted. -/
structure Followed where
  result : Except Failure Summary
  attempts : History

/-- A run on a file system where nothing was attempted before. -/
def follow (manifest : Manifest) : Followed :=
  let (run, attempts) := (execute (following pattern texts) manifest s).run []
  ⟨run.result, attempts⟩

/-- What a check refuses is not attempted. -/
theorem follow_of_check_error {manifest : Manifest} {e : SchemaError}
    (h : (Generation.check manifest s).result = .error e) :
    follow pattern texts s manifest = ⟨.error (.schema e), []⟩ := by
  rw [follow, execute, h]
  rfl

/-- **Behind a check the files of its report are written**, all of them or those in front of the
first one whose writing stops. -/
theorem follow_of_check_ok {manifest : Manifest} {report : Report}
    (h : (Generation.check manifest s).result = .ok report) :
    follow pattern texts s manifest =
        ⟨.ok ⟨report.files.map fun f => s.artifactPath f.typeName, report.failures,
          report.functionCount⟩, report.files.flatMap (writing s)⟩ ∨
      ∃ front f back e stop, report.files = front ++ f :: back ∧ Stopped s f e stop ∧
        follow pattern texts s manifest =
          ⟨.error (.writing e), front.flatMap (writing s) ++ stop⟩ := by
  rw [follow, execute, h]
  dsimp only
  rcases run_writeFiles pattern texts s report.files [] with
    hall | ⟨front, f, back, e, stop, hfiles, hstop, hall⟩
  · rw [run_bind_of_run hall]
    exact .inl rfl
  · rw [run_bind_of_run hall]
    exact .inr ⟨front, f, back, e, stop, hfiles, hstop, rfl⟩

end Following

/-! ## 5. What a run leaves behind -/

theorem written_append (a b : History) :
    History.written (a ++ b) = a.written ++ b.written :=
  List.filterMap_append

/-- Files whose writing succeeds are written with their full texts. -/
theorem written_flatMap (s : Settings) (files : List GeneratedFile) :
    History.written (files.flatMap (writing s)) = files.map (artifact s) := by
  induction files with
  | nil => rfl
  | cons f rest ih =>
    rw [List.flatMap_cons, written_append, ih]
    rfl

/-- **The writing of a report stopped behind its first `k` files.** These were written with their
full texts, the error tells the type of the next file, and the attempts end with that file. -/
structure StoppedBehind (s : Settings) (report : Report) (k : Nat) (e : WriteError)
    (done : History) : Prop where
  attempts : ∃ f stop, report.files[k]? = some f ∧ e.typeName = f.typeName ∧ Stopped s f e stop ∧
    done = (report.files.take k).flatMap (writing s) ++ stop
  written : done.written = (report.files.take k).map (artifact s)

/-- **All files of a report were written**, and the summary tells their paths in order, and the
failures and the functions of the report. -/
structure Complete (s : Settings) (report : Report) (summary : Summary) (done : History) :
    Prop where
  attempts : done = report.files.flatMap (writing s)
  written : done.written = report.files.map (artifact s)
  paths : summary.written = report.files.map fun f => s.artifactPath f.typeName
  failures : summary.failures = report.failures
  functions : summary.functions = report.functionCount

theorem stoppedBehind {s : Settings} {report : Report} {front back : List GeneratedFile}
    {f : GeneratedFile} {e : WriteError} {stop : History}
    (hfiles : report.files = front ++ f :: back) (hstop : Stopped s f e stop) :
    StoppedBehind s report front.length e (front.flatMap (writing s) ++ stop) where
  attempts := by
    refine ⟨f, stop, ?_, hstop.typeName_eq, hstop, ?_⟩
    · rw [hfiles, List.getElem?_append_right (Nat.le_refl _), Nat.sub_self,
        List.getElem?_cons_zero]
    · rw [hfiles, List.take_left]
  written := by
    rw [written_append, written_flatMap, hstop.written_eq_nil, List.append_nil, hfiles,
      List.take_left]

/-- **What a run leaves behind, by the way it ends.** Behind a fault of the schema or the settings
nothing was attempted. Behind an error of writing the first files of the report were written, the
error tells the next file, and nothing was attempted for later ones. Behind a summary all files of
the report were written. -/
theorem attempts_of_follow (pattern : FailurePattern) (texts : String → String) (s : Settings)
    (manifest : Manifest) :
    (∀ e, (follow pattern texts s manifest).result = .error (.schema e) →
      (Generation.check manifest s).result = .error e ∧
        (follow pattern texts s manifest).attempts = []) ∧
    (∀ e, (follow pattern texts s manifest).result = .error (.writing e) →
      ∃ report k, (Generation.check manifest s).result = .ok report ∧
        StoppedBehind s report k e (follow pattern texts s manifest).attempts) ∧
    ∀ summary, (follow pattern texts s manifest).result = .ok summary →
      ∃ report, (Generation.check manifest s).result = .ok report ∧
        Complete s report summary (follow pattern texts s manifest).attempts := by
  cases hc : (Generation.check manifest s).result with
  | error fault =>
    rw [follow_of_check_error pattern texts s hc]
    refine ⟨fun e he => ?_, fun e he => ?_, fun summary he => ?_⟩
    · cases he
      exact ⟨rfl, rfl⟩
    · cases he
    · cases he
  | ok report =>
    rcases follow_of_check_ok pattern texts s hc with
      h | ⟨front, f, back, _, stop, hfiles, hstop, h⟩
    · rw [h]
      refine ⟨fun e he => ?_, fun e he => ?_, fun summary he => ?_⟩
      · cases he
      · cases he
      · cases he
        exact ⟨report, rfl, rfl, written_flatMap s _, rfl, rfl, rfl⟩
    · rw [h]
      refine ⟨fun e he => ?_, fun e he => ?_, fun summary he => ?_⟩
      · cases he
      · cases he
        exact ⟨report, front.length, rfl, stoppedBehind hfiles hstop⟩
      · cases he

/-- The disk is full from the fourth attempt on. -/
def fullDisk : FailurePattern := fun past _ =>
  if past.length < 3 then none else some (.other "No space left on device (os error 28)")

/-- With such a disk the second file cannot be written. -/
theorem result_follow_fullDisk {s : Settings} {manifest : Manifest} {report : Report}
    (hc : (Generation.check manifest s).result = .ok report) {first second : GeneratedFile}
    {rest : List GeneratedFile} (hf : report.files = first :: second :: rest) :
    (follow fullDisk id s manifest).result = .error (.writing (.writeText second.typeName
      (s.artifactPath second.typeName) (.other "No space left on device (os error 28)"))) := by
  rw [follow, execute, hc]
  dsimp only
  rw [hf]
  rfl

theorem attempts_in_menu :
    ∃ e, (follow fullDisk id menu.settings menu).result = .error (.writing e) ∧
      e.typeName = "SoupSpec" ∧
      ∃ report k, (check menu menu.settings).result = .ok report ∧
        StoppedBehind menu.settings report k e
          (follow fullDisk id menu.settings menu).attempts := by
  have hs : menu.settings.check = .ok () := by decide
  have hentry := entryFiles_ok.2 ⟨_, entrySources_menu, rfl⟩
  have hr := check_ok.2 ⟨hs, menuHierarchy, _, build_menu, hentry, rfl⟩
  have hn : (shapes menuHierarchy menu.settings.package).map (·.builder.simpleName) =
      ["MenuSpec", "SoupSpec", "StewSpec"] := by decide +kernel
  obtain ⟨first, rest, hfirst, -, hn⟩ := List.map_eq_cons_iff.1 hn
  obtain ⟨second, rest, rfl, hsecond, -⟩ := List.map_eq_cons_iff.1 hn
  rw [hfirst] at hr
  have he := result_follow_fullDisk hr rfl
  exact ⟨_, he, hsecond, (attempts_of_follow _ _ _ _).2.1 _ he⟩

end BuilderGen.Run
