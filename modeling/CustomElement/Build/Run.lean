import CustomElement.Build.Plan
import CustomElement.Component.Parse
import CustomElement.Emit.Program
import CustomElement.Json.Text
import CustomElement.Tree.Encode

/-!
# Building

Compiles the component files that a build is about. A file that fails does not keep the others from
being compiled.
-/

namespace CustomElement.Build

/-- Why a component file has no result. -/
inductive Failure where
  | unreadable (input : Path) (fault : Fault)
  | rejected (input : Path) (report : Diagnostic)
  | unprintable (input : Path) (report : Diagnostic)
  | unwritable (target : Path) (fault : Fault)

/-- Why a component file has no result, in words. -/
def Failure.message : Failure → String
  | .unreadable input fault => "failed to read " ++ input.display ++ ": " ++ fault.message
  | .rejected input report => "failed to compile " ++ input.display ++ ": " ++ report.summary
  | .unprintable input report => "failed to emit " ++ input.display ++ ": " ++ report.summary
  | .unwritable target fault => "failed to write " ++ target.display ++ ": " ++ fault.message

/-- The text of a compiled component. -/
def resultText (s : Settings) (p : Tree.Program) : Except Diagnostic String :=
  match s.form with
  | .js => (Emit.program p s.print).mapError Emit.Unprintable.diagnostic
  | .ast => .ok p.encode.pretty

/-- The result of a component from the text of its file. -/
def compileFile (s : Settings) (input : Path) (source : String) : Except Failure String :=
  let name := String.ofList (input.stem?.getD [])
  let options := { s.compile with filePath := input.display }
  match Component.compileSource name source.toList options with
  | .error report => .error (.rejected input report)
  | .ok p =>
    match resultText s p with
    | .error report => .error (.unprintable input report)
    | .ok text => .ok text

/-- Does a job. Nothing is written unless the component has a result. -/
def runJob {m : Type → Type} [Monad m] (disk : Disk m) (s : Settings) (job : Job) :
    m (Option Failure) := do
  match ← disk.read job.input with
  | .error fault => return some (.unreadable job.input fault)
  | .ok source =>
    match compileFile s job.input source with
    | .error failure => return some failure
    | .ok text =>
      match ← disk.write job.target text with
      | .error fault => return some (.unwritable job.target fault)
      | .ok _ => return none

/-- What came of a run: the failures that are reported, and why it stopped if it did not succeed. -/
structure Outcome where
  failures : List Failure := []
  stop : Option Stop := none

/-- Does jobs. -/
def runJobs {m : Type → Type} [Monad m] (disk : Disk m) (s : Settings) (jobs : List Job) :
    m Outcome := do
  let failures := (← jobs.mapM (runJob disk s)).filterMap id
  if failures.isEmpty then return {}
  else return ⟨failures, some (.failures failures.length jobs.length)⟩

/-- Makes the directory for the results, if they have one. -/
def prepare {m : Type → Type} [Monad m] (disk : Disk m) (s : Settings) : m (Option Stop) := do
  match s.outDir with
  | none => return none
  | some dir =>
    match ← disk.createDirectory dir with
    | .ok _ => return none
    | .error fault => return some (.noDirectory dir fault)

/-- Builds the components that inputs name. -/
def build {m : Type → Type} [Monad m] (disk : Disk m) (s : Settings) (inputs : List Path) :
    m Outcome := do
  let files ← discover disk inputs
  if files.isEmpty then return { stop := some .nothing }
  match plan s files with
  | .error stop => return { stop := some stop }
  | .ok jobs =>
    match ← prepare disk s with
    | some stop => return { stop := some stop }
    | none => runJobs disk s jobs

/-- The regions of a component in words. -/
def describeRegions (source : String) : String :=
  let r := Component.Regions.ofSource source.toList
  let line := r.script.count '\n' + 1
  "template starts at byte " ++ toString r.offset ++ " (line " ++ toString line ++ ")\n" ++
    "--- script ---\n" ++ String.ofList r.script ++ "\n" ++
    "--- template ---\n" ++ String.ofList r.template ++ "\n"

/-- The regions of a component file in words. -/
def split {m : Type → Type} [Monad m] (disk : Disk m) (input : Path) :
    m (Except Stop String) := do
  match ← disk.read input with
  | .error fault => return .error (.unreadable input fault)
  | .ok source => return .ok (describeRegions source)

end CustomElement.Build
