import CustomElement.Build.FileTree
import CustomElement.Component.Options
import CustomElement.Emit.Document

/-!
# Planning a build

Which files a build compiles, and where the results go. Directories are searched for component files,
and no two results may go to the same path.
-/

namespace CustomElement.Build

/-- The form of a result. -/
inductive Form where
  | js
  | ast
deriving DecidableEq, Repr

/-- The extension of files with results of a form. -/
def Form.extension : Form → List Char
  | .js => "js".toList
  | .ast => "json".toList

/-- The extension of component files. -/
def componentExtension : String :=
  "lazy"

/-- What a build is to do. -/
structure Settings where
  /-- The directory for the results; each goes next to its component if there is none. -/
  outDir : Option Path := none
  form : Form := .js
  compile : Component.Options := {}
  print : Emit.Options := {}

/-- A component file and the file for its result. -/
structure Job where
  input : Path
  target : Path
deriving DecidableEq, Repr

/-- Why a build stops. -/
inductive Stop where
  | nameless (input : Path)
  | clash (first second target : Path)
  | nothing
  | noDirectory (dir : Path) (fault : Fault)
  | unreadable (input : Path) (fault : Fault)
  | failures (count total : Nat)
deriving DecidableEq, Repr

/-- Why a build stops, in words. -/
def Stop.message : Stop → String
  | .nameless input => input.display ++ " has no usable file name"
  | .clash first second target =>
    first.display ++ " and " ++ second.display ++ " would both be written to " ++ target.display
  | .nothing => "no ." ++ componentExtension ++ " files found"
  | .noDirectory dir fault => "failed to create " ++ dir.display ++ ": " ++ fault.message
  | .unreadable input fault => "failed to read " ++ input.display ++ ": " ++ fault.message
  | .failures count total =>
    toString count ++ " of " ++ toString total ++ " components failed to compile"

/-- Whether a path is one of a component file. -/
def isComponent (p : Path) : Bool :=
  p.extension? == some componentExtension.toList

/-- Whether a name stands in front of another in a directory, or is the same. -/
def nameBefore : List Char → List Char → Bool
  | [], _ => true
  | _ :: _, [] => false
  | a :: as, b :: bs => a.toNat < b.toNat || (a == b && nameBefore as bs)

/-- The component files in a directory, down to a depth, by name. -/
def componentsIn {m : Type → Type} [Monad m] (disk : Disk m) : Nat → Path → m (List Path)
  | 0, _ => pure []
  | depth + 1, dir => do
    let names := (← disk.names dir).mergeSort nameBefore
    let found ← names.mapM fun n => do
      let p := dir.join n
      if ← disk.isDirectory p then componentsIn disk depth p
      else pure (if isComponent p then [p] else [])
    return found.flatten

/-- How deep directories are searched. No path that a disk takes has more steps. -/
def searchDepth : Nat := 4096

/-- The files that an input names: itself, or the component files in it. -/
def filesOf {m : Type → Type} [Monad m] (disk : Disk m) (input : Path) : m (List Path) := do
  if ← disk.isDirectory input then componentsIn disk searchDepth input else return [input]

/-- The files that inputs name. -/
def discover {m : Type → Type} [Monad m] (disk : Disk m) (inputs : List Path) :
    m (List Path) := do
  return (← inputs.mapM (filesOf disk)).flatten

/-- The path for the result of a component. -/
def targetFor (s : Settings) (input : Path) (name : List Char) : Path :=
  let fileName := name ++ '.' :: s.form.extension
  match s.outDir with
  | some dir => dir.join fileName
  | none => input.withFileName fileName

/-- The job of a component file, unless its result would go to the path of another's. -/
def jobFor (s : Settings) (earlier : List Job) (input : Path) : Except Stop Job :=
  match input.stem? with
  | none => .error (.nameless input)
  | some name =>
    let target := targetFor s input name
    match earlier.find? fun j => j.target.same target with
    | some j => .error (.clash j.input input target)
    | none => .ok ⟨input, target⟩

/-- The jobs of files after those already planned. -/
def planAfter (s : Settings) (earlier : List Job) : List Path → Except Stop (List Job)
  | [] => .ok earlier
  | input :: rest => do
    let job ← jobFor s earlier input
    planAfter s (earlier ++ [job]) rest

/-- The jobs of files. -/
def plan (s : Settings) (files : List Path) : Except Stop (List Job) :=
  planAfter s [] files

end CustomElement.Build
