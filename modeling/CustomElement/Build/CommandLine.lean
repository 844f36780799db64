import CustomElement.Build.Run

/-!
# The command line

The commands that a command line gives. An option takes its value from the same argument, after an
equals sign or right after its letter, or from the next one. Nothing may be given twice but inputs,
and after two dashes every argument is an input.
-/

namespace CustomElement.Build

/-- A command. -/
inductive Command where
  | help
  | version
  | build (inputs : List Path) (s : Settings)
  | split (input : Path)

/-- An option that takes a value. -/
inductive Setting where
  | outDir
  | emit
  | baseClass
  | registry
deriving DecidableEq, Repr

/-- A switch. -/
inductive Switch where
  | noExport
  | semicolons
  | doubleQuote
deriving DecidableEq, Repr

/-- What an argument is. -/
inductive Argument where
  | help
  | escape
  | setting (s : Setting) (value : Option (List Char))
  | switch (s : Switch)
  | input (text : List Char)
  | unknown
deriving DecidableEq, Repr

/-- An argument cut at its first equals sign. -/
def splitEquals (text : List Char) : List Char × Option (List Char) :=
  match text.dropWhile (· != '=') with
  | [] => (text, none)
  | _ :: value => (text.takeWhile (· != '='), some value)

/-- An argument that starts with two dashes, after these. -/
def longArgument (text : List Char) : Argument :=
  let (name, value) := splitEquals text
  match String.ofList name, value with
  | "help", none => .help
  | "out-dir", v => .setting .outDir v
  | "emit", v => .setting .emit v
  | "base-class", v => .setting .baseClass v
  | "registry", v => .setting .registry v
  | "no-export", none => .switch .noExport
  | "semicolons", none => .switch .semicolons
  | "double-quote", none => .switch .doubleQuote
  | _, _ => .unknown

/-- An argument that starts with one dash, after it. -/
def shortArgument : List Char → Argument
  | 'h' :: _ => .help
  | ['o'] => .setting .outDir none
  | 'o' :: '=' :: value => .setting .outDir (some value)
  | 'o' :: value => .setting .outDir (some value)
  | _ => .unknown

/-- What an argument is. A lone dash is an input. -/
def classify (text : List Char) : Argument :=
  match text with
  | ['-', '-'] => .escape
  | '-' :: '-' :: rest => longArgument rest
  | ['-'] => .input text
  | '-' :: rest => shortArgument rest
  | _ => .input text

/-- What has been given so far. -/
structure Given where
  inputs : List (List Char) := []
  outDir : Option (List Char) := none
  emit : Option (List Char) := none
  baseClass : Option (List Char) := none
  registry : Option (List Char) := none
  switches : List Switch := []

/-- The value given for an option. -/
def Given.value? (g : Given) : Setting → Option (List Char)
  | .outDir => g.outDir
  | .emit => g.emit
  | .baseClass => g.baseClass
  | .registry => g.registry

/-- A value that an option can have: a path is not empty, and there are two forms. -/
def isValue : Setting → List Char → Bool
  | .outDir, v => !v.isEmpty
  | .emit, v => v == "js".toList || v == "ast".toList
  | _, _ => true

/-- What has been given with an option, unless it was given before or the value cannot be. -/
def Given.withSetting (g : Given) (s : Setting) (v : List Char) : Option Given :=
  if (g.value? s).isSome || !isValue s v then none
  else
    match s with
    | .outDir => some { g with outDir := some v }
    | .emit => some { g with emit := some v }
    | .baseClass => some { g with baseClass := some v }
    | .registry => some { g with registry := some v }

/-- What has been given with a switch, unless it was given before. -/
def Given.withSwitch (g : Given) (s : Switch) : Option Given :=
  if g.switches.contains s then none else some { g with switches := s :: g.switches }

/-- What has been given with an input, which is not empty. -/
def Given.withInput (g : Given) (text : List Char) : Option Given :=
  if text.isEmpty then none else some { g with inputs := g.inputs ++ [text] }

/-- What has been given with inputs. -/
def Given.withInputs : Given → List (List Char) → Option Given
  | g, [] => some g
  | g, text :: rest => (g.withInput text).bind (·.withInputs rest)

/-- What arguments give: help, or settings and inputs. None if they cannot be. -/
def readArguments : Given → List (List Char) → Option (Option Given)
  | g, [] => some (some g)
  | g, text :: rest =>
    match classify text with
    | .help => some none
    | .escape => (g.withInputs rest).map some
    | .unknown => none
    | .switch s => (g.withSwitch s).bind (readArguments · rest)
    | .input text => (g.withInput text).bind (readArguments · rest)
    | .setting s (some v) => (g.withSetting s v).bind (readArguments · rest)
    | .setting s none =>
      match rest with
      | [] => none
      | v :: after =>
        match classify v with
        | .input v => (g.withSetting s v).bind (readArguments · after)
        | _ => none

/-- The form that a value names. -/
def formOf (v : List Char) : Form :=
  if v == "ast".toList then .ast else .js

/-- The settings of a build. -/
def Given.settings (g : Given) : Settings where
  outDir := g.outDir.map (⟨·⟩)
  form := (g.emit.map formOf).getD .js
  compile :=
    { baseClass := (g.baseClass.map String.ofList).getD "HTMLElement"
      registry := (g.registry.map String.ofList).getD "customElements"
      exportClass := !g.switches.contains .noExport }
  print :=
    { singleQuote := !g.switches.contains .doubleQuote
      semicolons := g.switches.contains .semicolons }

/-- The command of the arguments of `build`. -/
def buildCommand (arguments : List (List Char)) : Option Command :=
  match readArguments {} arguments with
  | none => none
  | some none => some .help
  | some (some g) =>
    if g.inputs.isEmpty then none else some (.build (g.inputs.map (⟨·⟩)) g.settings)

/-- The command of the arguments of `split`, which has one input and no options. -/
def splitCommand : Option (List Char) → List (List Char) → Option Command
  | input, [] => input.map fun text => .split ⟨text⟩
  | input, text :: rest =>
    match classify text with
    | .help => some .help
    | .escape =>
      match input, rest with
      | some text, [] => some (.split ⟨text⟩)
      | none, [text] => if text.isEmpty then none else some (.split ⟨text⟩)
      | _, _ => none
    | .input text => if input.isSome || text.isEmpty then none else splitCommand (some text) rest
    | _ => none

/-- The names that help can be asked for. -/
def commandNames : List String :=
  ["build", "split", "help"]

/-- The command of `help` and the name after it. -/
def helpCommand : List (List Char) → Option Command
  | [] => some .help
  | [name] => if commandNames.contains (String.ofList name) then some .help else none
  | _ => none

/-- The command of an option in front of all commands. Letters after the first do not count. -/
def frontCommand : List Char → Option Command
  | '-' :: 'h' :: _ => some .help
  | '-' :: 'V' :: _ => some .version
  | text =>
    if text == "--help".toList then some .help
    else if text == "--version".toList then some .version
    else none

/-- The command of a command line. None if there is none that it could be. -/
def Command.parse : List String → Option Command
  | [] => none
  | name :: rest =>
    match name with
    | "build" => buildCommand (rest.map String.toList)
    | "split" => splitCommand none (rest.map String.toList)
    | "help" => helpCommand (rest.map String.toList)
    | _ => frontCommand name.toList

/-- The name and version of the program. -/
def versionText : String :=
  "lazyc 0.1.0\n"

/-- What a run leaves behind: its exit code, what it prints, the failures it reports, and why it
stopped. -/
structure Report where
  exit : Nat
  output : String := ""
  reported : List String := []
  fatal : Option String := none

/-- The report on a build. -/
def Outcome.report (o : Outcome) : Report where
  exit := if o.stop.isSome then 1 else 0
  reported := o.failures.map Failure.message
  fatal := o.stop.map Stop.message

/-- Runs a command. -/
def Command.run {m : Type → Type} [Monad m] (disk : Disk m) : Command → m Report
  | .help => return { exit := 0 }
  | .version => return { exit := 0, output := versionText }
  | .build inputs s => do return (← CustomElement.Build.build disk s inputs).report
  | .split input => do
    match ← CustomElement.Build.split disk input with
    | .ok text => return { exit := 0, output := text }
    | .error stop => return { exit := 1, fatal := some stop.message }

/-- Runs a command line. -/
def runArguments {m : Type → Type} [Monad m] (disk : Disk m) (arguments : List String) :
    m Report :=
  match Command.parse arguments with
  | some c => c.run disk
  | none => return { exit := 2 }

end CustomElement.Build
