import CustomElement.Build.CommandLine

/-!
# The program

Runs a command line on the disk of the machine. What it prints and its exit code are those of the
report on the run.
-/

namespace CustomElement.Build

/-- What went wrong, of the faults that the machine tells apart. -/
def faultOf : IO.Error → Fault
  | .noFileOrDirectory .. => .missing
  | .alreadyExists .. => .exists
  | .inappropriateType .. => .isDirectory
  | e => .other (toString e)

/-- The disk of the machine. -/
def machineDisk : Disk IO where
  isDirectory p := do
    let here ← IO.currentDir
    (here / p.display).isDir
  names p := do
    let here ← IO.currentDir
    return (← (here / p.display).readDir).toList.map fun e => e.fileName.toList
  read p := do
    try
      match String.fromUTF8? (← IO.FS.readBinFile p.display) with
      | some text => return .ok text
      | none => return .error .notText
    catch e => return .error (faultOf e)
  write p text := do
    try
      IO.FS.writeFile p.display text
      return .ok ()
    catch e => return .error (faultOf e)
  createDirectory p := do
    try
      IO.FS.createDirAll p.display
      return .ok ()
    catch e => return .error (faultOf e)

/-- Tells how the program is called. -/
def usageText : String :=
  "Usage: lazyc build [OPTIONS] <INPUT>...\n" ++
  "       lazyc split <INPUT>\n\n" ++
  "Options of build:\n" ++
  "  -o, --out-dir <DIR>       Directory for the output files\n" ++
  "      --emit <js|ast>       Output form\n" ++
  "      --base-class <CLASS>  Superclass of the element classes\n" ++
  "      --registry <OBJECT>   Object that registers the elements\n" ++
  "      --no-export           Declare the class without exporting it\n" ++
  "      --semicolons          End statements with semicolons\n" ++
  "      --double-quote        Put strings in double quotes\n"

/-- Prints what a run reports. -/
def printReport (report : Report) : IO UInt32 := do
  IO.print report.output
  for text in report.reported do IO.eprintln text
  if let some text := report.fatal then IO.eprintln ("error: " ++ text)
  return report.exit.toUInt32

end CustomElement.Build

open CustomElement.Build in
/-- Runs the command line. -/
def main (arguments : List String) : IO UInt32 := do
  match Command.parse arguments with
  | none => IO.eprint usageText
  | some .help => IO.print usageText
  | _ => pure ()
  printReport (← runArguments machineDisk arguments)
