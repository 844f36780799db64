import CustomElement.Component.Parts
import CustomElement.Component.Synthesis

/-!
# Compiling programs

A component's program becomes the module of its element: the exports give the props, and the props
the class.
-/

namespace CustomElement.Component

open CustomElement.Tree

/-- The result of a stage, with its faults as reports. -/
def reported {ε α : Type} (diagnostic : ε → Diagnostic) (r : Except ε α) : Except Diagnostic α :=
  r.mapError diagnostic

/-- A result whose report names the file. -/
def inFile {α : Type} (file : String) (r : Except Diagnostic α) : Except Diagnostic α :=
  r.mapError (·.withFile file)

/-- The element module of a component's program, by stages. -/
def compileStages (name : String) (p : Program) (o : Options) : Except Diagnostic Program := do
  let parts ← reported RefusedExport.diagnostic (Parts.ofProgram p)
  let props ← reported PropertyFault.diagnostic (propertiesOfExports parts.exports)
  reported NameFault.diagnostic (synthesize name props parts.imports o)

/-- The element module of a component's program. Reports name the file of the options. -/
def compileProgram (name : String) (p : Program) (o : Options) : Except Diagnostic Program :=
  inFile o.filePath (compileStages name p o)

end CustomElement.Component
