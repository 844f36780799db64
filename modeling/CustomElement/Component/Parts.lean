import CustomElement.Diagnostic.Basic
import CustomElement.Tree.Basic

/-!
# The parts of a component

The items of a component's program fall into imports, named exports, and the rest. Default and
wildcard exports are refused.
-/

namespace CustomElement.Component

open CustomElement.Tree

/-- The items of a program by kind, each in source order. -/
structure Parts where
  imports : List Import := []
  exports : List NamedExport := []
  /-- Statements and markup. -/
  fragment : List Item := []

/-- An export that describes no prop. -/
inductive RefusedExport where
  | default
  | wildcard
deriving DecidableEq, Repr

/-- The report on an export that describes no prop. -/
def RefusedExport.diagnostic : RefusedExport → Diagnostic
  | .default =>
    ((Diagnostic.ofKind .unsupportedExportShape
      "ExportDefaultDeclaration is not supported").withContext
      "ExportDefaultDeclaration").withHint
      "Props are declared with named exports, e.g. `export let title`"
  | .wildcard =>
    (Diagnostic.ofKind .unsupportedExportShape "ExportAllDeclaration is not supported").withContext
      "ExportAllDeclaration"

/-- The parts of a list of items, up to the first refused export. -/
def Parts.ofItems : List Item → Except RefusedExport Parts
  | [] => pure {}
  | .import i :: rest => do
    let p ← ofItems rest
    pure { p with imports := i :: p.imports }
  | .exportNamed e :: rest => do
    let p ← ofItems rest
    pure { p with exports := e :: p.exports }
  | .exportDefault _ :: _ => throw .default
  | .exportAll .. :: _ => throw .wildcard
  | item :: rest => do
    let p ← ofItems rest
    pure { p with fragment := item :: p.fragment }

/-- The parts of a program. -/
def Parts.ofProgram (p : Program) : Except RefusedExport Parts :=
  ofItems p.body

end CustomElement.Component
