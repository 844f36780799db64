import CustomElement.Diagnostic.Basic
import CustomElement.Emit.Program

/-!
# Props

Every name that a component exports is a prop: a value that users of the element observe and, unless
it is constant, set. Props follow the source order of the names.
-/

namespace CustomElement.Component

open CustomElement.Tree

/-- An observable value of a component. -/
structure Property where
  /-- The name by which users know the prop. -/
  externalName : String
  /-- The binding that holds the value. -/
  internalName : String
  initialValue : Option Expr
  constant : Bool

/-- Why an export gives no props. -/
inductive PropertyFault where
  /-- Neither a declaration nor a list of names. -/
  | emptyExport
  /-- A variable whose target, of the given kind, is not a plain name. -/
  | destructured (pattern : String)
  /-- A function without a name. -/
  | namelessFunction
  /-- A class. -/
  | classDeclaration
  /-- A re-export from another module. -/
  | reexport (source : String)
  /-- An export clause of another kind. -/
  | clause (kind : String)
  /-- An export clause whose names are not words or strings. -/
  | clauseNames
deriving DecidableEq, Repr

/-- The report on an export that gives no props. -/
def PropertyFault.diagnostic : PropertyFault → Diagnostic
  | .emptyExport =>
    (Diagnostic.ofKind .malformedExport
      "Named export has neither a declaration nor specifiers").withContext
      "ExportNamedDeclaration"
  | .destructured pattern =>
    ((Diagnostic.ofKind .unsupportedBindingPattern
      "Exported variables must bind a plain identifier").withContext pattern).withHint
      "Export each value under its own name, e.g. `export let a, b`"
  | .namelessFunction =>
    (Diagnostic.ofKind .malformedExport "Exported function declaration has no name").withContext
      "FunctionDeclaration"
  | .classDeclaration =>
    ((Diagnostic.ofKind .unsupportedDeclarationShape
      "Unexpected declaration type: ClassDeclaration").withContext "ClassDeclaration").withHint
      "Only `let`, `const`, `var` and `function` exports become props"
  | .reexport source =>
    ((Diagnostic.ofKind .unsupportedExportShape
      ("Re-exporting from '" ++ source ++ "' is not supported")).withContext
      "ExportNamedDeclaration").withHint "Import the value first, then export the local binding"
  | .clause kind =>
    (Diagnostic.ofKind .malformedSpecifier ("Unexpected export specifier: " ++ kind)).withContext
      kind
  | .clauseNames =>
    (Diagnostic.ofKind .malformedSpecifier
      "Export specifier names must be identifiers or strings").withContext "ExportSpecifier"

/-- The name of the kind of a pattern. -/
def patternKindName : Pattern → String
  | .identifier _ => "Identifier"
  | .object _ => "ObjectPattern"
  | .array _ => "ArrayPattern"
  | .rest _ => "RestElement"
  | .withDefault .. => "AssignmentPattern"
  | .member .. => "MemberExpression"

/-- The prop of an exported variable. -/
def propertyOfDeclarator (kind : VariableKind) (d : Declarator) : Except PropertyFault Property :=
  match d.target with
  | .identifier name => pure ⟨name, name, d.init, kind == .const⟩
  | other => throw (.destructured (patternKindName other))

/-- The props of an exported declaration. -/
def propertiesOfDeclaration : Declaration → Except PropertyFault (List Property)
  | .variables kind declarations => declarations.mapM (propertyOfDeclarator kind)
  | .function f =>
    match f.name with
    | some name => pure [⟨name, name, some (.function f), true⟩]
    | none => throw .namelessFunction
  | .classDef _ => throw .classDeclaration

/-- The prop of an export clause. -/
def propertyOfClause : ExportClause → Except PropertyFault Property
  | .named binding exported =>
    match binding.name?, exported.name? with
    | some internal, some external =>
      pure ⟨external, internal, some (.identifier internal), true⟩
    | _, _ => throw .clauseNames
  | other => throw (.clause other.kindName)

/-- The text of a literal, empty unless it is a string. -/
def literalText (l : Literal) : String :=
  match l.value with
  | .string s => s
  | _ => ""

/-- The props of a named export. -/
def propertiesOfExport (e : NamedExport) : Except PropertyFault (List Property) :=
  match e.declaration with
  | some d => propertiesOfDeclaration d
  | none =>
    if e.clauses.isEmpty then throw .emptyExport
    else
      match e.source with
      | some source => throw (.reexport (literalText source))
      | none => e.clauses.mapM propertyOfClause

/-- The props of a list of named exports. -/
def propertiesOfExports (exports : List NamedExport) : Except PropertyFault (List Property) := do
  let props ← exports.mapM propertiesOfExport
  pure props.flatten

end CustomElement.Component
