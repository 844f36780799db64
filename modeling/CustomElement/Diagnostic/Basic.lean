/-!
# Diagnostics

What is reported when a component cannot be compiled. Every kind of failure has a code and states the
guarantee that the input broke.
-/

namespace CustomElement

namespace Diagnostic

/-- The ways in which a compilation fails. -/
inductive Kind where
  /-- A default export, a wildcard export, or a re-export from another module. -/
  | unsupportedExportShape
  /-- An exported declaration other than a variable or a function. -/
  | unsupportedDeclarationShape
  /-- A destructuring pattern in an exported variable declaration. -/
  | unsupportedBindingPattern
  /-- A named export with nothing in it. -/
  | malformedExport
  /-- An export clause that is not a plain `local as exported`. -/
  | malformedSpecifier
  /-- Two props share a name. -/
  | duplicateProp
  /-- The component's name gives no class name. -/
  | invalidComponentName
  /-- The script region is not a module. -/
  | scriptSyntax
  /-- The template region is not markup. -/
  | templateSyntax
  /-- Valid source without a tree, or a tree without a written form. -/
  | unsupportedSyntax
deriving DecidableEq, Repr

namespace Kind

/-- All kinds. -/
def all : List Kind := [
  unsupportedExportShape, unsupportedDeclarationShape, unsupportedBindingPattern,
  malformedExport, malformedSpecifier, duplicateProp, invalidComponentName, scriptSyntax,
  templateSyntax, unsupportedSyntax]

/-- The name of a kind. -/
def name : Kind → String
  | unsupportedExportShape => "UnsupportedExportShape"
  | unsupportedDeclarationShape => "UnsupportedDeclarationShape"
  | unsupportedBindingPattern => "UnsupportedBindingPattern"
  | malformedExport => "MalformedExport"
  | malformedSpecifier => "MalformedSpecifier"
  | duplicateProp => "DuplicateProp"
  | invalidComponentName => "InvalidComponentName"
  | scriptSyntax => "ScriptSyntax"
  | templateSyntax => "TemplateSyntax"
  | unsupportedSyntax => "UnsupportedSyntax"

/-- The kind with the given name. -/
def ofName? (s : String) : Option Kind :=
  all.find? (·.name == s)

/-- The code of a kind. -/
def code : Kind → String
  | unsupportedExportShape => "LAZY-E001"
  | unsupportedDeclarationShape => "LAZY-E002"
  | unsupportedBindingPattern => "LAZY-E003"
  | malformedExport => "LAZY-E004"
  | malformedSpecifier => "LAZY-E005"
  | duplicateProp => "LAZY-E006"
  | invalidComponentName => "LAZY-E007"
  | scriptSyntax => "LAZY-E101"
  | templateSyntax => "LAZY-E102"
  | unsupportedSyntax => "LAZY-E103"

/-- What holds of every component that compiles, and does not hold here. -/
def guarantee : Kind → String
  | unsupportedExportShape =>
    "A component is described only by its named exports; default and wildcard exports have no " ++
      "prop mapping."
  | unsupportedDeclarationShape => "Only exported variables and functions become props."
  | unsupportedBindingPattern => "Every exported binding maps to exactly one named prop."
  | malformedExport => "Every named export declares or re-exports something."
  | malformedSpecifier => "Re-exports name a local binding and an external name."
  | duplicateProp =>
    "Prop external names, accessor keys and backing bindings are unique within a component."
  | invalidComponentName => "Every component name yields a JavaScript class name."
  | scriptSyntax => "The script region is a valid module."
  | templateSyntax => "The template region is well-formed markup."
  | unsupportedSyntax => "All accepted syntax has a tree model representation."

end Kind

end Diagnostic

/-- A report on a component that cannot be compiled. -/
structure Diagnostic where
  code : String
  kind : Diagnostic.Kind
  message : String
  guarantee : String
  /-- The path of the component; empty while it is not known. -/
  file : String
  /-- A short description of the offending part. -/
  context : Option String
  hints : List String
deriving DecidableEq, Repr

namespace Diagnostic

/-- A report of the given kind, with nothing known but its message. -/
def ofKind (kind : Kind) (message : String) : Diagnostic where
  code := kind.code
  kind := kind
  message := message
  guarantee := kind.guarantee
  file := ""
  context := none
  hints := []

/-- The report with a description of the offending part. -/
def withContext (d : Diagnostic) (context : String) : Diagnostic :=
  { d with context := some context }

/-- The report with one more hint. -/
def withHint (d : Diagnostic) (hint : String) : Diagnostic :=
  { d with hints := d.hints ++ [hint] }

/-- The report with the path of the component, unless it has one already. -/
def withFile (d : Diagnostic) (file : String) : Diagnostic :=
  if d.file.isEmpty then { d with file := file } else d

/-- The report in one line. -/
def summary (d : Diagnostic) : String :=
  "[" ++ d.code ++ "] " ++ d.message

end Diagnostic

end CustomElement
