import CustomElement.Diagnostic.Basic
import CustomElement.Emit.Printer
import CustomElement.Json.Fields

/-!
# Printing programs

The items of a program are printed one to a line. A program has a written form unless one of its
parts has none, and then the first such part is reported.
-/

namespace CustomElement

open CustomElement.Tree

/-- The name as it is read: the word itself, or the value of a string. -/
def Tree.ExportName.name? : ExportName → Option String
  | .identifier name => some name
  | .literal ⟨.string s, _, _⟩ => some s
  | .literal _ => none

/-- The name of the kind of an export clause. -/
def Tree.ExportClause.kindName : ExportClause → String
  | .named .. => "ExportSpecifier"
  | .namespace _ => "ExportNamespaceSpecifier"
  | .default _ => "ExportDefaultSpecifier"

namespace Emit

/-- A name in an import or export clause. -/
def exportNameDoc : ExportName → Doc
  | .identifier name => word name
  | .literal l => literalDoc l

/-- A name in the list of an import. -/
def importedDoc (imported : ExportName) (binding : String) : Doc :=
  exportNameDoc imported ++
    if imported.name? == some binding then [] else word " as " ++ word binding

/-- The default and namespace names of an import, which stand outside of the list. -/
def outerImportDocs (clauses : List ImportClause) : List Doc :=
  clauses.filterMap fun
    | .default binding => some (word binding)
    | .namespace binding => some (word "* as " ++ word binding)
    | .named .. => none

/-- The names in the list of an import. -/
def listedImportDocs (clauses : List ImportClause) : List Doc :=
  clauses.filterMap fun
    | .named imported binding => some (importedDoc imported binding)
    | _ => none

/-- A list between braces, with blanks inside. -/
def bracesDoc (docs : List Doc) : Doc :=
  word "\x7b " ++ commaSeparated docs ++ word " \x7d"

/-- An import declaration. -/
def importDoc (i : Import) : Doc :=
  let listed := listedImportDocs i.clauses
  let parts := outerImportDocs i.clauses ++ if listed.isEmpty then [] else [bracesDoc listed]
  word "import " ++ commaSeparated parts ++ (if parts.isEmpty then [] else word " from ") ++
    literalDoc i.source ++ [.stop]

/-- An export clause, which has to be a pair of names. -/
def exportClauseDoc : ExportClause → Printed Doc
  | .named binding exported =>
    pure (exportNameDoc binding ++
      if binding.name? == exported.name? then [] else word " as " ++ exportNameDoc exported)
  | other => throw (.exportClause other.kindName)

/-- A declaration. -/
def declarationDoc : Declaration → Printed Doc
  | .variables kind declarations => do
    let ds ← declaratorDocs 0 false declarations
    pure (variablesDoc kind ds ++ [.stop])
  | .function f => do
    let t ← functionTailDoc 0 false f
    pure (functionHead f ++ t)
  | .classDef c => classDoc 0 false c

/-- A module's name after `from`, if there is one. -/
def fromDoc : Option Literal → Doc
  | some source => word " from " ++ literalDoc source
  | none => []

/-- A named export. A declaration hides the clauses beside it. -/
def namedExportDoc (e : NamedExport) : Printed Doc :=
  match e.declaration with
  | some d => do
    let doc ← declarationDoc d
    pure (word "export " ++ doc)
  | none => do
    let ds ← e.clauses.mapM exportClauseDoc
    pure (word "export " ++ (if ds.isEmpty then word "\x7b\x7d" else bracesDoc ds) ++
      fromDoc e.source ++ [.stop])

/-- Whether an expression after `export default` is read as a declaration, as it may be. -/
def isDeclarationLike : Expr → Bool
  | .function _ | .classDef _ => true
  | _ => false

/-- A default export. -/
def defaultExportDoc : DefaultExport → Printed Doc
  | .function f => do
    let t ← functionTailDoc 0 false f
    pure (word "export default " ++ functionHead f ++ t)
  | .classDef c => do
    let d ← classDoc 0 false c
    pure (word "export default " ++ d)
  | .expression e => do
    let d ← exprDoc 0 false e
    let d := enclose false Precedence.assignment e d
    let closed := !isDeclarationLike e && isAmbiguousStart d.chars
    pure (word "export default " ++ (if closed then parens d else d) ++ [.stop])

/-- A wildcard export. -/
def exportAllDoc (source : Literal) (exported : Option ExportName) : Doc :=
  word "export *" ++
    (match exported with
    | some name => word " as " ++ exportNameDoc name
    | none => []) ++
    word " from " ++ literalDoc source ++ [.stop]

/-- An item; `follows` says that another one stands before it. -/
def itemDoc (follows : Bool) : Item → Printed Doc
  | .import i => pure (importDoc i)
  | .exportNamed e => namedExportDoc e
  | .exportDefault e => defaultExportDoc e
  | .exportAll source exported => pure (exportAllDoc source exported)
  | .element e => throw (.markup e.tag)
  | .statement s => stmtDoc 0 false follows s

/-- The items of a program, each on a line of its own. -/
def itemDocs (follows : Bool) : List Item → Printed Doc
  | [] => pure []
  | i :: rest => do
    let d ← itemDoc follows i
    let ds ← itemDocs true rest
    pure (d ++ .line 0 :: ds)

/-- The document of a program. -/
def programDoc (p : Program) : Printed Doc :=
  itemDocs false p.body

/-- The document of an expression by itself. -/
def expressionDoc (e : Expr) : Printed Doc := do
  let d ← exprDoc 0 false e
  pure (enclose false Precedence.sequence e d)

/-- The report on a part without a written form. -/
def Unprintable.diagnostic : Unprintable → Diagnostic
  | .markup tag =>
    ((Diagnostic.ofKind .unsupportedSyntax "Markup elements have no JavaScript form").withContext
      ("<" ++ tag ++ ">")).withHint "Compile the component before emitting it"
  | .exportClause kind =>
    (Diagnostic.ofKind .unsupportedSyntax (kind ++ " has no JavaScript form")).withContext kind
  | .memberProperty =>
    .ofKind .unsupportedSyntax "Non-computed member property must be an identifier"
  | .methodValue =>
    .ofKind .unsupportedSyntax "Object methods and accessors must have a function value"

/-- The text of a document. -/
def Doc.text (o : Options) (d : Doc) : String :=
  String.ofList (d.render o)

/-- The text of a program. -/
def program (p : Program) (o : Options) : Except Unprintable String :=
  (programDoc p).map (Doc.text o)

/-- The text of an expression. -/
def expression (e : Expr) (o : Options) : Except Unprintable String :=
  (expressionDoc e).map (Doc.text o)

/-- The options as JSON. -/
def Options.encode (o : Options) : Json :=
  .object [("singleQuote", .bool o.singleQuote), ("semicolons", .bool o.semicolons),
    ("indent", .natural o.indent)]

/-- The options from JSON; those that are missing keep their defaults. -/
def Options.decode (j : Json) : Option Options := do
  let f ← j.fields? 3
  let defaults : Options := {}
  some {
    singleQuote := ← f.withDefault 0 "singleQuote" defaults.singleQuote Json.bool?
    semicolons := ← f.withDefault 1 "semicolons" defaults.semicolons Json.bool?
    indent := ← f.withDefault 2 "indent" defaults.indent Json.natural? }

end Emit

end CustomElement
