import CustomElement.Tree.Decode

/-!
# Programs from JSON

The clauses of a module, markup, and whole programs.
-/

namespace CustomElement.Tree

open Json (Fields)

/-- A function in a place that holds nothing else. -/
def Func.decode (kept : Bool) (j : Json) : Option Func :=
  (readers j.depth).func kept j

/-- A class in a place that holds nothing else. -/
def ClassDef.decode (kept : Bool) (j : Json) : Option ClassDef :=
  (readers j.depth).classDef kept j

/-- A member of a class body. -/
def ClassMember.decode (kept : Bool) (j : Json) : Option ClassMember :=
  (readers j.depth).classMember kept j

/-- A method in a place that holds nothing else. -/
def ClassMember.decodeMethod (kept : Bool) (j : Json) : Option ClassMember := do
  (readers j.depth).methodOfFields kept (← j.fields? 5)

/-- The kinds of names in import and export clauses. -/
def exportNameKinds : List String :=
  ["Identifier", "Literal"]

/-- A name in an import or export clause. -/
def ExportName.decode (kept : Bool) (j : Json) : Option ExportName := do
  let (kind, f) ← j.tagged? kept exportNameKinds
  match kind with
  | "Identifier" => (nameOfFields f).map .identifier
  | _ => (Literal.ofFields f).map .literal

/-- The kinds of imported names. -/
def importClauseKinds : List String :=
  ["ImportSpecifier", "ImportDefaultSpecifier", "ImportNamespaceSpecifier"]

/-- An imported name. -/
def ImportClause.decode (kept : Bool) (j : Json) : Option ImportClause := do
  let (kind, f) ← j.tagged? kept importClauseKinds
  match kind with
  | "ImportSpecifier" =>
    if f.fits 2 then
      some (.named (← f.required 0 "imported" (ExportName.decode true))
        (← f.required 1 "local" decodeName))
    else none
  | "ImportDefaultSpecifier" =>
    if f.fits 1 then (f.required 0 "local" decodeName).map .default else none
  | _ => if f.fits 1 then (f.required 0 "local" decodeName).map .namespace else none

/-- An import from its fields. -/
def Import.ofFields (kept : Bool) (f : Fields) : Option Import :=
  if f.fits 2 then do
    some {
      clauses := ← f.withDefault 0 "specifiers" [] (Json.list (ImportClause.decode kept))
      source := ← f.required 1 "source" Literal.decode }
  else none

/-- An import in a place that holds nothing else. -/
def Import.decode (kept : Bool) (j : Json) : Option Import := do
  Import.ofFields kept (← j.fields? 2)

/-- The kinds of exported names. -/
def exportClauseKinds : List String :=
  ["ExportSpecifier", "ExportNamespaceSpecifier", "ExportDefaultSpecifier"]

/-- An exported name. -/
def ExportClause.decode (kept : Bool) (j : Json) : Option ExportClause := do
  let (kind, f) ← j.tagged? kept exportClauseKinds
  match kind with
  | "ExportSpecifier" =>
    if f.fits 2 then
      some (.named (← f.required 0 "local" (ExportName.decode true))
        (← f.required 1 "exported" (ExportName.decode true)))
    else none
  | "ExportNamespaceSpecifier" =>
    if f.fits 1 then (f.required 0 "exported" (ExportName.decode true)).map .namespace else none
  | _ =>
    if f.fits 1 then (f.required 0 "exported" (ExportName.decode true)).map .default else none

/-- The kinds of declarations that can be exported. -/
def declarationKinds : List String :=
  ["VariableDeclaration", "FunctionDeclaration", "ClassDeclaration"]

/-- A declaration that can be exported. -/
def Declaration.decode (kept : Bool) (j : Json) : Option Declaration := do
  let (kind, f) ← j.tagged? kept declarationKinds
  let r := readers j.depth
  match kind with
  | "VariableDeclaration" => (r.variablesOfFields true f).map fun (k, ds) => .variables k ds
  | "FunctionDeclaration" => (r.funcOfFields true f).map .function
  | _ => (r.classOfFields true f).map .classDef

/-- A named export from its fields. -/
def NamedExport.ofFields (kept : Bool) (f : Fields) : Option NamedExport :=
  if f.fits 3 then do
    some {
      declaration := ← f.optional 0 "declaration" (Declaration.decode kept)
      clauses := ← f.withDefault 1 "specifiers" [] (Json.list (ExportClause.decode kept))
      source := ← f.withDefault 2 "source" none (Json.nullable Literal.decode) }
  else none

/-- A named export in a place that holds nothing else. -/
def NamedExport.decode (kept : Bool) (j : Json) : Option NamedExport := do
  NamedExport.ofFields kept (← j.fields? 3)

/-- The kinds of declarations that a default export can hold. -/
def defaultExportKinds : List String :=
  ["FunctionDeclaration", "ClassDeclaration"]

/-- What a default export exports: a declaration, or else an expression. -/
def DefaultExport.decode (j : Json) : Option DefaultExport :=
  let declaration := do
    let (kind, f) ← j.tagged? true defaultExportKinds
    let r := readers j.depth
    match kind with
    | "FunctionDeclaration" => (r.funcOfFields true f).map DefaultExport.function
    | _ => (r.classOfFields true f).map DefaultExport.classDef
  match declaration with
  | some e => some e
  | none => (Expr.decode true j).map .expression

/-- The expression of a markup binding from its fields. -/
def bindingOfFields (kept : Bool) (f : Fields) : Option Expr :=
  if f.fits 1 then f.required 0 "expression" (Expr.decode kept) else none

/-- The kinds of pieces of an attribute's value. -/
def attributePieceKinds : List String :=
  ["Literal", "DataBinding"]

/-- A piece of an attribute's value. -/
def AttributePiece.decode (kept : Bool) (j : Json) : Option AttributePiece := do
  let (kind, f) ← j.tagged? kept attributePieceKinds
  match kind with
  | "Literal" => (Literal.ofFields f).map .literal
  | _ => (bindingOfFields true f).map .binding

/-- An attribute. -/
def Attribute.decode (kept : Bool) (j : Json) : Option Attribute := do
  let f ← j.fields? 2
  some {
    name := ← f.required 0 "name" Json.text?
    value := ← f.withDefault 1 "value" [] (Json.list (AttributePiece.decode kept)) }

/-- An element from its fields; `child` reads its children. -/
def Element.ofFields (child : Bool → Json → Option Child) (kept : Bool) (f : Fields) :
    Option Element :=
  if f.fits 3 then do
    some ⟨← f.required 0 "tag" Json.text?,
      ← f.withDefault 1 "attributes" [] (Json.list (Attribute.decode kept)),
      ← f.withDefault 2 "children" [] (Json.list (child kept))⟩
  else none

/-- The kinds of children of an element. -/
def childKinds : List String :=
  ["Literal", "DataBinding", "Element"]

/-- A child of an element, read in a round. -/
def childReader : Nat → Bool → Json → Option Child
  | 0, _, _ => none
  | n + 1, kept, j => do
    let (kind, f) ← j.tagged? kept childKinds
    match kind with
    | "Literal" => (Literal.ofFields f).map .literal
    | "DataBinding" => (bindingOfFields true f).map .binding
    | _ => (Element.ofFields (childReader n) true f).map .element

/-- A child of an element. -/
def Child.decode (kept : Bool) (j : Json) : Option Child :=
  childReader j.depth kept j

/-- An element in a place that holds nothing else. -/
def Element.decode (kept : Bool) (j : Json) : Option Element := do
  Element.ofFields (childReader j.depth) kept (← j.fields? 3)

/-- The kinds of entries of a program that are not statements. -/
def itemKinds : List String := [
  "ImportDeclaration", "ExportNamedDeclaration", "ExportDefaultDeclaration",
  "ExportAllDeclaration", "Element"]

/-- An entry of a program that is not a statement. -/
def Item.ofFields (j : Json) (kind : String) (f : Fields) : Option Item :=
  match kind with
  | "ImportDeclaration" => (Import.ofFields true f).map .import
  | "ExportNamedDeclaration" => (NamedExport.ofFields true f).map .exportNamed
  | "ExportDefaultDeclaration" =>
    if f.fits 1 then (f.required 0 "declaration" DefaultExport.decode).map .exportDefault else none
  | "ExportAllDeclaration" =>
    if f.fits 2 then do
      some (.exportAll (← f.required 0 "source" Literal.decode)
        (← f.optional 1 "exported" (ExportName.decode true)))
    else none
  | _ => (Element.ofFields (childReader j.depth) true f).map .element

/-- An entry of a program: one of the kinds above, or else a statement. -/
def Item.decode (j : Json) : Option Item :=
  let item := do
    let (kind, f) ← j.tagged? true itemKinds
    Item.ofFields j kind f
  match item with
  | some item => some item
  | none => (Stmt.decode true j).map .statement

/-- A program. -/
def Program.decode (j : Json) : Option Program := do
  let f ← j.fields? 2
  some {
    sourceType := ← f.withDefault 0 "sourceType" .module
      (Json.word? false [.script, .module] SourceType.word)
    body := ← f.required 1 "body" (Json.list Item.decode) }

end CustomElement.Tree
