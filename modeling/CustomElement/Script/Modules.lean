import CustomElement.Script.Declarations

/-!
# Imports and exports

Imports and exports of types only leave no trace. Attributes and phases have no tree.
-/

namespace CustomElement.Script

open CustomElement.Tree (ExportName ImportClause ExportClause)

namespace Reader

/-- Nothing, as a module item. -/
def erasedItem : Item :=
  .statement .erased

/-- A module item without a tree. -/
def unsupportedItem (feature text : String) : Item :=
  .statement (.unsupported ⟨feature, text⟩)

/-- A name of an export: a word or a string. A surrogate in it has its partner. -/
def exportName : Reader ExportName := do
  match (← get).token with
  | .string value raw =>
    faultIf (hasLoneSurrogate raw)
    advance
    return .literal ⟨.string value, none, none⟩
  | _ => return .identifier (← anyName)

/-- Whether a name of an export stands here. -/
def atExportName : Reader Bool := do
  match (← get).token with
  | .word _ _ | .string _ _ => return true
  | _ => return false

/-- A name in braces: what it is, what it is called on the other side if `as` follows, and whether it
is for types only. -/
structure Specifier where
  typeOnly : Bool
  name : ExportName
  otherName : Option ExportName

/-- The name after `as`, if there is one. -/
def aliasName : Reader (Option ExportName) := do
  if ← eatWord "as" then return some (← exportName) else return none

/-- A specifier that starts with the words `type` and `as`, after these. -/
def typeAsSpecifier : Reader Specifier := do
  if ← atWord "as" then
    advance
    if ← atExportName then return ⟨true, .identifier "as", some (← exportName)⟩
    else return ⟨false, .identifier "type", some (.identifier "as")⟩
  else if ← atExportName then return ⟨false, .identifier "type", some (← exportName)⟩
  else return ⟨true, .identifier "as", none⟩

/-- A name in braces. -/
def specifier : Reader Specifier := do
  let isType ← atWord "type"
  let name ← exportName
  if isType && (← atWord "as") then
    advance
    typeAsSpecifier
  else if isType && (← atExportName) then
    let name ← exportName
    return ⟨true, name, ← aliasName⟩
  else return ⟨false, name, ← aliasName⟩

/-- The names in braces. -/
def specifiers (r : Readers) : Reader (List Specifier) := do
  expect "\x7b"
  let (names, _) ← separated "\x7d" "," specifier (r.limit + 1)
  expect "\x7d"
  return names

/-- A key or a string as text. -/
def attributeKey : Reader String := do
  match (← get).token with
  | .string value _ =>
    advance
    return value
  | _ => anyName

/-- The key of a pair of a key and a string. -/
def attributePair : Reader String := do
  let key ← attributeKey
  expect ":"
  let _ ← stringLiteral
  return key

/-- The text of the attributes of an import in braces. No two of them have the same key. -/
def attributes (r : Readers) : Reader (Option String) := do
  let present ← if ← atWord "with" then pure true
    else pure ((← atWord "assert") && !(← onNewLine))
  if present then
    bump
    let start := (← get).here
    expect "\x7b"
    let (keys, _) ← separated "\x7d" "," attributePair (r.limit + 1)
    faultIf !(decide keys.Nodup)
    expect "\x7d"
    return some (← textSince start)
  else return none

/-! ## Imports -/

/-- Whether a name in braces can be bound by an import. -/
def isBindable : ExportName → Bool
  | .identifier n => isNameWord n
  | _ => false

/-- The clause of a name in braces. The local name has to be one that can be bound. -/
def importClause (s : Specifier) : Reader (Option ImportClause) := do
  let bound := s.otherName.getD s.name
  faultIf !(isBindable bound)
  match bound with
  | .identifier n => return if s.typeOnly then none else some (.named s.name n)
  | _ => return none

/-- The clauses of names in braces. -/
def importClauses : List Specifier → Reader (List ImportClause)
  | [] => return []
  | s :: rest => do
    let clause ← importClause s
    return clause.toList ++ (← importClauses rest)

/-- The clauses of an import in braces or after a star, and whether all of them were for types. Where
the whole import is for types, none of them is marked as one. -/
def importedNames (r : Readers) (c : Context) (typeOnly : Bool) :
    Reader (List ImportClause × Bool) := do
  if ← eat "*" then
    expectWord "as"
    return ([.namespace (← name c)], false)
  else
    let names ← specifiers r
    faultIf (typeOnly && names.any (·.typeOnly))
    let clauses ← importClauses names
    return (clauses, clauses.isEmpty && !names.isEmpty)

/-- The clauses of an import, after a default name if it was read. -/
def importedClauses (r : Readers) (c : Context) (typeOnly : Bool) (default : Option String) :
    Reader (List ImportClause × Bool) := do
  match default with
  | none => importedNames r c typeOnly
  | some n =>
    if ← eat "," then
      let (clauses, _) ← importedNames r c typeOnly
      return (.default n :: clauses, false)
    else return ([.default n], false)

/-- What kind of import the words in front of its clauses make it. -/
inductive ImportMode where
  | value
  | type
  | phase
deriving DecidableEq, Repr

/-- Whether `from` or an equals sign follows the current token. -/
def beforeFromOrEquals : Reader Bool :=
  looksLike do
    advance
    return (← atWord "from") || (← atPunct "=")

/-- Whether a string follows the current token. -/
def beforeString : Reader Bool :=
  looksLike do
    advance
    match (← get).token with
    | .string _ _ => return true
    | _ => return false

/-- Whether the word `type` that was just read makes an import one of types. -/
def isTypeImport : Reader Bool := do
  let named ← atName
  let isName ← if ← atWord "from" then beforeFromOrEquals else pure named
  return isName || (← atAnyPunct ["*", "\x7b"])

/-- Whether the word `defer` or `source` that was just read names a phase. -/
def isPhase (w : String) : Reader Bool := do
  if w == "defer" then
    if ← atWord "from" then return !(← beforeString)
    else return !(← atAnyPunct [",", "="])
  else if w == "source" then
    if ← atWord "from" then beforeFromOrEquals else atName
  else return false

/-- The first name of an import, and what the words before it make of the import. -/
def importMode (c : Context) : Reader (ImportMode × Option String) := do
  if ← atName then
    let first ← name c
    let isType ← if first == "type" then isTypeImport else pure false
    let phased ← isPhase first
    if isType || phased then
      let mode := if isType then ImportMode.type else .phase
      if ← atName then return (mode, some (← name c)) else return (mode, none)
    else return (.value, some first)
  else return (.value, none)

/-- What follows the clauses of an import. -/
def importTail (r : Readers) (start : List Char) (mode : ImportMode) (clauses : List ImportClause)
    (typesOnly : Bool) : Reader Item := do
  let source ← stringLiteral
  let attributed ← attributes r
  endStatement
  if mode == .type then return erasedItem
  else if mode == .phase then return unsupportedItem "Import phases" (← textSince start)
  else
    match attributed with
    | some text => return unsupportedItem "Import attributes" text
    | none =>
      if typesOnly then return erasedItem
      else return .import ⟨clauses, ⟨.string source, none, none⟩⟩

/-- An import. -/
def importItem (r : Readers) (c : Context) : Reader Item := do
  let start := (← get).here
  bump
  match (← get).token with
  | .string _ _ => importTail r start .value [] false
  | _ =>
    let (mode, default) ← importMode c
    if default.isSome && (← atPunct "=") then
      let s ← importAlias r start
      return .statement s
    let (clauses, typesOnly) ← importedClauses r c (mode == .type) default
    expectWord "from"
    importTail r start mode clauses typesOnly

/-! ## Exports -/

/-- The words that a local name in an export cannot be. -/
def unexportableWords : List String :=
  ["await", "implements", "interface", "let", "package", "private", "protected", "public", "static",
    "yield"]

/-- Whether a name can be one that a module binds. -/
def isLocalName : ExportName → Bool
  | .identifier n => isNameWord n && !unexportableWords.contains n
  | _ => false

/-- The clause of a name in braces; none if it is for types only. -/
def exportClause (s : Specifier) : Option ExportClause :=
  if s.typeOnly then none else some (.named s.name (s.otherName.getD s.name))

/-- What follows the braces of an export. Without a module to export from, its names have to be ones
that this module can bind. Where the whole export is for types, none of them is marked as one. -/
def exportTail (r : Readers) (names : List Specifier) (typeOnly : Bool) : Reader Item := do
  let source ← if ← eatWord "from" then some <$> stringLiteral else pure none
  let attributed ← if source.isSome then attributes r else pure none
  endStatement
  faultIf (source.isNone && names.any fun s => !isLocalName s.name)
  faultIf (typeOnly && names.any (·.typeOnly))
  let clauses := names.filterMap exportClause
  if typeOnly then return erasedItem
  match attributed with
  | some text => return unsupportedItem "Import attributes" text
  | none =>
    if clauses.isEmpty && !names.isEmpty then return erasedItem
    else return .exportClauses clauses source

/-- An export of all names of a module, after the star. -/
def exportAllTail (r : Readers) (typeOnly : Bool) : Reader Item := do
  let exported ← aliasName
  expectWord "from"
  let source ← stringLiteral
  let attributed ← attributes r
  endStatement
  if typeOnly then return erasedItem
  match attributed with
  | some text => return unsupportedItem "Import attributes" text
  | none => return .exportAll source exported

/-- A class after decorators, whose tree is missing because of them. -/
def decoratedClass (r : Readers) (c : Context) (text : String) : Reader Stmt := do
  let given ← modifiers r false false
  allowModifiers ["abstract", "declare"] given
  expectWord "class"
  let _ ← classTail r c
  if given.contains "declare" then return .erased
  else return .unsupported ⟨"Decorators", text⟩

/-- Whether `class` follows the current token on the same line. -/
def beforeClass : Reader Bool :=
  beforeWordHere "class"

/-- An expression as the default export. -/
def defaultExpression (r : Readers) (c : Context) : Reader Item := do
  let e ← r.assign c.withIn true
  endStatement
  return .exportExpression e

/-- A class as the default export. -/
def defaultClass (r : Readers) (c : Context) : Reader Item := do
  expectWord "class"
  return .exportClass (← classTail r c)

/-- A function as the default export. -/
def defaultFunction (r : Readers) (c : Context) : Reader Item := do
  let async ← eatWord "async"
  match ← functionDeclaration r c true async with
  | some f => return .exportFunction f
  | none => return erasedItem

/-- A default export after its keywords. -/
def defaultItem (r : Readers) (c : Context) : Reader Item := do
  match (← get).token with
  | .punct "@" =>
    match ← decorators r c with
    | text :: _ => return .statement (← decoratedClass r c text)
    | [] => fail
  | .word "class" _ => defaultClass r c
  | .word "function" _ => defaultFunction r c
  | .word "abstract" _ =>
    if ← beforeClass then
      bump
      defaultClass r c
    else defaultExpression r c
  | .word "async" _ =>
    if ← beforeFunction then defaultFunction r c else defaultExpression r c
  | .word "interface" _ =>
    if ← beforeName then
      interfaceDeclaration r c
      return erasedItem
    else defaultExpression r c
  | _ => defaultExpression r c

/-- The export of a declaration. -/
def exportDeclaration (r : Readers) (c : Context) : Reader Item := do
  return .exportDeclaration (← declaration r c)

/-- Whether braces or a star follow the current token. -/
def beforeBraceOrStar : Reader Bool :=
  looksLike do
    advance
    atAnyPunct ["\x7b", "*"]

/-- Names in braces or after a star that are exported. -/
def exportNames (r : Readers) (typeOnly : Bool) : Reader Item := do
  if ← eat "*" then exportAllTail r typeOnly
  else
    let names ← specifiers r
    exportTail r names typeOnly

/-- An export of all names of this module as one value, after the equals sign. -/
def exportAssignment (r : Readers) (c : Context) (start : List Char) : Reader Item := do
  let _ ← r.assign c true
  endStatement
  return unsupportedItem "`export =`" (← textSince start)

/-- An export under the name of a global namespace, after `as`. -/
def namespaceExport (start : List Char) : Reader Item := do
  expectWord "namespace"
  let _ ← anyName
  endStatement
  return unsupportedItem "`export as namespace`" (← textSince start)

/-- An export after its keyword, from `start` on. -/
def exportAfter (r : Readers) (c : Context) (start : List Char) : Reader Item := do
  match (← get).token with
  | .punct "\x7b" | .punct "*" => exportNames r false
  | .punct "=" =>
    advance
    exportAssignment r c start
  | .punct "@" =>
    match ← decorators r c with
    | text :: _ => return .statement (← decoratedClass r c text)
    | [] => fail
  | .word "default" _ =>
    bump
    defaultItem r c
  | .word "as" _ =>
    bump
    namespaceExport start
  | .word "type" _ =>
    if ← beforeBraceOrStar then
      bump
      exportNames r true
    else exportDeclaration r c
  | _ => exportDeclaration r c

/-- An export. -/
def exportItem (r : Readers) (c : Context) : Reader Item := do
  let start := (← get).here
  bump
  exportAfter r c start

/-- Whether `import` starts an expression here. -/
def beforeImportUse : Reader Bool :=
  looksLike do
    advance
    atAnyPunct [".", "("]

/-- Whether an import or export starts here. -/
def atModuleItem : Reader Bool := do
  if ← atWord "import" then return !(← beforeImportUse) else atWord "export"

/-- An import or export. -/
def moduleItem (r : Readers) (c : Context) : Reader Item := do
  if ← atWord "import" then importItem r c else exportItem r c

/-- The export of a class after its decorators. -/
def decoratedExport (r : Readers) (c : Context) (text : String) : Reader Stmt := do
  expectWord "export"
  let _ ← eatWord "default"
  decoratedClass r c text

/-- A class with decorators, which may stand in front of its `export`. -/
def decoratedItem (r : Readers) (c : Context) : Reader Item := do
  match ← decorators r c with
  | text :: _ =>
    if ← atWord "export" then return .statement (← decoratedExport r c text)
    else return .statement (← decoratedClass r c text)
  | [] => fail

end Reader

end CustomElement.Script
