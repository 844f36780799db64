import CustomElement.Script.Expression

/-!
# Declarations

Variables, functions and classes, and declarations for types. Types and interfaces, and whatever
`declare` stands in front of, leave no trace; enumerations and namespaces have no tree.
-/

namespace CustomElement.Script

open CustomElement.Tree (VariableKind)

namespace Reader

/-! ## Variables -/

/-- The mark of a variable that is assigned elsewhere, on the same line. -/
def definiteMark : Reader Unit := do
  if !(← onNewLine) then
    let _ ← eat "!"

/-- A variable of a declaration. -/
def declarator (r : Readers) (c : Context) : Reader Declarator := do
  let target ← r.binding c
  if !isDestructuring target then definiteMark
  typeAnnotation r c
  if ← eat "=" then return ⟨target, some (← r.assign c true)⟩ else return ⟨target, none⟩

/-- A variable after a comma, if there is a comma. -/
def anotherDeclarator (r : Readers) (c : Context) : Reader (Option Declarator) := do
  if ← eat "," then return some (← declarator r c) else return none

/-- The variables of a declaration after its keyword. -/
def declarators (r : Readers) (c : Context) : Reader (List Declarator) := do
  let first ← declarator r c
  let others ← many (anotherDeclarator r c) (r.limit + 1)
  return first :: others

/-- Constants and patterns need a value, unless they describe what exists elsewhere or a loop gives them
one. -/
def checkValues (c : Context) (kind : VariableKind) (declared : List Declarator) : Reader Unit :=
  faultIf (!c.ambient && declared.any fun d =>
    d.init.isNone && (kind == .const || isDestructuring d.target))

/-- A declaration of variables. -/
def variableStatement (r : Readers) (c : Context) (kind : VariableKind) : Reader Stmt := do
  bump
  let declared ← declarators r c
  checkValues c kind declared
  endStatement
  return .variables kind declared

/-- A declaration of variables that are disposed of, after its keywords. Each has a plain name and,
outside of loops, a value. -/
def usingVariables (r : Readers) (c : Context) (inLoop : Bool) : Reader Unit := do
  let declared ← declarators r c
  faultIf (declared.any fun d => isDestructuring d.target || (!inLoop && d.init.isNone))

/-- Whether `using` and a name follow on one line. -/
def atUsing : Reader Bool :=
  looksLike do
    expectWord "using"
    return (← atName) && !(← onNewLine)

/-- Whether `await`, `using` and a name follow on one line. -/
def atAwaitUsing : Reader Bool :=
  looksLike do
    expectWord "await"
    if ← onNewLine then fail
    atUsing

/-- A declaration of variables that are disposed of. -/
def usingStatement (r : Readers) (c : Context) : Reader Stmt := do
  let start := (← get).here
  let _ ← eatWord "await"
  bump
  usingVariables r c false
  endStatement
  return .unsupported ⟨"`using` declarations", ← textSince start⟩

/-! ## Functions and classes -/

/-- What a function declaration is, after its modifiers: its function, or nothing if it has no body. -/
def functionDeclaration (r : Readers) (c : Context) (nameless async : Bool) :
    Reader (Option Func) := do
  expectWord "function"
  let generator ← eat "*"
  let named ← atName
  let name ← if named || !nameless then some <$> name c else pure none
  let (params, body) ← functionTail r c async generator
  return body.map fun body => ⟨name, params, body, generator, async⟩

/-- A function declaration as a statement, after its modifiers. One that is declared to exist elsewhere
has no body. -/
def functionStatement (r : Readers) (c : Context) (async declared : Bool) : Reader Stmt := do
  match ← functionDeclaration r c false async with
  | some f =>
    faultIf declared
    return .function f
  | none => return .erased

/-- Whether an asynchronous or generator function follows. -/
def atSpecialFunction : Reader Bool :=
  looksLike do
    if ← atWord "async" then return true
    expectWord "function"
    atPunct "*"

/-- A class declaration. -/
def classStatement (r : Readers) (c : Context) : Reader Stmt := do
  expectWord "class"
  return .classDef (← classTail r c)

/-! ## Declarations for types -/

/-- An alias for a type. -/
def typeAlias (r : Readers) (c : Context) : Reader Unit := do
  bump
  let _ ← name c
  typeParameters r c
  expect "="
  if ← atWord "intrinsic" then
    if ← beforeDot then typeReference r c else bump
  else anyType r c
  endStatement

/-- Whether an expression is a name with qualifiers. -/
def isQualifiedName : Expr → Bool
  | .identifier _ => true
  | .member object (.identifier _) false false => isQualifiedName object
  | _ => false

/-- A type that an interface extends. -/
def parentInterface (r : Readers) (c : Context) : Reader Unit := do
  let parent ← superclass r c
  faultIf !(isQualifiedName parent)

/-- A type that an interface extends after a comma, if there is a comma. -/
def anotherParent (r : Readers) (c : Context) : Reader (Option Unit) := do
  if ← eat "," then return some (← parentInterface r c) else return none

/-- The types that an interface extends. -/
def interfaceHeritage (r : Readers) (c : Context) : Reader Unit := do
  if ← eatWord "extends" then
    parentInterface r c
    let _ ← many (anotherParent r c) (r.limit + 1)

/-- An interface. -/
def interfaceDeclaration (r : Readers) (c : Context) : Reader Unit := do
  bump
  let _ ← name c
  typeParameters r c
  interfaceHeritage r c
  typeMembers r c

/-- Whether an expression is a string, be it spelled as a template. -/
def isStringLiteral : Expr → Bool
  | .literal ⟨.string _, _, _⟩ => true
  | .template _ [] => true
  | _ => false

/-- The name of a member of an enumeration. One in brackets has to be a string. -/
def enumMemberName (r : Readers) (c : Context) : Reader Unit := do
  match (← get).token with
  | .word _ _ | .string _ _ => advance
  | .punct "[" => faultIf !(isStringLiteral (← computedKey r c))
  | _ => fail

/-- A member of an enumeration. -/
def enumMember (r : Readers) (c : Context) : Reader Unit := do
  enumMemberName r c
  if ← eat "=" then
    let _ ← r.assign c true

/-- An enumeration after its keyword. -/
def enumTail (r : Readers) (c : Context) : Reader Unit := do
  let _ ← name c
  expect "\x7b"
  let _ ← separated "\x7d" "," (enumMember r c) (r.limit + 1)
  expect "\x7d"

/-- The statements of a namespace in braces. -/
def namespaceBody (r : Readers) (c : Context) : Reader Unit := do
  expect "\x7b"
  let _ ← statements r c
  expect "\x7d"

/-- A dot and the name of an inner namespace, if they are there. -/
def innerName (c : Context) : Reader (Option Unit) := do
  if ← eat "." then
    let _ ← name c
    return some ()
  else return none

/-- A namespace after its keyword. -/
def namespaceTail (r : Readers) (c : Context) : Reader Unit := do
  let _ ← name c
  let _ ← many (innerName c) (r.limit + 1)
  namespaceBody r c

/-- A module after its keyword. If its name is a string, it may be without a body. -/
def moduleTail (r : Readers) (c : Context) : Reader Unit := do
  match (← get).token with
  | .string _ _ =>
    advance
    if ← atPunct "\x7b" then namespaceBody r c else endStatement
  | _ => namespaceTail r c

/-- What an alias in an `import` stands for: a module that is required, or a name. -/
def importedReference (r : Readers) : Reader Unit := do
  let required ← looksLike do
    expectWord "require"
    atPunct "("
  if required then
    advance
    advance
    let _ ← stringLiteral
    expect ")"
  else qualifiedName r

/-- An `import` with an equals sign, after its name. -/
def importAlias (r : Readers) (start : List Char) : Reader Stmt := do
  expect "="
  importedReference r
  endStatement
  return .unsupported ⟨"`import = require()`", ← textSince start⟩

/-- The modifiers of declarations that other declarations may follow on the same line. -/
def declarationWords : List String :=
  ["abstract", "accessor", "async", "declare", "private", "protected", "public", "readonly"]

/-- Whether a name follows on the same line. -/
def beforeName : Reader Bool :=
  looksLike do
    advance
    return (← atName) && !(← onNewLine)

/-- Whether a name or string follows on the same line. -/
def beforeNameOrString : Reader Bool :=
  looksLike do
    advance
    if ← onNewLine then return false
    match (← get).token with
    | .word w _ => return isNameWord w
    | .string _ _ => return true
    | _ => return false

/-- Whether the body of a global declaration follows. -/
def beforeGlobalBody : Reader Bool :=
  looksLike do
    advance
    return (← atPunct "\x7b") || (← atWordLike isPlainWord) || (← atWord "export")

/-- Whether a declaration follows, behind at most so many modifiers. -/
def isDeclaration : Nat → Reader Bool
  | 0 => return false
  | limit + 1 => do
    match (← get).token with
    | .word w _ =>
      if ["var", "let", "const", "function", "class", "enum"].contains w then return true
      else if w == "interface" || w == "type" then beforeName
      else if w == "module" || w == "namespace" then beforeNameOrString
      else if declarationWords.contains w then
        advance
        if ← onNewLine then return false
        if w == "declare" && (← atWord "type") then return true
        isDeclaration limit
      else if w == "global" then beforeGlobalBody
      else if w == "import" then
        looksLike do
          advance
          match (← get).token with
          | .word _ _ | .string _ _ => return true
          | .punct s => return s == "*" || s == "\x7b"
          | _ => return false
      else if w == "static" then
        advance
        isDeclaration limit
      else return false
    | _ => return false

/-- Whether a declaration starts here. -/
def atDeclaration (r : Readers) : Reader Bool :=
  looksLike (isDeclaration (r.limit + 1))

/-- An enumeration or a namespace without a tree, from `start` on. -/
def unsupportedSince (start : List Char) (feature : String) : Reader Stmt := do
  return .unsupported ⟨feature, ← textSince start⟩

/-- An `import` with an equals sign, in a statement from `start` on. -/
def importAliasStatement (r : Readers) (c : Context) (start : List Char) : Reader Stmt := do
  bump
  let first ← name c
  if first == "type" && (← atName) then
    let _ ← name c
  importAlias r start

/-- A declaration after its modifiers, except for an `import`. -/
def bareDeclaration (r : Readers) (c : Context) (given : List String) : Reader Stmt := do
  let start := (← get).here
  match (← get).token with
  | .word w _ =>
    match w with
    | "var" => variableStatement r c .var
    | "let" => variableStatement r c .let
    | "const" =>
      let enumeration ← looksLike do
        advance
        atWord "enum"
      if enumeration then
        bump
        bump
        enumTail r c
        unsupportedSince start "Enums"
      else variableStatement r c .const
    | "enum" =>
      bump
      enumTail r c
      unsupportedSince start "Enums"
    | "function" => functionStatement r c (given.contains "async") (given.contains "declare")
    | "class" => classStatement r c
    | "interface" =>
      interfaceDeclaration r c
      return .erased
    | "type" =>
      typeAlias r c
      return .erased
    | "module" =>
      bump
      moduleTail r c
      unsupportedSince start "Namespaces"
    | "namespace" =>
      bump
      namespaceTail r c
      unsupportedSince start "Namespaces"
    | "global" =>
      faultIf !(given.contains "declare")
      bump
      namespaceBody r c
      return .erased
    | _ => fail
  | _ => fail

/-- The modifiers that the declaration at this place may have. -/
def allowedModifiers : Reader (List String) := do
  if ← atWord "class" then return ["declare", "abstract"]
  else if ← atWord "function" then return ["declare", "async"]
  else return ["declare"]

/-- A declaration with its modifiers. What is declared to exist elsewhere leaves no trace. -/
def declaration (r : Readers) (c : Context) : Reader Stmt := do
  let start := (← get).here
  let given ← modifiers r false false
  if ← atWord "import" then importAliasStatement r c start
  else
    allowModifiers (← allowedModifiers) given
    let declared := given.contains "declare"
    let s ← bareDeclaration r { c with ambient := c.ambient || declared } given
    if declared then return .erased else return s

end Reader

end CustomElement.Script
