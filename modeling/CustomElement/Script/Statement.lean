import CustomElement.Script.Modules

/-!
# Statements

Statements and module items. Where a single statement is called for, lexical declarations, classes
and special functions are faults. An import or export inside of another statement has no tree.
-/

namespace CustomElement.Script

open CustomElement.Tree (VariableKind LoopKind)

namespace Reader

/-- An expression in parentheses. -/
def condition (r : Readers) (c : Context) : Reader Expr := do
  expect "("
  let e ← expression r c
  expect ")"
  return e

/-- Statements in braces. -/
def block (r : Readers) (c : Context) : Reader (List Stmt) := do
  expect "\x7b"
  let body ← statements r c
  expect "\x7d"
  return body

/-- An `if`. -/
def ifStatement (r : Readers) (c : Context) : Reader Stmt := do
  bump
  let test ← condition r c
  let consequent ← r.statement c .clause
  if ← eatWord "else" then return .ifElse test consequent (← r.statement c .clause)
  else return .if test consequent

/-- A `do`. The semicolon after it may be left out. -/
def doStatement (r : Readers) (c : Context) : Reader Stmt := do
  bump
  let body ← r.statement c .clause
  expectWord "while"
  let test ← condition r c
  let _ ← eat ";"
  return .doWhile test body

/-- A `while`. -/
def whileStatement (r : Readers) (c : Context) : Reader Stmt := do
  bump
  let test ← condition r c
  return .while test (← r.statement c .clause)

/-- A `with`, which has no tree. -/
def withStatement (r : Readers) (c : Context) : Reader Stmt := do
  let start := (← get).here
  bump
  let _ ← condition r c
  let _ ← r.statement c .clause
  unsupportedSince start "`with`"

/-- The label of a jump, if there is one. -/
def jumpLabel (c : Context) : Reader (Option String) := do
  bump
  let label ← if ← canEnd then pure none else some <$> name c
  endStatement
  return label

/-- A `return`. -/
def returnStatement (r : Readers) (c : Context) : Reader Stmt := do
  faultIf !c.inFunction
  bump
  let argument ← if ← canEnd then pure none else some <$> expression r c.withIn
  endStatement
  return .return argument

/-- A `throw`. -/
def throwStatement (r : Readers) (c : Context) : Reader Stmt := do
  bump
  faultIf (← onNewLine)
  let argument ← expression r c
  endStatement
  return .throw argument

/-- The parameter of a `catch`, if there is one. -/
def catchParameter (r : Readers) (c : Context) : Reader (Option Expr) := do
  if ← eat "(" then
    let target ← r.binding c
    typeAnnotation r c
    expect ")"
    return some target
  else return none

/-- A `try`. -/
def tryStatement (r : Readers) (c : Context) : Reader Stmt := do
  bump
  let guarded ← block r c
  if ← eatWord "catch" then
    let param ← catchParameter r c
    let handler ← block r c
    if ← eatWord "finally" then return .tryCatchFinally guarded param handler (← block r c)
    else return .tryCatch guarded param handler
  else
    expectWord "finally"
    return .tryFinally guarded (← block r c)

/-- A statement of a case, if the case does not end here. It does not declare variables that are
disposed of. -/
def caseStatement (r : Readers) (c : Context) : Reader (Option Stmt) := do
  if ← atAnyWord ["case", "default"] then return none
  let disposes ← if ← atUsing then pure true else atAwaitUsing
  faultIf disposes
  listStatement r c

/-- A case of a `switch`, if its list does not end here. -/
def switchCase? (r : Readers) (c : Context) : Reader (Option SwitchCase) := do
  if ← atListEnd then return none
  let test ←
    if ← eatWord "default" then pure none
    else
      expectWord "case"
      some <$> expression r c
  expect ":"
  return some ⟨test, ← many (caseStatement r c) (r.limit + 1)⟩

/-- A `switch`. -/
def switchStatement (r : Readers) (c : Context) : Reader Stmt := do
  bump
  let discriminant ← condition r c
  expect "\x7b"
  let cases ← many (switchCase? r c) (r.limit + 1)
  expect "\x7d"
  return .switch discriminant cases

/-- An expression, or a label and its statement. -/
def expressionOrLabel (r : Readers) (c : Context) : Reader Stmt := do
  let e ← expression r c
  match e with
  | .identifier label =>
    if ← eat ":" then return .labeled label (← r.statement c .label)
    else
      endStatement
      return .expression e
  | _ =>
    endStatement
    return .expression e

/-! ## Loops -/

/-- What stands in the head of a loop in front of its first separator. -/
inductive LoopStart where
  | nothing
  | expression (e : Expr)
  | variables (kind : VariableKind) (declarations : List Declarator)
  | unsupported (construct : Unsupported)

/-- A loop from its start and what follows it in its head. -/
def forLoop (start : LoopStart) (test update : Option Expr) (body : Stmt) : Stmt :=
  match start with
  | .nothing => .for none test update body
  | .expression e => .for (some e) test update body
  | .variables kind declarations => .forVariables kind declarations test update body
  | .unsupported construct => .unsupported construct

/-- A loop over the keys or values of an object. -/
def forEachLoop (loop : LoopKind) (start : LoopStart) (right : Expr) (body : Stmt) (await : Bool) :
    Stmt :=
  match start with
  | .nothing => .empty
  | .expression e => .forEach loop e right body await
  | .variables kind declarations => .forEachVariable loop kind declarations right body await
  | .unsupported construct => .unsupported construct

/-- An expression in front of a token, if there is one. -/
def optionalExpression (r : Readers) (c : Context) (close : String) : Reader (Option Expr) := do
  if ← atPunct close then return none else return some (← expression r c.withIn)

/-- Checks the values of the variables of a loop that does not give them any. -/
def LoopStart.check (c : Context) : LoopStart → Reader Unit
  | .variables kind declarations => checkValues c kind declarations
  | _ => pure ()

/-- The rest of a loop with a test and an update. -/
def forTail (r : Readers) (c : Context) (start : LoopStart) : Reader Stmt := do
  start.check c
  expect ";"
  let test ← optionalExpression r c ";"
  expect ";"
  let update ← optionalExpression r c ")"
  expect ")"
  return forLoop start test update (← r.statement c .clause)

/-- The rest of a loop over an object. -/
def forEachTail (r : Readers) (c : Context) (loop : LoopKind) (start : LoopStart) (await : Bool) :
    Reader Stmt := do
  bump
  let right ←
    match loop with
    | .keys => expression r c
    | .values => r.assign c true
  expect ")"
  return forEachLoop loop start right (← r.statement c .clause) await

/-- Whether `let` starts a declaration in the head of a loop. -/
def atLoopLet : Reader Bool :=
  looksLike do
    match (← get).token with
    | .word "let" false => advance
    | _ => fail
    match (← get).token with
    | .word w _ => return w != "in"
    | .punct s => return s == "[" || s == "\x7b"
    | _ => return false

/-- Whether `using` and the name of a variable follow in the head of a loop. The word `of` after it is
none, unless it is itself followed by a value. -/
def atLoopUsing : Reader Bool :=
  looksLike do
    expectWord "using"
    if ← onNewLine then fail
    if ← atWord "of" then
      advance
      return (← atPunct "=") || (← atPunct ";") || (← atPunct ":")
    else atName

/-- Whether `await` and a declaration of variables that are disposed of follow. -/
def atLoopAwaitUsing : Reader Bool :=
  looksLike do
    expectWord "await"
    if ← onNewLine then fail
    expectWord "using"
    return (← atName) && !(← onNewLine)

/-- The start of a loop that declares variables to be disposed of. -/
def loopUsing (r : Readers) (c : Context) : Reader LoopStart := do
  let start := (← get).here
  let _ ← eatWord "await"
  bump
  usingVariables r c true
  return .unsupported ⟨"`using` declarations", ← textSince start⟩

/-- The start of a loop that declares variables. -/
def loopVariables (r : Readers) (c : Context) (kind : VariableKind) : Reader LoopStart := do
  bump
  return .variables kind (← declarators r c)

/-- The start of a loop. -/
def loopStart (r : Readers) (c : Context) : Reader LoopStart := do
  let c := c.withoutIn
  if ← atPunct ";" then return .nothing
  else if ← atLoopLet then loopVariables r c .let
  else if ← atWord "const" then loopVariables r c .const
  else if ← atWord "var" then loopVariables r c .var
  else if (← atLoopUsing) || (← atLoopAwaitUsing) then loopUsing r c
  else return .expression (← expression r c)

/-- Takes the start of a loop over an object as what is assigned to. Variables that are disposed of only
run through values. -/
def asLoopTarget (loop : LoopKind) (start : LoopStart) : Reader Unit :=
  match start with
  | .nothing => fail
  | .expression e => asTarget e
  | .variables .. => pure ()
  | .unsupported _ => faultIf (loop == .keys)

/-- Whether the words `async of` follow. -/
def atAsyncOf : Reader Bool :=
  looksLike do
    match (← get).token with
    | .word "async" false => advance
    | _ => fail
    atWord "of"

/-- A `for`. -/
def forStatement (r : Readers) (c : Context) : Reader Stmt := do
  bump
  let await ← eatWord "await"
  faultIf (await && !c.inAsync)
  expect "("
  let asyncOf ← atAsyncOf
  let start ← loopStart r c
  if ← atWord "in" then
    faultIf await
    asLoopTarget .keys start
    forEachTail r c .keys start false
  else if ← atWord "of" then
    faultIf (asyncOf && !await)
    asLoopTarget .values start
    forEachTail r c .values start await
  else
    faultIf await
    forTail r c start

/-! ## All statements -/

/-- Whether a token is a binary operator. -/
def isBinaryOp (t : Token) : Bool :=
  match Infix.ofToken? t with
  | some (.binary _) => true
  | _ => false

/-- What a statement that starts with `let` is. -/
inductive LetForm where
  | declaration
  /-- An assignment or a binary expression, without commas after it. -/
  | operation
  /-- An expression that starts with a member or a call. The statement ends with it, and a semicolon
  after it is a statement of its own. -/
  | access
  /-- The name alone. -/
  | name
deriving DecidableEq, Repr

/-- What a statement that starts with `let` is, by the token after that. -/
def letForm (place : Place) (next : Token) : LetForm :=
  if (assignOp? next).isSome || isBinaryOp next then .operation
  else if next == .punct "." || next == .punct "(" then .access
  else if next == .punct ";" || (place != .list && next != .punct "[") then .name
  else .declaration

/-- A declaration of variables with `let`, or an expression that starts with that name. -/
def letStatement (r : Readers) (c : Context) (place : Place) : Reader Stmt := do
  let next := (← get).next.token
  match letForm place next with
  | .declaration =>
    faultIf (place != .list)
    variableStatement r c .let
  | .operation =>
    let e ← r.assign c true
    endStatement
    return .expression e
  | .access => return .expression (← expression r c)
  | .name =>
    let n ← name c
    endStatement
    return .expression (.identifier n)

/-- A declaration of constants, or an enumeration of them. -/
def constStatement (r : Readers) (c : Context) (place : Place) : Reader Stmt := do
  let enumerates ← looksLike do
    advance
    atWord "enum"
  faultIf (!enumerates && place != .list)
  bareDeclaration r c []

/-- A function as a statement. -/
def functionIn (r : Readers) (c : Context) (place : Place) : Reader Stmt := do
  let special ← atSpecialFunction
  faultIf (special && place != .list)
  let async ← eatWord "async"
  functionStatement r c async false

/-- An import or export inside of another statement. -/
def nestedItem (r : Readers) (c : Context) : Reader Stmt := do
  let start := (← get).here
  match ← moduleItem r c with
  | .statement (.unsupported ⟨"`import = require()`", text⟩) =>
    return .unsupported ⟨"`import = require()`", text⟩
  | _ => unsupportedSince start "Module declarations"

/-- A class with decorators as a statement. -/
def decoratedStatement (r : Readers) (c : Context) (place : Place) : Reader Stmt := do
  match ← decorators r c with
  | text :: _ =>
    let start := (← get).here
    if ← atWord "export" then
      let _ ← decoratedExport r c text
      unsupportedSince start "Module declarations"
    else
      faultIf (place != .list)
      decoratedClass r c text
  | [] => fail

/-- A statement that starts with a word which is no keyword of statements. In a declaration for types,
`await` is a name. -/
def otherStatement (r : Readers) (c : Context) (place : Place) : Reader Stmt := do
  if (← atUsing) || (← atAwaitUsing) then
    faultIf (place != .list)
    usingStatement r c
  else if ← atDeclaration r then declaration r { c with inAsync := false }
  else expressionOrLabel r c

/-- A statement that starts with a word. -/
def wordStatement (r : Readers) (c : Context) (place : Place) (w : String) (escaped : Bool) :
    Reader Stmt := do
  match w with
  | "if" => ifStatement r c
  | "do" => doStatement r c
  | "while" => whileStatement r c
  | "for" => forStatement r c
  | "with" => withStatement r c
  | "switch" => switchStatement r c
  | "throw" => throwStatement r c
  | "try" => tryStatement r c
  | "break" => return .break (← jumpLabel c)
  | "continue" => return .continue (← jumpLabel c)
  | "return" => returnStatement r c
  | "debugger" =>
    bump
    endStatement
    return .debugger
  | "class" =>
    faultIf (place != .list)
    classStatement r c
  | "function" => functionIn r c place
  | "async" => if ← beforeFunction then functionIn r c place else otherStatement r c place
  | "var" => variableStatement r c .var
  | "const" => constStatement r c place
  | "let" => if escaped then expressionOrLabel r c else letStatement r c place
  | "export" => nestedItem r c
  | "import" => if ← beforeImportUse then expressionOrLabel r c else nestedItem r c
  | _ => otherStatement r c place

/-- A statement. -/
def statementOf (r : Readers) (c : Context) (place : Place) : Reader Stmt := do
  match (← get).token with
  | .punct "\x7b" => return .block (← block r c)
  | .punct ";" =>
    advance
    return .empty
  | .punct "@" => decoratedStatement r c place
  | .word w escaped => wordStatement r c place w escaped
  | _ => expressionOrLabel r c

/-! ## Module items -/

/-- A module item, if the text does not end here. -/
def item? (r : Readers) (c : Context) : Reader (Option Item) := do
  if ← atEnd then return none
  else if ← atModuleItem then return some (← moduleItem r c)
  else if ← atPunct "@" then return some (← decoratedItem r c)
  else return some (.statement (← r.statement c .list))

/-- The items of a module. Strings that stand alone at its start are directives. -/
def moduleItems (r : Readers) (c : Context) : Nat → Reader (List Item)
  | 0 => fail
  | limit + 1 => do
    match (← get).token with
    | .string value raw =>
      match ← r.statement c .list with
      | .expression (.literal _) =>
        return .statement (.directive value raw) :: (← moduleItems r c limit)
      | other => return .statement other :: (← many (item? r c) (r.limit + 1))
    | _ => many (item? r c) (r.limit + 1)

end Reader

end CustomElement.Script
