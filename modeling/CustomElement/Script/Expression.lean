import CustomElement.Script.Arrow
import CustomElement.Script.Classes
import CustomElement.Script.Target

/-!
# Expressions

From tight to loose: primary expressions, chains of accesses and calls, unary and update operators,
binary operators by precedence, and assignments, among which are conditionals, arrow functions and
`yield`.
-/

namespace CustomElement.Script

open CustomElement.Tree (UnaryOp UpdateOp BinaryOp LogicalOp AssignOp)

/-- An operator between two operands. -/
inductive Infix where
  | binary (op : BinaryOp)
  | logical (op : LogicalOp)
  | asType
  | satisfies
deriving DecidableEq, Repr

namespace Infix

/-- How tight comparisons bind. -/
def comparison : Nat := 8

/-- How tight the operator binds. -/
def precedence : Infix → Nat
  | .logical .coalesce => 1
  | .logical .or => 2
  | .logical .and => 3
  | .binary .bitOr => 4
  | .binary .bitXor => 5
  | .binary .bitAnd => 6
  | .binary .equal | .binary .notEqual | .binary .strictEqual | .binary .strictNotEqual => 7
  | .binary .lessThan | .binary .lessEqual | .binary .greaterThan | .binary .greaterEqual => 8
  | .binary .inside | .binary .instanceof | .asType | .satisfies => 8
  | .binary .shiftLeft | .binary .shiftRight | .binary .shiftRightUnsigned => 9
  | .binary .add | .binary .subtract => 10
  | .binary .multiply | .binary .divide | .binary .remainder => 11
  | .binary .power => 12

/-- The operator of a symbol. -/
def ofSymbol? (s : String) : Option Infix :=
  match BinaryOp.ofSymbol? s, LogicalOp.ofSymbol? s with
  | some op, _ => some (.binary op)
  | none, some op => some (.logical op)
  | none, none =>
    if s == "as" then some .asType else if s == "satisfies" then some .satisfies else none

/-- The operator that a token is. -/
def ofToken? : Token → Option Infix
  | .punct s => ofSymbol? s
  | .word w _ => ofSymbol? w
  | _ => none

end Infix

namespace Reader

/-! ## Primary expressions -/

/-- A function expression after its keyword. -/
def functionExpression (r : Readers) (c : Context) (async : Bool) : Reader Expr := do
  let generator ← eat "*"
  let named ← atName
  let name ← if named then some <$> name (c.ofFunction async generator) else pure none
  let (params, body) ← functionTail r c async generator
  match body with
  | some body => return .function ⟨name, params, body, generator, async⟩
  | none => fail

/-- A regular expression. -/
def regexLiteral : Reader Expr := do
  let c ← get
  match c.here with
  | '/' :: text =>
    match readRegex text with
    | some (pattern, flags, rest) =>
      set { c with rest := rest }
      advance
      return .literal ⟨.null, some ⟨pattern, flags⟩, none⟩
    | none => fail
  | _ => fail

/-- An expression in parentheses. -/
def parenthesized (r : Readers) (c : Context) : Reader Expr := do
  expect "("
  let e ← expression r c.enclosed
  expect ")"
  return .wrapped .parens e

/-- The arguments of an `import` after the opening parenthesis. Options make it unsupported. -/
def importArguments (r : Readers) (c : Context) (start : List Char) (phased : Bool) :
    Reader Expr := do
  let source ← r.assign c.withIn true
  let options ←
    if ← eat "," then
      if ← atPunct ")" then pure false
      else
        let _ ← r.assign c.withIn true
        let _ ← eat ","
        pure true
    else pure false
  expect ")"
  if options || phased then return .unsupported ⟨"Import options", ← textSince start⟩
  else return .importCall source

/-- An `import` inside of an expression. -/
def importExpression (r : Readers) (c : Context) : Reader Expr := do
  let start := (← get).here
  bump
  if ← eat "." then
    if ← eatWord "meta" then return .metaProperty "import" "meta"
    else if ← atAnyWord ["source", "defer"] then
      bump
      expect "("
      importArguments r c start true
    else fail
  else
    expect "("
    importArguments r c start false

/-- The arguments of a `new`, which may be left out. -/
def newArguments (r : Readers) (c : Context) : Reader (List Expr) := do
  if ← atPunct "(" then arguments r c.withIn else return []

/-- Whether an expression is a call of `import`, given that it starts with that word. -/
def isImportCall : Expr → Bool
  | .importCall _ => true
  | .unsupported _ => true
  | _ => false

/-- The callee of a `new` without type arguments. It can neither be a call of `import` nor hold an
optional link or stand in front of one. -/
def newCallee (r : Readers) (c : Context) : Reader Expr := do
  let imports ← atWord "import"
  let (callee, optional) ← r.access c
  let before ← atPunct "?."
  faultIf (optional || before || (imports && isImportCall callee))
  match callee with
  | .wrapped .instantiation inner => return inner
  | _ => return callee

/-- A `new`. -/
def newExpression (r : Readers) (c : Context) : Reader Expr := do
  bump
  if ← eat "." then
    expectWord "target"
    return .metaProperty "new" "target"
  let callee ← newCallee r c
  let arguments ← newArguments r c
  return .new callee arguments

/-- A class expression. -/
def classExpression (r : Readers) (c : Context) : Reader Expr := do
  expectWord "class"
  return .classDef (← classTail r c)

/-- A class expression with decorators, which has no tree. -/
def decoratedExpression (r : Readers) (c : Context) : Reader Expr := do
  match ← decorators r c with
  | text :: _ =>
    let given ← modifiers r false false
    allowModifiers ["abstract", "declare"] given
    let _ ← classExpression r c
    return .unsupported ⟨"Decorators", text⟩
  | [] => fail

/-- Whether `function` follows on the same line. -/
def beforeFunction : Reader Bool :=
  beforeWordHere "function"

/-- Whether a member access or call follows. -/
def beforeSuperUse : Reader Bool :=
  looksLike do
    advance
    atAnyPunct [".", "[", "("]

/-- A primary expression that starts with a word. -/
def wordPrimary (r : Readers) (c : Context) (w : String) : Reader Expr := do
  match w with
  | "null" =>
    bump
    return .literal ⟨.null, none, none⟩
  | "true" =>
    bump
    return .literal ⟨.boolean true, none, none⟩
  | "false" =>
    bump
    return .literal ⟨.boolean false, none, none⟩
  | "this" =>
    bump
    return .thisRef
  | "super" =>
    faultIf !(← beforeSuperUse)
    bump
    return .superRef
  | "function" =>
    bump
    functionExpression r c false
  | "class" => classExpression r c
  | "new" => newExpression r c
  | "import" => importExpression r c
  | "async" =>
    if ← beforeFunction then
      bump
      bump
      functionExpression r c true
    else return .identifier (← name c)
  | _ => return .identifier (← name c)

/-- A primary expression. -/
def primary (r : Readers) (c : Context) : Reader Expr := do
  match (← get).token with
  | .word w _ => wordPrimary r c w
  | .number value =>
    advance
    return .literal ⟨.number value, none, none⟩
  | .bigint digits =>
    advance
    return .literal ⟨.null, none, some digits⟩
  | .string value _ =>
    advance
    return .literal ⟨.string value, none, none⟩
  | .template .. => plainTemplate r c
  | .punct "(" => parenthesized r c
  | .punct "[" => arrayLiteral r c
  | .punct "\x7b" => objectLiteral r c
  | .punct "/" | .punct "/=" => regexLiteral
  | .punct "@" => decoratedExpression r c
  | _ => fail

/-! ## Chains of accesses and calls -/

/-- An expression and whether it has an optional link. -/
abbrev Link := Expr × Bool

/-- A name or private name after a dot. -/
def propertyAfterDot : Reader Expr := do
  match (← get).token with
  | .privateName name =>
    advance
    return .privateName name
  | _ => return .identifier (← anyName)

/-- An access by an expression in brackets. -/
def computedAccess (r : Readers) (c : Context) (object : Expr) (optional : Bool) : Reader Expr := do
  expect "["
  let key ← expression r c.withIn
  expect "]"
  return .member object key true optional

/-- A tag and its template. Type arguments of the tag leave no trace. -/
def taggedTemplate (r : Readers) (c : Context) (tag : Expr) : Reader Expr := do
  let (quasis, expressions) ← templateLiteral r c
  match tag with
  | .wrapped .instantiation inner => return .tagged inner quasis expressions
  | _ => return .tagged tag quasis expressions

/-- Whether an operator between two operands stands here. -/
def atInfix (c : Context) : Reader Bool := do
  match Infix.ofToken? (← get).token with
  | some (.binary .inside) => return c.allowIn
  | some _ => return true
  | none => return false

/-- The reserved words that an expression may start with. -/
def expressionWords : List String := [
  "this", "super", "null", "true", "false", "function", "class", "new", "delete", "typeof", "void"]

/-- The punctuators that an expression may start with. -/
def expressionSymbols : List String :=
  ["(", "[", "\x7b", "/", "/=", "+", "-", "~", "!", "++", "--", "<", "@"]

/-- Whether an expression may start here. -/
def atExpression : Reader Bool := do
  match (← get).token with
  | .number _ | .bigint _ | .string _ _ | .template .. | .privateName _ => return true
  | .word w _ =>
    if w == "import" then
      looksLike do
        advance
        atAnyPunct ["(", "<", "."]
    else return isNameWord w || expressionWords.contains w
  | .punct s => return expressionSymbols.contains s
  | _ => return false

/-- Whether what follows lets a text in angle brackets be type arguments. -/
def canFollowTypeArguments (c : Context) : Reader Bool := do
  match (← get).token with
  | .template .. => return true
  | .punct "(" => return true
  | .punct "<" | .punct ">" | .punct "+" | .punct "-" => return false
  | _ => return (← onNewLine) || (← atInfix c) || !(← atExpression)

/-- Type arguments after an expression; fails if the text is better read as comparisons. -/
def expressionTypeArguments (r : Readers) (c : Context) : Reader Unit := do
  splitLeftAngle
  expect "<"
  let (arguments, _) ← separated ">" "," (r.type c) (r.limit + 1)
  faultIf arguments.isEmpty
  let here := (← get).here
  if (firstPunct rightAngles here).any fun (s, _) => s == ">=" then fail
  expect ">"
  if !(← canFollowTypeArguments c) then fail

/-- Whether an optional link leads to a member here. -/
def beforeOptionalMember (c : Context) : Reader Bool :=
  looksLike do
    advance
    match (← get).token with
    | .word _ _ | .privateName _ => return true
    | .punct s => return s == "[" && !c.inDecorator
    | _ => return false

/-- The member that an optional link leads to. -/
def optionalMember (r : Readers) (c : Context) (object : Expr) : Reader Expr := do
  advance
  if ← atPunct "[" then computedAccess r c object true
  else return .member object (← propertyAfterDot) false true

/-- One more access, template or type assertion after an expression; none if there is none. -/
def accessStep (r : Readers) (c : Context) (link : Link) : Reader (Option Link) := do
  let (e, optional) := link
  match (← get).token with
  | .punct "." =>
    advance
    return some (.member e (← propertyAfterDot) false false, optional)
  | .punct "[" =>
    if c.inDecorator then return none
    else return some (← computedAccess r c e false, optional)
  | .punct "?." =>
    if ← beforeOptionalMember c then return some (← optionalMember r c e, true)
    else return none
  | .punct "!" =>
    if ← onNewLine then return none
    advance
    return some (.wrapped .nonNull e, optional)
  | .template .. =>
    faultIf optional
    return some (← taggedTemplate r c e, optional)
  | .punct s =>
    if s == "<" || s == "<<" || s == "<<=" then
      match ← attempt (expressionTypeArguments r c) with
      | some _ => return some (.wrapped .instantiation e, optional)
      | none => return none
    else return none
  | _ => return none

/-- An expression and all accesses after it. -/
def accessSteps (r : Readers) (c : Context) : Nat → Link → Reader Link
  | 0, _ => fail
  | limit + 1, link => do
    match ← accessStep r c link with
    | none => return link
    | some next => accessSteps r c limit next

/-- A primary expression and all accesses after it. -/
def accessChain (r : Readers) (c : Context) : Reader Link := do
  let e ← primary r c
  accessSteps r c (r.limit + 1) (e, false)

/-- A call. Type arguments of the callee leave no trace. -/
def callStep (r : Readers) (c : Context) (callee : Expr) (optional : Bool) : Reader Expr := do
  let arguments ← callArguments r c
  match callee with
  | .wrapped .instantiation inner =>
    if optional then return .call callee arguments optional
    else return .call inner arguments optional
  | _ => return .call callee arguments optional

/-- A call or template after an optional link. -/
def optionalCall (r : Readers) (c : Context) (callee : Expr) : Reader Expr := do
  advance
  if ← atTypeArguments then
    let _ ← attempt (expressionTypeArguments r c)
  match (← get).token with
  | .template .. =>
    fault
    taggedTemplate r c callee
  | _ => callStep r c callee true

/-- An expression and all accesses and calls after it. -/
def callSteps (r : Readers) (c : Context) : Nat → Link → Reader Link
  | 0, _ => fail
  | limit + 1, link => do
    let (e, optional) ← accessSteps r c (r.limit + 1) link
    if ← atPunct "?." then callSteps r c limit (← optionalCall r c e, true)
    else if ← atPunct "(" then callSteps r c limit (← callStep r c e false, optional)
    else return (e, optional)

/-- Marks an expression with an optional link as a chain. -/
def asChain : Expr → Expr
  | .wrapped .instantiation e => .wrapped .instantiation (asChain e)
  | .member object property computed optional => .chain (.member object property computed optional)
  | .call callee arguments optional => .chain (.call callee arguments optional)
  | .wrapped .nonNull e => .chain (.wrapped .nonNull e)
  | e => e

/-- A chain of accesses and calls. -/
def callChain (r : Readers) (c : Context) : Reader Expr := do
  let e ← primary r c
  let (e, optional) ← callSteps r c (r.limit + 1) (e, false)
  if optional then return asChain e else return e

/-! ## Operators -/

/-- An expression that may be stepped, after a step in front of it or in front of one after it. -/
def updateExpression (r : Readers) (c : Context) : Reader Expr := do
  let updateOp : Token → Option UpdateOp
    | .punct s => UpdateOp.ofSymbol? s
    | _ => none
  match updateOp (← get).token with
  | some op =>
    advance
    let e ← r.unary c
    asSimpleTarget e
    return .update op true e
  | none =>
    let e ← callChain r c
    match updateOp (← get).token with
    | some op =>
      if ← onNewLine then return e
      asSimpleTarget e
      advance
      return .update op false e
    | none => return e

/-- Whether `await` is a keyword here. Outside of asynchronous functions it is one in front of an
operand, be it a regular expression. -/
def atAwait (c : Context) : Reader Bool := do
  if ← atWord "await" then
    if c.inAsync then return true else beforeOperand ["/", "/="]
  else return false

/-- The unary operator that a token is. -/
def unaryOp? : Token → Option UnaryOp
  | .punct s => UnaryOp.ofSymbol? s
  | .word w _ => UnaryOp.ofSymbol? w
  | _ => none

/-- A unary expression. -/
def unaryExpression (r : Readers) (c : Context) : Reader Expr := do
  match unaryOp? (← get).token with
  | some op =>
    bump
    return .unary op (← r.unary c)
  | none =>
    if ← atPunct "<" then
      advance
      anyType r c
      expect ">"
      return .wrapped .assertion (← r.unary c)
    else if ← atAwait c then
      faultIf !c.inAsync
      bump
      return .await (← r.unary { c with inAsync := true })
    else updateExpression r c

/-- Whether the operand needs parentheses in front of a power. -/
def isUnaryOperand : Expr → Bool
  | .unary .. => true
  | .await _ => true
  | _ => false

/-- Whether an operand of a logical operator is a logical expression that does not go with it, since
just one of the two coalesces; none if it is no logical expression. -/
def clashes? (op : LogicalOp) : Expr → Option Bool
  | .logical inner _ _ => some ((inner == .coalesce) != (op == .coalesce))
  | _ => none

/-- An operand, and whether it starts with a parenthesis. -/
structure Operand where
  expr : Expr
  opened : Bool

/-- Whether `??` is mixed with another logical operator. Only one operand is looked at, the right one if
it is a logical expression, and it is let pass if it starts with a parenthesis. -/
def isMixed (op : LogicalOp) (left right : Operand) : Bool :=
  match clashes? op right.expr, clashes? op left.expr with
  | some clash, _ => clash && !right.opened
  | none, some clash => clash && !left.opened
  | none, none => false

/-- Two operands joined by an operator. A unary operand cannot be raised to a power. -/
def join (op : Infix) (left right : Operand) : Reader Operand := do
  match op with
  | .binary op =>
    faultIf (op == .power && isUnaryOperand left.expr)
    return { left with expr := .binary op left.expr right.expr }
  | .logical op =>
    faultIf (isMixed op left right)
    return { left with expr := .logical op left.expr right.expr }
  | .asType => return { left with expr := .wrapped .asType left.expr }
  | .satisfies => return { left with expr := .wrapped .satisfies left.expr }

/-- The operator at this place, if it binds tighter than the given precedence. A power also follows a
power. -/
def infixAbove? (c : Context) (least : Nat) : Reader (Option Infix) := do
  joinRightAngle
  let cursor ← get
  match Infix.ofToken? cursor.token with
  | none => return none
  | some op =>
    if op.precedence < least || (op.precedence == least && op != .binary .power) then return none
    else if op == .binary .inside && !c.allowIn then return none
    else if (op == .asType || op == .satisfies) && cursor.newline then return none
    else return some op

/-- The operators and operands after a first operand. -/
def binarySteps (r : Readers) (c : Context) (least : Nat) : Nat → Operand → Reader Expr
  | 0, _ => fail
  | limit + 1, left => do
    match ← infixAbove? c least with
    | none => return left.expr
    | some op =>
      bump
      if op == .asType || op == .satisfies then
        anyType r c
        binarySteps r c least limit (← join op left left)
      else
        let opened ← atPunct "("
        let right ← r.binary c op.precedence
        binarySteps r c least limit (← join op left ⟨right, opened⟩)

/-- A test whether an object has a private name. -/
def privateTest (r : Readers) (c : Context) (name : String) : Reader Expr := do
  advance
  expectWord "in"
  let right ← r.binary c Infix.comparison
  match right with
  | .binary .inside (.privateName _) _ => fail
  | _ => return .binary .inside (.privateName name) right

/-- The first operand of a binary expression. A private name is one where the test for it is a
comparison. -/
def firstOperand (r : Readers) (c : Context) (least : Nat) : Reader Expr := do
  match (← get).token with
  | .privateName name =>
    if c.allowIn && least < Infix.comparison then privateTest r c name else fail
  | _ => unaryExpression r c

/-- A binary expression of operators that bind tighter than the given precedence. -/
def binaryExpression (r : Readers) (c : Context) (least : Nat) : Reader Expr := do
  let opened ← atPunct "("
  let first ← firstOperand r c least
  binarySteps r c least (r.limit + 1) ⟨first, opened⟩

/-! ## Assignments -/

/-- Whether `yield` is a keyword here. -/
def atYield (c : Context) : Reader Bool := do
  if ← atWord "yield" then
    if c.inGenerator then return true else beforeOperand []
  else return false

/-- Whether the token ends an expression in front of it. -/
def endsOperand : Token → Bool
  | .eof => true
  | .punct s => [";", "\x7d", ")", "]", ":", ","].contains s
  | .word w _ => w == "in"
  | _ => false

/-- A `yield`. -/
def yieldExpression (r : Readers) (c : Context) : Reader Expr := do
  faultIf !c.inGenerator
  bump
  if ← onNewLine then return .yield none false
  let delegate ← eat "*"
  if !delegate && endsOperand (← get).token then return .yield none false
  return .yield (some (← r.assign { c with inGenerator := true } true)) delegate

/-- The assignment operator that a token is. -/
def assignOp? : Token → Option AssignOp
  | .punct s => AssignOp.ofSymbol? s
  | _ => none

/-- What is assigned, after what it is assigned to. -/
def assignment (r : Readers) (c : Context) (allowReturnType : Bool) (op : AssignOp) (left : Expr) :
    Reader Expr := do
  asTarget left
  advance
  return .assign op left (← r.assign c allowReturnType)

/-- The outcomes of a condition, if there are any. -/
def conditional (r : Readers) (c : Context) (allowReturnType : Bool) (test : Expr) :
    Reader Expr := do
  if ← eat "?" then
    let consequent ← r.assign c.withIn false
    expect ":"
    let alternate ← r.assign c allowReturnType
    return .conditional test consequent alternate
  else return test

/-- What follows a binary expression: an arrow, an assignment, or the outcomes of a condition. -/
def assignTail (r : Readers) (c : Context) (allowReturnType : Bool) (left : Expr) :
    Reader Expr := do
  let token := (← get).token
  match left, token, assignOp? token with
  | .identifier name, .punct "=>", _ => simpleArrow r c name false allowReturnType
  | _, _, some op => assignment r c allowReturnType op left
  | _, _, none => conditional r c allowReturnType left

/-- An assignment, or what binds tighter. -/
def assignExpression (r : Readers) (c : Context) (allowReturnType : Bool) : Reader Expr := do
  if ← atYield c then yieldExpression r c
  else
    match ← arrow? r c allowReturnType with
    | some e => return e
    | none =>
      let left ← binaryExpression r c 0
      assignTail r c allowReturnType left

end Reader

end CustomElement.Script
