import CustomElement.Json.Fields
import CustomElement.Tree.Encode

/-!
# Trees from JSON

The reverse of the encoding. Expressions, patterns and statements contain each other, so their
readers are built in rounds: a reader of round `n + 1` reads the parts of a node with the readers of
round `n`, and a value of depth `n` is read in round `n`.

The kinds of a choice are listed in a fixed order. Parts that can only be of one kind do not look at
their `type`.
-/

namespace CustomElement.Tree

open Json (Fields)

/-- Readers for the three kinds of node that contain each other. The flag says whether the value
comes from a kept copy. -/
structure Readers where
  expr : Bool → Json → Option Expr
  pattern : Bool → Json → Option Pattern
  stmt : Bool → Json → Option Stmt

/-- Readers that read nothing. -/
def Readers.none : Readers where
  expr _ _ := .none
  pattern _ _ := .none
  stmt _ _ := .none

/-- A keyword of a variable declaration. -/
def VariableKind.decode (kept : Bool) : Json → Option VariableKind :=
  Json.word? kept [.var, .let, .const] VariableKind.keyword

/-- The kind of an object property. -/
def PropertyKind.decode (kept : Bool) : Json → Option PropertyKind :=
  Json.word? kept [.init, .get, .set] PropertyKind.word

/-- The kind of a method. -/
def MethodKind.decode (kept : Bool) : Json → Option MethodKind :=
  Json.word? kept [.constructor, .method, .get, .set] MethodKind.word

/-- The value of a literal. -/
def LiteralValue.decode : Json → Option LiteralValue
  | .null => some .null
  | .bool b => some (.boolean b)
  | .string s => some (.string s)
  | value => value.double?.map .number

/-- The parts of a regular expression. -/
def Regex.decode (j : Json) : Option Regex := do
  let f ← j.fields? 2
  some ⟨← f.required 0 "pattern" Json.text?, ← f.required 1 "flags" Json.text?⟩

/-- A literal from its fields. -/
def Literal.ofFields (f : Fields) : Option Literal :=
  if f.fits 3 then do
    some {
      value := ← f.required 0 "value" LiteralValue.decode
      regex := ← f.withDefault 1 "regex" none (Json.nullable Regex.decode)
      bigint := ← f.withDefault 2 "bigint" none (Json.nullable Json.text?) }
  else none

/-- A literal in a place that holds nothing else. -/
def Literal.decode (j : Json) : Option Literal := do
  Literal.ofFields (← j.fields? 3)

/-- The name of an identifier from its fields. -/
def nameOfFields (f : Fields) : Option String :=
  if f.fits 1 then f.required 0 "name" Json.text? else none

/-- The name of an identifier in a place that holds nothing else. -/
def decodeName (j : Json) : Option String := do
  nameOfFields (← j.fields? 1)

/-- A stretch of template text. -/
def TemplateElement.decode (j : Json) : Option TemplateElement := do
  let f ← j.fields? 2
  let tail ← f.required 0 "tail" Json.bool?
  let g ← f.required 1 "value" (Json.fields? 2)
  some ⟨tail, ← g.required 0 "raw" Json.text?, ← g.optional 1 "cooked" Json.text?⟩

/-- A field that is false when missing. -/
def flagOf (f : Fields) (index : Nat) (key : String) : Option Bool :=
  f.withDefault index key false Json.bool?

/-- The operator of a node. -/
def operatorOf {α : Type} (kept : Bool) (f : Fields) (all : List α) (symbol : α → String) :
    Option α :=
  f.required 0 "operator" (Json.word? kept all symbol)

namespace Readers

variable (r : Readers) (kept : Bool)

/-- The statements of a block. -/
def block (j : Json) : Option (List Stmt) := do
  let f ← j.fields? 1
  f.required 0 "body" (Json.list (r.stmt kept))

/-- A function from its fields. -/
def funcOfFields (f : Fields) : Option Func :=
  if f.fits 5 then do
    some {
      name := ← f.withDefault 0 "id" .none (Json.nullable decodeName)
      params := ← f.required 1 "params" (Json.list (r.pattern kept))
      body := ← f.required 2 "body" (r.block kept)
      generator := ← flagOf f 3 "generator"
      async := ← flagOf f 4 "async" }
  else .none

/-- A function in a place that holds nothing else. -/
def func (j : Json) : Option Func := do
  r.funcOfFields kept (← j.fields? 5)

/-- The kinds of class members. -/
def classMemberKinds : List String :=
  ["MethodDefinition", "PropertyDefinition", "StaticBlock"]

/-- A method of a class from its fields. -/
def methodOfFields (f : Fields) : Option ClassMember :=
  if f.fits 5 then do
    some (.method (← f.required 0 "key" (r.expr kept)) (← f.required 1 "value" (r.func kept))
      (← f.required 2 "kind" (MethodKind.decode kept)) (← flagOf f 3 "computed")
      (← flagOf f 4 "static"))
  else .none

/-- A member of a class body. -/
def classMember (j : Json) : Option ClassMember := do
  let (kind, f) ← j.tagged? kept classMemberKinds
  match kind with
  | "MethodDefinition" => r.methodOfFields true f
  | "PropertyDefinition" =>
    if f.fits 4 then
      some (.field (← f.required 0 "key" (r.expr true)) (← f.optional 1 "value" (r.expr true))
        (← flagOf f 2 "computed") (← flagOf f 3 "static"))
    else .none
  | _ =>
    if f.fits 1 then some (.staticBlock (← f.required 0 "body" (Json.list (r.stmt true))))
    else .none

/-- The members of a class. -/
def classBody (j : Json) : Option (List ClassMember) := do
  let f ← j.fields? 1
  f.required 0 "body" (Json.list (r.classMember kept))

/-- A class from its fields. -/
def classOfFields (f : Fields) : Option ClassDef :=
  if f.fits 3 then do
    some {
      name := ← f.withDefault 0 "id" .none (Json.nullable decodeName)
      superclass := ← f.optional 1 "superClass" (r.expr kept)
      members := ← f.required 2 "body" (r.classBody kept) }
  else .none

/-- A class in a place that holds nothing else. -/
def classDef (j : Json) : Option ClassDef := do
  r.classOfFields kept (← j.fields? 3)

/-- A variable of a declaration. -/
def declarator (j : Json) : Option Declarator := do
  let f ← j.fields? 2
  some ⟨← f.required 0 "id" (r.pattern kept), ← f.optional 1 "init" (r.expr kept)⟩

/-- A variable declaration from its fields. -/
def variablesOfFields (f : Fields) : Option (VariableKind × List Declarator) :=
  if f.fits 2 then do
    some (← f.required 0 "kind" (VariableKind.decode kept),
      ← f.required 1 "declarations" (Json.list (r.declarator kept)))
  else .none

/-- The quasis and expressions of a template literal from its fields. -/
def templateOfFields (f : Fields) : Option (List TemplateElement × List Expr) :=
  if f.fits 2 then do
    some (← f.required 0 "quasis" (Json.list TemplateElement.decode),
      ← f.required 1 "expressions" (Json.list (r.expr kept)))
  else .none

/-- A template literal in a place that holds nothing else. -/
def template (j : Json) : Option (List TemplateElement × List Expr) := do
  r.templateOfFields kept (← j.fields? 2)

/-- The kinds of object members. -/
def objectMemberKinds : List String :=
  ["Property", "SpreadElement"]

/-- A member of an object literal. -/
def objectMember (j : Json) : Option ObjectMember := do
  let (kind, f) ← j.tagged? kept objectMemberKinds
  match kind with
  | "Property" =>
    if f.fits 6 then
      some (.property (← f.required 0 "key" (r.expr true)) (← f.required 1 "value" (r.expr true))
        (← f.required 2 "kind" (PropertyKind.decode true)) (← flagOf f 3 "method")
        (← flagOf f 4 "computed") (← flagOf f 5 "shorthand"))
    else .none
  | _ =>
    if f.fits 1 then some (.spread (← f.required 0 "argument" (r.expr true))) else .none

/-- The kinds of members of an object pattern. -/
def patternMemberKinds : List String :=
  ["Property", "RestElement"]

/-- A member of an object pattern. -/
def patternMember (j : Json) : Option PatternMember := do
  let (kind, f) ← j.tagged? kept patternMemberKinds
  match kind with
  | "Property" =>
    if f.fits 4 then
      some (.property (← f.required 0 "key" (r.expr true)) (← f.required 1 "value" (r.pattern true))
        (← flagOf f 2 "computed") (← flagOf f 3 "shorthand"))
    else .none
  | _ =>
    if f.fits 1 then some (.rest (← f.required 0 "argument" (r.pattern true))) else .none

/-- The object, the property and the two flags of a member access, from their fields. -/
def memberOfFields (f : Fields) : Option (Expr × Expr × Bool × Bool) :=
  if f.fits 4 then do
    some (← f.required 0 "object" (r.expr true), ← f.required 1 "property" (r.expr true),
      ← flagOf f 2 "computed", ← flagOf f 3 "optional")
  else .none

/-- The body of an arrow function: a block, or else an expression. -/
def arrowBody (j : Json) : Option (List Stmt ⊕ Expr) :=
  let block := do
    let (_, f) ← j.tagged? true ["BlockStatement"]
    if f.fits 1 then f.required 0 "body" (Json.list (r.stmt true)) else .none
  match block with
  | some body => some (.inl body)
  | .none => (r.expr true j).map .inr

/-- The kinds of expressions. -/
def exprKinds : List String := [
  "Identifier", "PrivateIdentifier", "Literal", "ThisExpression", "Super", "ArrayExpression",
  "ObjectExpression", "FunctionExpression", "ArrowFunctionExpression", "ClassExpression",
  "TemplateLiteral", "TaggedTemplateExpression", "UnaryExpression", "UpdateExpression",
  "BinaryExpression", "LogicalExpression", "AssignmentExpression", "ConditionalExpression",
  "MemberExpression", "CallExpression", "NewExpression", "SequenceExpression", "SpreadElement",
  "AwaitExpression", "YieldExpression", "ChainExpression", "ImportExpression", "MetaProperty"]

/-- An expression of the given kind from its fields. -/
def exprOfFields (kind : String) (f : Fields) : Option Expr :=
  let expr := r.expr true
  match kind with
  | "Identifier" => (nameOfFields f).map .identifier
  | "PrivateIdentifier" => (nameOfFields f).map .privateName
  | "Literal" => (Literal.ofFields f).map .literal
  | "ThisExpression" => if f.fits 0 then some .thisRef else .none
  | "Super" => if f.fits 0 then some .superRef else .none
  | "ArrayExpression" =>
    if f.fits 1 then
      (f.required 0 "elements" (Json.list (Json.nullable expr))).map .array
    else .none
  | "ObjectExpression" =>
    if f.fits 1 then
      (f.required 0 "properties" (Json.list (r.objectMember true))).map .object
    else .none
  | "FunctionExpression" => (r.funcOfFields true f).map .function
  | "ArrowFunctionExpression" =>
    if f.fits 4 then do
      let params ← f.required 0 "params" (Json.list (r.pattern true))
      let body ← f.required 1 "body" r.arrowBody
      let concise ← f.required 2 "expression" Json.bool?
      let async ← flagOf f 3 "async"
      match body with
      | .inl body => some (.arrowBlock params body concise async)
      | .inr body => some (.arrow params body concise async)
    else .none
  | "ClassExpression" => (r.classOfFields true f).map .classDef
  | "TemplateLiteral" => (r.templateOfFields true f).map fun (q, es) => .template q es
  | "TaggedTemplateExpression" =>
    if f.fits 2 then do
      let tag ← f.required 0 "tag" expr
      let (q, es) ← f.required 1 "quasi" (r.template true)
      some (.tagged tag q es)
    else .none
  | "UnaryExpression" =>
    if f.fits 3 then do
      some (.unary (← operatorOf true f UnaryOp.all UnaryOp.symbol)
        (← f.withDefault 1 "prefix" true Json.bool?) (← f.required 2 "argument" expr))
    else .none
  | "UpdateExpression" =>
    if f.fits 3 then do
      some (.update (← operatorOf true f UpdateOp.all UpdateOp.symbol)
        (← f.required 1 "prefix" Json.bool?) (← f.required 2 "argument" expr))
    else .none
  | "BinaryExpression" =>
    if f.fits 3 then do
      some (.binary (← operatorOf true f BinaryOp.all BinaryOp.symbol)
        (← f.required 1 "left" expr) (← f.required 2 "right" expr))
    else .none
  | "LogicalExpression" =>
    if f.fits 3 then do
      some (.logical (← operatorOf true f LogicalOp.all LogicalOp.symbol)
        (← f.required 1 "left" expr) (← f.required 2 "right" expr))
    else .none
  | "AssignmentExpression" =>
    if f.fits 3 then do
      some (.assign (← operatorOf true f AssignOp.all AssignOp.symbol)
        (← f.required 1 "left" (r.pattern true)) (← f.required 2 "right" expr))
    else .none
  | "ConditionalExpression" =>
    if f.fits 3 then do
      some (.conditional (← f.required 0 "test" expr) (← f.required 1 "consequent" expr)
        (← f.required 2 "alternate" expr))
    else .none
  | "MemberExpression" => (r.memberOfFields f).map fun (o, p, c, q) => .member o p c q
  | "CallExpression" =>
    if f.fits 3 then do
      some (.call (← f.required 0 "callee" expr) (← f.required 1 "arguments" (Json.list expr))
        (← flagOf f 2 "optional"))
    else .none
  | "NewExpression" =>
    if f.fits 2 then do
      some (.new (← f.required 0 "callee" expr) (← f.required 1 "arguments" (Json.list expr)))
    else .none
  | "SequenceExpression" =>
    if f.fits 1 then (f.required 0 "expressions" (Json.list expr)).map .sequence else .none
  | "SpreadElement" => if f.fits 1 then (f.required 0 "argument" expr).map .spread else .none
  | "AwaitExpression" => if f.fits 1 then (f.required 0 "argument" expr).map .await else .none
  | "YieldExpression" =>
    if f.fits 2 then do
      some (.yield (← f.optional 0 "argument" expr) (← flagOf f 1 "delegate"))
    else .none
  | "ChainExpression" => if f.fits 1 then (f.required 0 "expression" expr).map .chain else .none
  | "ImportExpression" => if f.fits 1 then (f.required 0 "source" expr).map .importCall else .none
  | _ =>
    if f.fits 2 then do
      some (.metaProperty (← f.required 0 "meta" decodeName) (← f.required 1 "property" decodeName))
    else .none

/-- An expression whose parts the readers read. -/
def nextExpr (j : Json) : Option Expr := do
  let (kind, f) ← j.tagged? kept exprKinds
  r.exprOfFields kind f

/-- The kinds of patterns. -/
def patternKinds : List String := [
  "Identifier", "ObjectPattern", "ArrayPattern", "RestElement", "AssignmentPattern",
  "MemberExpression"]

/-- A pattern whose parts the readers read. -/
def nextPattern (j : Json) : Option Pattern := do
  let (kind, f) ← j.tagged? kept patternKinds
  match kind with
  | "Identifier" => (nameOfFields f).map .identifier
  | "ObjectPattern" =>
    if f.fits 1 then
      (f.required 0 "properties" (Json.list (r.patternMember true))).map .object
    else .none
  | "ArrayPattern" =>
    if f.fits 1 then
      (f.required 0 "elements" (Json.list (Json.nullable (r.pattern true)))).map .array
    else .none
  | "RestElement" =>
    if f.fits 1 then (f.required 0 "argument" (r.pattern true)).map .rest else .none
  | "AssignmentPattern" =>
    if f.fits 2 then
      some (.withDefault (← f.required 0 "left" (r.pattern true))
        (← f.required 1 "right" (r.expr true)))
    else .none
  | _ => (r.memberOfFields f).map fun (o, p, c, q) => .member o p c q

/-- A case of a `switch`. -/
def switchCase (j : Json) : Option SwitchCase := do
  let f ← j.fields? 2
  some ⟨← f.optional 0 "test" (r.expr kept), ← f.required 1 "consequent" (Json.list (r.stmt kept))⟩

/-- The parameter and the body of a `catch` clause. -/
def catchClause (j : Json) : Option (Option Pattern × List Stmt) := do
  let f ← j.fields? 2
  some (← f.optional 0 "param" (r.pattern kept), ← f.required 1 "body" (r.block kept))

/-- A variable declaration, or else what `other` reads. -/
def variablesOr {α : Type} (other : Json → Option α) (j : Json) :
    Option ((VariableKind × List Declarator) ⊕ α) :=
  let declared := do
    let (_, f) ← j.tagged? true ["VariableDeclaration"]
    r.variablesOfFields true f
  match declared with
  | some v => some (.inl v)
  | .none => (other j).map .inr

/-- What a `for` loop starts with. -/
def forInit (j : Json) : Option ((VariableKind × List Declarator) ⊕ Expr) :=
  r.variablesOr (r.expr true) j

/-- What a `for … in` or `for … of` loop stores into. -/
def forLeft (j : Json) : Option ((VariableKind × List Declarator) ⊕ Pattern) :=
  r.variablesOr (r.pattern true) j

/-- A loop over keys or values from its fields. -/
def forEachOfFields (loop : LoopKind) (f : Fields) : Option Stmt :=
  if f.fits 4 then do
    let left ← f.required 0 "left" r.forLeft
    let right ← f.required 1 "right" (r.expr true)
    let body ← f.required 2 "body" (r.stmt true)
    let await ← flagOf f 3 "await"
    match left with
    | .inl (kind, declarations) => some (.forEachVariable loop kind declarations right body await)
    | .inr left => some (.forEach loop left right body await)
  else .none

/-- The kinds of statements. -/
def stmtKinds : List String := [
  "ExpressionStatement", "BlockStatement", "EmptyStatement", "DebuggerStatement",
  "ReturnStatement", "LabeledStatement", "BreakStatement", "ContinueStatement", "IfStatement",
  "SwitchStatement", "ThrowStatement", "TryStatement", "WhileStatement", "DoWhileStatement",
  "ForStatement", "ForInStatement", "ForOfStatement", "VariableDeclaration",
  "FunctionDeclaration", "ClassDeclaration"]

/-- A statement of the given kind from its fields. -/
def stmtOfFields (kind : String) (f : Fields) : Option Stmt :=
  let expr := r.expr true
  let stmt := r.stmt true
  match kind with
  | "ExpressionStatement" =>
    if f.fits 2 then do
      some (.expression (← f.required 0 "expression" expr)
        (← f.withDefault 1 "directive" .none (Json.nullable Json.text?)))
    else .none
  | "BlockStatement" =>
    if f.fits 1 then (f.required 0 "body" (Json.list stmt)).map .block else .none
  | "EmptyStatement" => if f.fits 0 then some .empty else .none
  | "DebuggerStatement" => if f.fits 0 then some .debugger else .none
  | "ReturnStatement" => if f.fits 1 then (f.optional 0 "argument" expr).map .return else .none
  | "LabeledStatement" =>
    if f.fits 2 then do
      some (.labeled (← f.required 0 "label" decodeName) (← f.required 1 "body" stmt))
    else .none
  | "BreakStatement" =>
    if f.fits 1 then (f.withDefault 0 "label" .none (Json.nullable decodeName)).map .break
    else .none
  | "ContinueStatement" =>
    if f.fits 1 then (f.withDefault 0 "label" .none (Json.nullable decodeName)).map .continue
    else .none
  | "IfStatement" =>
    if f.fits 3 then do
      let test ← f.required 0 "test" expr
      let consequent ← f.required 1 "consequent" stmt
      match ← f.optional 2 "alternate" stmt with
      | .none => some (.if test consequent)
      | some alternate => some (.ifElse test consequent alternate)
    else .none
  | "SwitchStatement" =>
    if f.fits 2 then do
      some (.switch (← f.required 0 "discriminant" expr)
        (← f.required 1 "cases" (Json.list (r.switchCase true))))
    else .none
  | "ThrowStatement" => if f.fits 1 then (f.required 0 "argument" expr).map .throw else .none
  | "TryStatement" =>
    if f.fits 3 then do
      let block ← f.required 0 "block" (r.block true)
      let handler ← f.optional 1 "handler" (r.catchClause true)
      let finalizer ← f.withDefault 2 "finalizer" .none (Json.nullable (r.block true))
      match handler, finalizer with
      | .none, .none => some (.try block)
      | some (param, body), .none => some (.tryCatch block param body)
      | .none, some finalizer => some (.tryFinally block finalizer)
      | some (param, body), some finalizer => some (.tryCatchFinally block param body finalizer)
    else .none
  | "WhileStatement" =>
    if f.fits 2 then do some (.while (← f.required 0 "test" expr) (← f.required 1 "body" stmt))
    else .none
  | "DoWhileStatement" =>
    if f.fits 2 then do some (.doWhile (← f.required 0 "test" expr) (← f.required 1 "body" stmt))
    else .none
  | "ForStatement" =>
    if f.fits 4 then do
      let init ← f.optional 0 "init" r.forInit
      let test ← f.optional 1 "test" expr
      let update ← f.optional 2 "update" expr
      let body ← f.required 3 "body" stmt
      match init with
      | .none => some (.for .none test update body)
      | some (.inr init) => some (.for (some init) test update body)
      | some (.inl (kind, declarations)) =>
        some (.forVariables kind declarations test update body)
    else .none
  | "ForInStatement" => r.forEachOfFields .keys f
  | "ForOfStatement" => r.forEachOfFields .values f
  | "VariableDeclaration" => (r.variablesOfFields true f).map fun (k, ds) => .variables k ds
  | "FunctionDeclaration" => (r.funcOfFields true f).map .function
  | _ => (r.classOfFields true f).map .classDef

/-- A statement whose parts the readers read. -/
def nextStmt (j : Json) : Option Stmt := do
  let (kind, f) ← j.tagged? kept stmtKinds
  r.stmtOfFields kind f

/-- The readers of the next round. -/
def next : Readers where
  expr := r.nextExpr
  pattern := r.nextPattern
  stmt := r.nextStmt

end Readers

/-- The readers of a round. -/
def readers : Nat → Readers
  | 0 => Readers.none
  | n + 1 => (readers n).next

/-- An expression. -/
def Expr.decode (kept : Bool) (j : Json) : Option Expr :=
  (readers j.depth).expr kept j

/-- A pattern. -/
def Pattern.decode (kept : Bool) (j : Json) : Option Pattern :=
  (readers j.depth).pattern kept j

/-- A statement. -/
def Stmt.decode (kept : Bool) (j : Json) : Option Stmt :=
  (readers j.depth).stmt kept j

end CustomElement.Tree
