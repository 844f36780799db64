import CustomElement.Emit.Precedence
import CustomElement.Number.Notation
import CustomElement.Tree.Encode

/-!
# Printing trees

The document of every node, by recursion on the tree. `level` is the level of indentation; `noIn`
holds inside the head of a `for` loop, where a bare `in` would end the head. A node is printed from
left to right, and the first part without a written form is reported.
-/

namespace CustomElement.Emit

open CustomElement.Tree

/-- Why a tree has no written form. -/
inductive Unprintable where
  /-- Markup among the items of a program. -/
  | markup (tag : String)
  /-- An export clause that cannot stand in a list of exports. -/
  | exportClause (kind : String)
  /-- The property of a member access is neither a name nor in brackets. -/
  | memberProperty
  /-- A method or accessor is not a function. -/
  | methodValue
deriving DecidableEq, Repr

/-- A printed part, or the reason why there is none. -/
abbrev Printed (α : Type) := Except Unprintable α

/-- A literal. -/
def literalDoc (l : Literal) : Doc :=
  match l.regex, l.bigint, l.value with
  | some r, _, _ => word "/" ++ word r.pattern ++ word "/" ++ word r.flags
  | none, some digits, _ => word digits ++ word "n"
  | none, none, .null => word "null"
  | none, none, .boolean true => word "true"
  | none, none, .boolean false => word "false"
  | none, none, .number x => word x.render
  | none, none, .string s => [.string s]

/-- Whether an expression is a number whose digits would swallow a following dot. -/
def swallowsDot (e : Expr) (d : Doc) : Bool :=
  match e with
  | .literal ⟨.number _, none, none⟩ => d.chars.all Text.isAsciiDigit
  | _ => false

/-- The object of a member access, up to the access itself. -/
def objectDoc (noIn computed : Bool) (e : Expr) (d : Doc) : Doc :=
  let d := encloseCallee noIn e d
  if !computed && swallowsDot e d then parens d else d

/-- A property key: a name, a literal, or an expression in brackets. -/
def keyDoc (noIn computed : Bool) (key : Expr) (d : Doc) : Doc :=
  let bracketed := word "[" ++ enclose noIn Precedence.assignment key d ++ word "]"
  match key with
  | .identifier _ | .privateName _ | .literal _ => if computed then bracketed else d
  | _ => bracketed

/-- A block around printed statements. -/
def blockDoc (level : Nat) (body : Doc) : Doc :=
  if body.isEmpty then word "\x7b\x7d" else word "\x7b" ++ body ++ [.line level] ++ word "\x7d"

/-- The name after a keyword. -/
def nameDoc : Option String → Doc
  | some name => word " " ++ word name
  | none => []

/-- The word for a modifier. -/
def modifier (flag : Bool) (s : String) : Doc :=
  if flag then word s else []

/-- Whether a statement is a block. -/
def isBlock : Stmt → Bool
  | .block _ => true
  | _ => false

/-- Whether a statement is a conditional. -/
def isIf : Stmt → Bool
  | .if .. | .ifElse .. => true
  | _ => false

/-- The level at which the body of a loop or conditional is printed. -/
def clauseLevel (level : Nat) (body : Stmt) : Nat :=
  if isBlock body then level else level + 1

/-- The body of a loop or conditional after its head. -/
def clauseDoc (level : Nat) (body : Stmt) (d : Doc) : Doc :=
  match body with
  | .block _ => word " " ++ d
  | .empty => word ";"
  | _ => .line (level + 1) :: d

/-- The level at which the first branch of a conditional with two is printed. -/
def branchLevel (level : Nat) (body : Stmt) : Nat :=
  clauseLevel level body

/-- The first branch of a conditional with two, up to the `else`. A conditional without `else` is
put in a block, or it would take ours. -/
def branchDoc (level : Nat) (body : Stmt) (d : Doc) : Doc :=
  match body with
  | .block _ => word " " ++ d ++ word " "
  | .if .. => word " " ++ blockDoc level (.line (level + 1) :: d) ++ word " "
  | _ => clauseDoc level body d ++ [.line level]

/-- The level at which the second branch of a conditional is printed. -/
def elseLevel (level : Nat) (body : Stmt) : Nat :=
  if isIf body then level else clauseLevel level body

/-- The second branch of a conditional after the `else`. -/
def elseDoc (level : Nat) (body : Stmt) (d : Doc) : Doc :=
  if isIf body then word " " ++ d else clauseDoc level body d

/-- An expression as a statement. -/
def expressionStmtDoc (follows directive : Bool) (d : Doc) : Doc :=
  let d := if !directive && isAmbiguousStart d.chars then parens d else d
  let d := if follows && continuesLine d.chars then .guard :: d else d
  d ++ [.stop]

/-- The body of a concise arrow function. -/
def conciseBodyDoc (d : Doc) : Doc :=
  if "\x7b".toList.isPrefixOf d.chars then parens d else d

/-- The operand of a unary operator, apart from a sign that would merge with it. -/
def operandDoc (op : UnaryOp) (d : Doc) : Doc :=
  match op with
  | .minus | .plus => if op.symbol.toList.isPrefixOf d.chars then word " " ++ d else d
  | .not | .bitNot => d
  | .typeof | .void | .delete => word " " ++ d

/-- The least precedences of the two operands of a binary operator. -/
def operandPrecedences (op : BinaryOp) : Nat × Nat :=
  match op with
  | .power => (Precedence.update, Precedence.power)
  | _ => (binaryPrecedence op, binaryPrecedence op + 1)

/-- Whether an operand of a logical operator mixes `??` with the other two. -/
def mixes (op : LogicalOp) : Expr → Bool
  | .logical inner _ _ => (inner == .coalesce) != (op == .coalesce)
  | _ => false

/-- The least precedences of the two operands of a logical operator. -/
def logicalOperandPrecedences (op : LogicalOp) (left right : Expr) : Nat × Nat :=
  (if mixes op left then Precedence.primary else logicalPrecedence op,
    if mixes op right then Precedence.primary else logicalPrecedence op + 1)

/-- Whether a property of an object literal is written as a name alone. -/
def isShorthand (key value : Expr) (computed shorthand : Bool) : Bool :=
  shorthand && !computed &&
    match key, value with
    | .identifier k, .identifier v => k == v
    | _, _ => false

/-- Whether a property of an object pattern is written without its key. -/
def isShorthandPattern (key : Expr) (value : Pattern) (shorthand : Bool) : Bool :=
  shorthand &&
    match key, value with
    | .identifier k, .identifier v => k == v
    | .identifier k, .withDefault (.identifier v) _ => k == v
    | _, _ => false

/-- The word before the target of a loop over keys or values. -/
def loopWord : LoopKind → String
  | .keys => "in"
  | .values => "of"

/-- The least precedence of what a loop walks. -/
def loopPrecedence : LoopKind → Nat
  | .keys => Precedence.sequence
  | .values => Precedence.assignment

/-- A comma after a last element that is a hole. -/
def holeComma {α : Type} (elements : List (Option α)) : Doc :=
  match elements.getLast? with
  | some none => word ","
  | _ => []

/-- A variable declaration around printed declarators. -/
def variablesDoc (kind : VariableKind) (declarations : List Doc) : Doc :=
  word kind.keyword ++ word " " ++ commaSeparated declarations

/-- A semicolon after a class field, where one is needed or may stand. -/
def fieldStop (needed : Bool) : Doc :=
  if needed then word ";" else [.stop]

/-- The word in front of an accessor. -/
def methodKindDoc : MethodKind → Doc
  | .get => word "get "
  | .set => word "set "
  | .constructor | .method => []

/-- The words in front of the key of a method or accessor of an object literal. Only a method shows
how its function runs. -/
def methodStart (kind : PropertyKind) : Expr → Printed Doc
  | .function f =>
    match kind with
    | .init => pure (modifier f.async "async " ++ modifier f.generator "*")
    | .get => pure (word "get ")
    | .set => pure (word "set ")
  | _ => throw .methodValue

/-- The words in front of the parameters of a function. -/
def functionHead (f : Func) : Doc :=
  modifier f.async "async " ++ word "function" ++ modifier f.generator "*" ++ nameDoc f.name

/-- Access to a property of an object, given the object's document and what printing the property
comes to. -/
def accessDoc (noIn : Bool) (object : Expr) (objectDocument : Doc) (property : Expr)
    (propertyDocument : Printed Doc) (computed optional : Bool) : Printed Doc :=
  let o := objectDoc noIn computed object objectDocument
  if computed then do
    let p ← propertyDocument
    pure (o ++ modifier optional "?." ++ word "[" ++
      enclose noIn Precedence.sequence property p ++ word "]")
  else
    let dot := word (if optional then "?." else ".")
    match property with
    | .identifier name => pure (o ++ dot ++ word name)
    | .privateName name => pure (o ++ dot ++ word "#" ++ word name)
    | _ => throw .memberProperty

/-- The raw text of template elements. -/
def rawDoc (quasis : List TemplateElement) : Doc :=
  quasis.flatMap fun q => word q.raw

mutual
/-- An expression, without regard to its place. -/
def exprDoc (level : Nat) (noIn : Bool) : Expr → Printed Doc
  | .identifier name => pure (word name)
  | .privateName name => pure (word "#" ++ word name)
  | .literal l => pure (literalDoc l)
  | .thisRef => pure (word "this")
  | .superRef => pure (word "super")
  | .array elements => do
    let ds ← elementDocs level noIn elements
    pure (word "[" ++ commaSeparated ds ++ holeComma elements ++ word "]")
  | .object members => do
    let ds ← memberDocs (level + 1) noIn members
    pure (blockDoc level ds)
  | .function f => do
    let t ← functionTailDoc level noIn f
    pure (functionHead f ++ t)
  | .arrow params body _ async => do
    let ps ← patternDocs level noIn params
    let b ← exprDoc level noIn body
    let b := conciseBodyDoc (enclose noIn Precedence.assignment body b)
    pure (modifier async "async " ++ parens (commaSeparated ps) ++ word " => " ++ b)
  | .arrowBlock params body _ async => do
    let ps ← patternDocs level noIn params
    let b ← stmtDocs (level + 1) noIn false body
    pure (modifier async "async " ++ parens (commaSeparated ps) ++ word " => " ++
      blockDoc level b)
  | .classDef c => classDoc level noIn c
  | .template quasis expressions => do
    let parts ← templateDoc level noIn quasis expressions
    pure (word "`" ++ parts ++ word "`")
  | .tagged tag quasis expressions => do
    let t ← exprDoc level noIn tag
    let parts ← templateDoc level noIn quasis expressions
    pure (encloseCallee noIn tag t ++ word "`" ++ parts ++ word "`")
  | .unary op _ argument => do
    let d ← exprDoc level noIn argument
    pure (word op.symbol ++ operandDoc op (enclose noIn Precedence.unary argument d))
  | .update op before argument => do
    let d ← exprDoc level noIn argument
    if before then pure (word op.symbol ++ enclose noIn Precedence.unary argument d)
    else pure (enclose noIn Precedence.call argument d ++ word op.symbol)
  | .binary op left right => do
    let l ← exprDoc level noIn left
    let r ← exprDoc level noIn right
    let least := operandPrecedences op
    pure (enclose noIn least.1 left l ++ word " " ++ word op.symbol ++ word " " ++
      enclose noIn least.2 right r)
  | .logical op left right => do
    let l ← exprDoc level noIn left
    let r ← exprDoc level noIn right
    let least := logicalOperandPrecedences op left right
    pure (enclose noIn least.1 left l ++ word " " ++ word op.symbol ++ word " " ++
      enclose noIn least.2 right r)
  | .assign op left right => do
    let l ← patternDoc level noIn left
    let r ← exprDoc level noIn right
    pure (l ++ word " " ++ word op.symbol ++ word " " ++
      enclose noIn Precedence.assignment right r)
  | .conditional test consequent alternate => do
    let t ← exprDoc level noIn test
    let c ← exprDoc level noIn consequent
    let a ← exprDoc level noIn alternate
    pure (enclose noIn Precedence.coalesce test t ++ word " ? " ++
      enclose noIn Precedence.assignment consequent c ++ word " : " ++
      enclose noIn Precedence.assignment alternate a)
  | .member object property computed optional => do
    let o ← exprDoc level noIn object
    accessDoc noIn object o property (exprDoc level noIn property) computed optional
  | .call callee arguments optional => do
    let c ← exprDoc level noIn callee
    let as ← exprDocs level noIn arguments
    pure (encloseCallee noIn callee c ++ modifier optional "?." ++ parens (commaSeparated as))
  | .new callee arguments => do
    let c ← exprDoc level noIn callee
    let as ← exprDocs level noIn arguments
    let closed := hasCall callee || precedence callee < Precedence.member
    pure (word "new " ++ (if closed then parens c else c) ++ parens (commaSeparated as))
  | .sequence expressions => do
    let ds ← exprDocs level noIn expressions
    pure (commaSeparated ds)
  | .spread argument => do
    let d ← exprDoc level noIn argument
    pure (word "..." ++ enclose noIn Precedence.assignment argument d)
  | .await argument => do
    let d ← exprDoc level noIn argument
    pure (word "await " ++ enclose noIn Precedence.unary argument d)
  | .yield argument delegate => do
    let d ← optionDoc level noIn Precedence.assignment argument
    pure (word "yield" ++ modifier delegate "*" ++ d)
  | .chain expression => exprDoc level noIn expression
  | .importCall source => do
    let d ← exprDoc level noIn source
    pure (word "import(" ++ enclose noIn Precedence.assignment source d ++ word ")")
  | .metaProperty object property => pure (word object ++ word "." ++ word property)

/-- An expression that may be absent, after a blank. -/
def optionDoc (level : Nat) (noIn : Bool) (least : Nat) : Option Expr → Printed Doc
  | none => pure []
  | some e => do
    let d ← exprDoc level noIn e
    pure (word " " ++ enclose noIn least e d)

/-- The items of an argument list or a sequence. -/
def exprDocs (level : Nat) (noIn : Bool) : List Expr → Printed (List Doc)
  | [] => pure []
  | e :: rest => do
    let d ← exprDoc level noIn e
    let ds ← exprDocs level noIn rest
    pure (enclose noIn Precedence.assignment e d :: ds)

/-- An array element; a hole is empty. -/
def elementDoc (level : Nat) (noIn : Bool) : Option Expr → Printed Doc
  | none => pure []
  | some e => do
    let d ← exprDoc level noIn e
    pure (enclose noIn Precedence.assignment e d)

/-- The elements of an array literal. -/
def elementDocs (level : Nat) (noIn : Bool) : List (Option Expr) → Printed (List Doc)
  | [] => pure []
  | e :: rest => do
    let d ← elementDoc level noIn e
    let ds ← elementDocs level noIn rest
    pure (d :: ds)

/-- The text and the expressions of a template literal, by turns. Expressions that no text follows
on are not printed. -/
def templateDoc (level : Nat) (noIn : Bool) :
    List TemplateElement → List Expr → Printed Doc
  | quasis, [] => pure (rawDoc quasis)
  | [], _ :: _ => pure []
  | q :: quasis, e :: expressions => do
    let d ← exprDoc level noIn e
    let rest ← templateDoc level noIn quasis expressions
    pure (word q.raw ++ word "$\x7b" ++ enclose noIn Precedence.sequence e d ++ word "\x7d" ++ rest)

/-- The members of an object literal, each on a line of its own. -/
def memberDocs (level : Nat) (noIn : Bool) : List ObjectMember → Printed Doc
  | [] => pure []
  | [m] => do
    let d ← objectMemberDoc level noIn m
    pure (.line level :: d)
  | m :: rest => do
    let d ← objectMemberDoc level noIn m
    let ds ← memberDocs level noIn rest
    pure (.line level :: d ++ word "," ++ ds)

/-- A member of an object literal. -/
def objectMemberDoc (level : Nat) (noIn : Bool) : ObjectMember → Printed Doc
  | .spread argument => do
    let d ← exprDoc level noIn argument
    pure (word "..." ++ enclose noIn Precedence.assignment argument d)
  | .property key value kind method computed shorthand =>
    if kind != .init || method then do
      let start ← methodStart kind value
      let k ← exprDoc level noIn key
      let t ← methodTailDoc level noIn value
      pure (start ++ keyDoc noIn computed key k ++ t)
    else if isShorthand key value computed shorthand then exprDoc level noIn key
    else do
      let k ← exprDoc level noIn key
      let v ← exprDoc level noIn value
      pure (keyDoc noIn computed key k ++ word ": " ++ enclose noIn Precedence.assignment value v)

/-- The parameters and the body of the function that is a method's value. -/
def methodTailDoc (level : Nat) (noIn : Bool) : Expr → Printed Doc
  | .function f => functionTailDoc level noIn f
  | _ => throw .methodValue

/-- The parameters and the body of a function. -/
def functionTailDoc (level : Nat) (noIn : Bool) : Func → Printed Doc
  | ⟨_, params, body, _, _⟩ => do
    let ps ← patternDocs level noIn params
    let b ← stmtDocs (level + 1) noIn false body
    pure (parens (commaSeparated ps) ++ word " " ++ blockDoc level b)

/-- A class. -/
def classDoc (level : Nat) (noIn : Bool) : ClassDef → Printed Doc
  | ⟨name, superclass, members⟩ => do
    let s ← superclassDoc level noIn superclass
    let ms ← classMemberDocs (level + 1) noIn members
    pure (word "class" ++ nameDoc name ++ s ++ word " " ++ blockDoc level ms)

/-- The superclass of a class. -/
def superclassDoc (level : Nat) (noIn : Bool) : Option Expr → Printed Doc
  | none => pure []
  | some e => do
    let d ← exprDoc level noIn e
    pure (word " extends " ++ encloseCallee noIn e d)

/-- The members of a class, each on a line of its own. -/
def classMemberDocs (level : Nat) (noIn : Bool) : List ClassMember → Printed Doc
  | [] => pure []
  | m :: rest => do
    let d ← classMemberDoc level noIn rest.head? m
    let ds ← classMemberDocs level noIn rest
    pure (.line level :: d ++ ds)

/-- A member of a class that `next` follows. -/
def classMemberDoc (level : Nat) (noIn : Bool) (next : Option ClassMember) :
    ClassMember → Printed Doc
  | .method key value kind computed isStatic => do
    let k ← exprDoc level noIn key
    let t ← functionTailDoc level noIn value
    pure (modifier isStatic "static " ++ methodKindDoc kind ++ modifier value.async "async " ++
      modifier value.generator "*" ++ keyDoc noIn computed key k ++ t)
  | .field key value computed isStatic => do
    let k ← exprDoc level noIn key
    let v ← initDoc level noIn value
    pure (modifier isStatic "static " ++ keyDoc noIn computed key k ++ v ++
      fieldStop (fieldNeedsStop key value computed isStatic next))
  | .staticBlock body => do
    let b ← stmtDocs (level + 1) noIn false body
    pure (word "static " ++ blockDoc level b)

/-- The initial value of a field or variable. -/
def initDoc (level : Nat) (noIn : Bool) : Option Expr → Printed Doc
  | none => pure []
  | some e => do
    let d ← exprDoc level noIn e
    pure (word " = " ++ enclose noIn Precedence.assignment e d)

/-- A pattern. -/
def patternDoc (level : Nat) (noIn : Bool) : Pattern → Printed Doc
  | .identifier name => pure (word name)
  | .object members => do
    let ds ← patternMemberDocs level noIn members
    if members.isEmpty then pure (word "\x7b\x7d")
    else pure (word "\x7b " ++ commaSeparated ds ++ word " \x7d")
  | .array elements => do
    let ds ← patternElementDocs level noIn elements
    pure (word "[" ++ commaSeparated ds ++ holeComma elements ++ word "]")
  | .rest argument => do
    let d ← patternDoc level noIn argument
    pure (word "..." ++ d)
  | .withDefault left right => do
    let l ← patternDoc level noIn left
    let r ← exprDoc level noIn right
    pure (l ++ word " = " ++ enclose noIn Precedence.assignment right r)
  | .member object property computed optional => do
    let o ← exprDoc level noIn object
    accessDoc noIn object o property (exprDoc level noIn property) computed optional

/-- Patterns. -/
def patternDocs (level : Nat) (noIn : Bool) : List Pattern → Printed (List Doc)
  | [] => pure []
  | p :: rest => do
    let d ← patternDoc level noIn p
    let ds ← patternDocs level noIn rest
    pure (d :: ds)

/-- An element of an array pattern; a hole is empty. -/
def patternElementDoc (level : Nat) (noIn : Bool) : Option Pattern → Printed Doc
  | none => pure []
  | some p => patternDoc level noIn p

/-- The elements of an array pattern. -/
def patternElementDocs (level : Nat) (noIn : Bool) :
    List (Option Pattern) → Printed (List Doc)
  | [] => pure []
  | p :: rest => do
    let d ← patternElementDoc level noIn p
    let ds ← patternElementDocs level noIn rest
    pure (d :: ds)

/-- The members of an object pattern. -/
def patternMemberDocs (level : Nat) (noIn : Bool) :
    List PatternMember → Printed (List Doc)
  | [] => pure []
  | m :: rest => do
    let d ← patternMemberDoc level noIn m
    let ds ← patternMemberDocs level noIn rest
    pure (d :: ds)

/-- A member of an object pattern. -/
def patternMemberDoc (level : Nat) (noIn : Bool) : PatternMember → Printed Doc
  | .property key value computed shorthand => do
    if isShorthandPattern key value shorthand then patternDoc level noIn value
    else
      let k ← exprDoc level noIn key
      let v ← patternDoc level noIn value
      pure (keyDoc noIn computed key k ++ word ": " ++ v)
  | .rest argument => do
    let d ← patternDoc level noIn argument
    pure (word "..." ++ d)

/-- A statement; `follows` says that another one stands before it in the same list. -/
def stmtDoc (level : Nat) (noIn follows : Bool) : Stmt → Printed Doc
  | .expression e directive => do
    let d ← exprDoc level noIn e
    pure (expressionStmtDoc follows directive.isSome (enclose noIn Precedence.sequence e d))
  | .block body => do
    let b ← stmtDocs (level + 1) noIn false body
    pure (blockDoc level b)
  | .empty => pure (word ";")
  | .debugger => pure (word "debugger" ++ [.stop])
  | .return argument => do
    let d ← optionDoc level noIn Precedence.sequence argument
    pure (word "return" ++ d ++ [.stop])
  | .throw argument => do
    let d ← exprDoc level noIn argument
    pure (word "throw " ++ enclose noIn Precedence.sequence argument d ++ [.stop])
  | .labeled label body => do
    let d ← stmtDoc level noIn false body
    pure (word label ++ word ": " ++ d)
  | .break label => pure (word "break" ++ nameDoc label ++ [.stop])
  | .continue label => pure (word "continue" ++ nameDoc label ++ [.stop])
  | .if test consequent => do
    let t ← exprDoc level noIn test
    let c ← stmtDoc (clauseLevel level consequent) noIn false consequent
    pure (word "if (" ++ enclose noIn Precedence.sequence test t ++ word ")" ++
      clauseDoc level consequent c)
  | .ifElse test consequent alternate => do
    let t ← exprDoc level noIn test
    let c ← stmtDoc (branchLevel level consequent) noIn false consequent
    let a ← stmtDoc (elseLevel level alternate) noIn false alternate
    pure (word "if (" ++ enclose noIn Precedence.sequence test t ++ word ")" ++
      branchDoc level consequent c ++ word "else" ++ elseDoc level alternate a)
  | .switch discriminant cases => do
    let d ← exprDoc level noIn discriminant
    let cs ← caseDocs (level + 1) noIn cases
    pure (word "switch (" ++ enclose noIn Precedence.sequence discriminant d ++ word ") \x7b" ++
      cs ++ [.line level] ++ word "\x7d")
  | .try block => do
    let b ← stmtDocs (level + 1) noIn false block
    pure (word "try " ++ blockDoc level b)
  | .tryCatch block param handler => do
    let b ← stmtDocs (level + 1) noIn false block
    let p ← catchParamDoc level noIn param
    let h ← stmtDocs (level + 1) noIn false handler
    pure (word "try " ++ blockDoc level b ++ word " catch " ++ p ++ blockDoc level h)
  | .tryFinally block finalizer => do
    let b ← stmtDocs (level + 1) noIn false block
    let f ← stmtDocs (level + 1) noIn false finalizer
    pure (word "try " ++ blockDoc level b ++ word " finally " ++ blockDoc level f)
  | .tryCatchFinally block param handler finalizer => do
    let b ← stmtDocs (level + 1) noIn false block
    let p ← catchParamDoc level noIn param
    let h ← stmtDocs (level + 1) noIn false handler
    let f ← stmtDocs (level + 1) noIn false finalizer
    pure (word "try " ++ blockDoc level b ++ word " catch " ++ p ++ blockDoc level h ++
      word " finally " ++ blockDoc level f)
  | .while test body => do
    let t ← exprDoc level noIn test
    let b ← stmtDoc (clauseLevel level body) noIn false body
    pure (word "while (" ++ enclose noIn Precedence.sequence test t ++ word ")" ++
      clauseDoc level body b)
  | .doWhile test body => do
    let b ← stmtDoc (clauseLevel level body) noIn false body
    let t ← exprDoc level noIn test
    pure (word "do" ++ clauseDoc level body b ++
      (if isBlock body then word " " else [.line level]) ++ word "while (" ++
      enclose noIn Precedence.sequence test t ++ word ")" ++ [.stop])
  | .for init test update body => do
    let i ← forInitDoc level init
    let t ← optionDoc level noIn Precedence.sequence test
    let u ← optionDoc level noIn Precedence.sequence update
    let b ← stmtDoc (clauseLevel level body) noIn false body
    pure (word "for (" ++ i ++ word ";" ++ t ++ word ";" ++ u ++ word ")" ++
      clauseDoc level body b)
  | .forVariables kind declarations test update body => do
    let ds ← declaratorDocs level true declarations
    let t ← optionDoc level noIn Precedence.sequence test
    let u ← optionDoc level noIn Precedence.sequence update
    let b ← stmtDoc (clauseLevel level body) noIn false body
    pure (word "for (" ++ variablesDoc kind ds ++ word ";" ++ t ++ word ";" ++ u ++ word ")" ++
      clauseDoc level body b)
  | .forEach loop left right body await => do
    let l ← patternDoc level noIn left
    let r ← exprDoc level noIn right
    let b ← stmtDoc (clauseLevel level body) noIn false body
    pure (word "for " ++ modifier await "await " ++ word "(" ++ l ++ word " " ++
      word (loopWord loop) ++ word " " ++ enclose noIn (loopPrecedence loop) right r ++
      word ")" ++ clauseDoc level body b)
  | .forEachVariable loop kind declarations right body await => do
    let ds ← declaratorDocs level noIn declarations
    let r ← exprDoc level noIn right
    let b ← stmtDoc (clauseLevel level body) noIn false body
    pure (word "for " ++ modifier await "await " ++ word "(" ++ variablesDoc kind ds ++
      word " " ++ word (loopWord loop) ++ word " " ++
      enclose noIn (loopPrecedence loop) right r ++ word ")" ++ clauseDoc level body b)
  | .variables kind declarations => do
    let ds ← declaratorDocs level noIn declarations
    pure (variablesDoc kind ds ++ [.stop])
  | .function f => do
    let t ← functionTailDoc level noIn f
    pure (functionHead f ++ t)
  | .classDef c => classDoc level noIn c

/-- What a `for` loop starts with. -/
def forInitDoc (level : Nat) : Option Expr → Printed Doc
  | none => pure []
  | some e => do
    let d ← exprDoc level true e
    pure (enclose true Precedence.sequence e d)

/-- The parameter of a `catch` clause. -/
def catchParamDoc (level : Nat) (noIn : Bool) : Option Pattern → Printed Doc
  | none => pure []
  | some p => do
    let d ← patternDoc level noIn p
    pure (parens d ++ word " ")

/-- The statements of a list, each on a line of its own. -/
def stmtDocs (level : Nat) (noIn follows : Bool) : List Stmt → Printed Doc
  | [] => pure []
  | s :: rest => do
    let d ← stmtDoc level noIn follows s
    let ds ← stmtDocs level noIn true rest
    pure (.line level :: d ++ ds)

/-- The cases of a `switch`. -/
def caseDocs (level : Nat) (noIn : Bool) : List SwitchCase → Printed Doc
  | [] => pure []
  | c :: rest => do
    let d ← caseDoc level noIn c
    let ds ← caseDocs level noIn rest
    pure (.line level :: d ++ ds)

/-- A case of a `switch`. -/
def caseDoc (level : Nat) (noIn : Bool) : SwitchCase → Printed Doc
  | ⟨test, consequent⟩ => do
    let t ← optionDoc level noIn Precedence.sequence test
    let b ← stmtDocs (level + 1) noIn false consequent
    pure ((if test.isSome then word "case" ++ t ++ word ":" else word "default:") ++ b)

/-- The variables of a declaration. -/
def declaratorDocs (level : Nat) (noIn : Bool) : List Declarator → Printed (List Doc)
  | [] => pure []
  | d :: rest => do
    let doc ← declaratorDoc level noIn d
    let docs ← declaratorDocs level noIn rest
    pure (doc :: docs)

/-- A variable of a declaration. -/
def declaratorDoc (level : Nat) (noIn : Bool) : Declarator → Printed Doc
  | ⟨target, init⟩ => do
    let t ← patternDoc level noIn target
    let i ← initDoc level noIn init
    pure (t ++ i)
end

end CustomElement.Emit
