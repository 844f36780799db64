import CustomElement.Diagnostic.Basic
import CustomElement.Script.Syntax
import CustomElement.Tree.Build

/-!
# From scripts to trees

The tree of a script. Wrappers and declarations for types leave no trace, and the first construct
without a tree is reported. Bodies are looked at before parameters, class members before the
superclass, the cases of a `switch` before what it tests, and handlers before the block they guard.
-/

namespace CustomElement.Script

/-- The tree of a part, or the construct that has none. -/
abbrev Lowered (α : Type) := Except Unsupported α

/-- The report on an unsupported construct. -/
def Unsupported.diagnostic (u : Unsupported) : Diagnostic :=
  (Diagnostic.ofKind .unsupportedSyntax
    (u.feature ++ " is not supported in component scripts")).withContext u.text

/-- What is reported where a pattern is no pattern. -/
def noTarget : Unsupported :=
  ⟨"This assignment target", ""⟩

/-- A statement in a place that needs one. -/
def orEmpty (s : Option Tree.Stmt) : Tree.Stmt :=
  s.getD .empty

mutual
/-- The tree of an expression. -/
def Expr.lower : Expr → Lowered Tree.Expr
  | .identifier name => pure (.identifier name)
  | .privateName name => pure (.privateName name)
  | .literal value => pure (.literal value)
  | .thisRef => pure .thisRef
  | .superRef => pure .superRef
  | .array elements _ => do
    let es ← lowerElements elements
    pure (.array es)
  | .object members _ => do
    let ms ← lowerMembers members
    pure (.object ms)
  | .function f => do
    let f ← f.lower
    pure (.function f)
  | .arrow params body async => do
    let b ← body.lower
    let ps ← lowerTargets params
    pure (.arrow ps b true async)
  | .arrowBlock params body async => do
    let b ← lowerStmts body
    let ps ← lowerTargets params
    pure (.arrowBlock ps b false async)
  | .classDef c => do
    let c ← c.lower
    pure (.classDef c)
  | .template quasis expressions => do
    let es ← lowerExprs expressions
    pure (.template quasis es)
  | .tagged tag quasis expressions => do
    let t ← tag.lower
    let es ← lowerExprs expressions
    pure (.tagged t quasis es)
  | .unary op argument => do
    let a ← argument.lower
    pure (.unary op true a)
  | .update op before argument => do
    let a ← argument.lower
    pure (.update op before a)
  | .binary op left right => do
    let l ← left.lower
    let r ← right.lower
    pure (.binary op l r)
  | .logical op left right => do
    let l ← left.lower
    let r ← right.lower
    pure (.logical op l r)
  | .assign op left right => do
    let l ← left.lowerTarget
    let r ← right.lower
    pure (.assign op l r)
  | .conditional test consequent alternate => do
    let t ← test.lower
    let c ← consequent.lower
    let a ← alternate.lower
    pure (.conditional t c a)
  | .member object property computed optional => do
    let o ← object.lower
    let p ← property.lower
    pure (.member o p computed optional)
  | .call callee arguments optional => do
    let c ← callee.lower
    let as ← lowerExprs arguments
    pure (.call c as optional)
  | .new callee arguments => do
    let c ← callee.lower
    let as ← lowerExprs arguments
    pure (.new c as)
  | .sequence expressions => do
    let es ← lowerExprs expressions
    pure (.sequence es)
  | .spread argument => do
    let a ← argument.lower
    pure (.spread a)
  | .await argument => do
    let a ← argument.lower
    pure (.await a)
  | .yield argument delegate => do
    let a ← lowerOption argument
    pure (.yield a delegate)
  | .chain expression => do
    let e ← expression.lower
    pure (.chain e)
  | .importCall source => do
    let s ← source.lower
    pure (.importCall s)
  | .metaProperty object property => pure (.metaProperty object property)
  | .wrapped _ expression => expression.lower
  | .unsupported construct => throw construct

/-- The tree of an expression that may be absent. -/
def lowerOption : Option Expr → Lowered (Option Tree.Expr)
  | none => pure none
  | some e => do
    let e ← e.lower
    pure (some e)

/-- The trees of expressions. -/
def lowerExprs : List Expr → Lowered (List Tree.Expr)
  | [] => pure []
  | e :: rest => do
    let e ← e.lower
    let es ← lowerExprs rest
    pure (e :: es)

/-- The trees of the elements of an array. -/
def lowerElements : List (Option Expr) → Lowered (List (Option Tree.Expr))
  | [] => pure []
  | e :: rest => do
    let e ← lowerOption e
    let es ← lowerElements rest
    pure (e :: es)

/-- The pattern that an expression in the place of one stands for. -/
def Expr.lowerTarget : Expr → Lowered Tree.Pattern
  | .identifier name => pure (.identifier name)
  | .member object property computed optional => do
    let o ← object.lower
    let p ← property.lower
    pure (.member o p computed optional)
  | .array elements _ => do
    let es ← lowerTargetElements elements
    pure (.array es)
  | .object members _ => do
    let ms ← lowerTargetMembers members
    pure (.object ms)
  | .assign _ left right => do
    let l ← left.lowerTarget
    let r ← right.lower
    pure (.withDefault l r)
  | .spread argument => do
    let a ← argument.lowerTarget
    pure (.rest a)
  | .wrapped _ expression => expression.lowerTarget
  | .unsupported construct => throw construct
  | _ => throw noTarget

/-- A pattern that may be absent. -/
def lowerTargetOption : Option Expr → Lowered (Option Tree.Pattern)
  | none => pure none
  | some e => do
    let p ← e.lowerTarget
    pure (some p)

/-- Patterns, such as the parameters of a function. -/
def lowerTargets : List Expr → Lowered (List Tree.Pattern)
  | [] => pure []
  | e :: rest => do
    let p ← e.lowerTarget
    let ps ← lowerTargets rest
    pure (p :: ps)

/-- The elements of an array pattern. -/
def lowerTargetElements : List (Option Expr) → Lowered (List (Option Tree.Pattern))
  | [] => pure []
  | e :: rest => do
    let p ← lowerTargetOption e
    let ps ← lowerTargetElements rest
    pure (p :: ps)

/-- The tree of a member of an object. -/
def Member.lower : Member → Lowered Tree.ObjectMember
  | .property key value kind method computed shorthand => do
    let k ← key.lower
    let v ← value.lower
    pure (.property k v kind method computed shorthand)
  | .defaulted name _ =>
    pure (.property (.identifier name) (.identifier name) .init false false true)
  | .spread argument => do
    let a ← argument.lower
    pure (.spread a)

/-- The trees of the members of an object. -/
def lowerMembers : List Member → Lowered (List Tree.ObjectMember)
  | [] => pure []
  | m :: rest => do
    let m ← m.lower
    let ms ← lowerMembers rest
    pure (m :: ms)

/-- A member of an object pattern. -/
def Member.lowerTarget : Member → Lowered Tree.PatternMember
  | .property key value _ _ computed shorthand => do
    let k ← key.lower
    let v ← value.lowerTarget
    pure (.property k v computed shorthand)
  | .defaulted name value => do
    let v ← value.lower
    pure (.property (.identifier name) (.withDefault (.identifier name) v) false true)
  | .spread argument => do
    let a ← argument.lowerTarget
    pure (.rest a)

/-- The members of an object pattern. -/
def lowerTargetMembers : List Member → Lowered (List Tree.PatternMember)
  | [] => pure []
  | m :: rest => do
    let m ← m.lowerTarget
    let ms ← lowerTargetMembers rest
    pure (m :: ms)

/-- The tree of a function. -/
def Func.lower : Func → Lowered Tree.Func
  | ⟨name, params, body, generator, async⟩ => do
    let b ← lowerStmts body
    let ps ← lowerTargets params
    pure ⟨name, ps, b, generator, async⟩

/-- The tree of a class. -/
def ClassDef.lower : ClassDef → Lowered Tree.ClassDef
  | ⟨name, superclass, members⟩ => do
    let ms ← lowerClassMembers members
    let s ← lowerOption superclass
    pure ⟨name, s, ms⟩

/-- The tree of a member of a class. -/
def ClassMember.lower : ClassMember → Lowered Tree.ClassMember
  | .method key value kind computed isStatic => do
    let k ← key.lower
    let v ← value.lower
    pure (.method k v kind computed isStatic)
  | .field key value computed isStatic => do
    let k ← key.lower
    let v ← lowerOption value
    pure (.field k v computed isStatic)
  | .staticBlock body => do
    let b ← lowerStmts body
    pure (.staticBlock b)
  | .unsupported construct => throw construct

/-- The trees of the members of a class. -/
def lowerClassMembers : List ClassMember → Lowered (List Tree.ClassMember)
  | [] => pure []
  | m :: rest => do
    let m ← m.lower
    let ms ← lowerClassMembers rest
    pure (m :: ms)

/-- The tree of a statement; none if it exists for types only. -/
def Stmt.lower : Stmt → Lowered (Option Tree.Stmt)
  | .expression e => do
    let e ← e.lower
    pure (some (.expression e none))
  | .directive value raw => pure (some (.expression (.string value) (some raw)))
  | .block body => do
    let b ← lowerStmts body
    pure (some (.block b))
  | .empty => pure (some .empty)
  | .debugger => pure (some .debugger)
  | .return argument => do
    let a ← lowerOption argument
    pure (some (.return a))
  | .labeled label body => do
    let b ← body.lower
    pure (some (.labeled label (orEmpty b)))
  | .break label => pure (some (.break label))
  | .continue label => pure (some (.continue label))
  | .if test consequent => do
    let t ← test.lower
    let c ← consequent.lower
    pure (some (.if t (orEmpty c)))
  | .ifElse test consequent alternate => do
    let t ← test.lower
    let c ← consequent.lower
    let a ← alternate.lower
    pure (some (.ifElse t (orEmpty c) (orEmpty a)))
  | .switch discriminant cases => do
    let cs ← lowerCases cases
    let d ← discriminant.lower
    pure (some (.switch d cs))
  | .throw argument => do
    let a ← argument.lower
    pure (some (.throw a))
  | .try block => do
    let b ← lowerStmts block
    pure (some (.try b))
  | .tryCatch block param handler => do
    let p ← lowerTargetOption param
    let h ← lowerStmts handler
    let b ← lowerStmts block
    pure (some (.tryCatch b p h))
  | .tryFinally block finalizer => do
    let f ← lowerStmts finalizer
    let b ← lowerStmts block
    pure (some (.tryFinally b f))
  | .tryCatchFinally block param handler finalizer => do
    let p ← lowerTargetOption param
    let h ← lowerStmts handler
    let f ← lowerStmts finalizer
    let b ← lowerStmts block
    pure (some (.tryCatchFinally b p h f))
  | .while test body => do
    let t ← test.lower
    let b ← body.lower
    pure (some (.while t (orEmpty b)))
  | .doWhile test body => do
    let t ← test.lower
    let b ← body.lower
    pure (some (.doWhile t (orEmpty b)))
  | .for init test update body => do
    let i ← lowerOption init
    let t ← lowerOption test
    let u ← lowerOption update
    let b ← body.lower
    pure (some (.for i t u (orEmpty b)))
  | .forVariables kind declarations test update body => do
    let ds ← lowerDeclarators declarations
    let t ← lowerOption test
    let u ← lowerOption update
    let b ← body.lower
    pure (some (.forVariables kind ds t u (orEmpty b)))
  | .forEach loop left right body await => do
    let l ← left.lowerTarget
    let r ← right.lower
    let b ← body.lower
    pure (some (.forEach loop l r (orEmpty b) await))
  | .forEachVariable loop kind declarations right body await => do
    let ds ← lowerDeclarators declarations
    let r ← right.lower
    let b ← body.lower
    pure (some (.forEachVariable loop kind ds r (orEmpty b) await))
  | .variables kind declarations => do
    let ds ← lowerDeclarators declarations
    pure (some (.variables kind ds))
  | .function f => do
    let f ← f.lower
    pure (some (.function f))
  | .classDef c => do
    let c ← c.lower
    pure (some (.classDef c))
  | .erased => pure none
  | .unsupported construct => throw construct

/-- The trees of the statements of a body. -/
def lowerStmts : List Stmt → Lowered (List Tree.Stmt)
  | [] => pure []
  | s :: rest => do
    let s ← s.lower
    let ss ← lowerStmts rest
    pure (s.toList ++ ss)

/-- The tree of a case of a `switch`. -/
def SwitchCase.lower : SwitchCase → Lowered Tree.SwitchCase
  | ⟨test, body⟩ => do
    let t ← lowerOption test
    let b ← lowerStmts body
    pure ⟨t, b⟩

/-- The trees of the cases of a `switch`. -/
def lowerCases : List SwitchCase → Lowered (List Tree.SwitchCase)
  | [] => pure []
  | c :: rest => do
    let c ← c.lower
    let cs ← lowerCases rest
    pure (c :: cs)

/-- The tree of a variable. -/
def Declarator.lower : Declarator → Lowered Tree.Declarator
  | ⟨target, init⟩ => do
    let t ← target.lowerTarget
    let i ← lowerOption init
    pure ⟨t, i⟩

/-- The trees of the variables of a declaration. -/
def lowerDeclarators : List Declarator → Lowered (List Tree.Declarator)
  | [] => pure []
  | d :: rest => do
    let d ← d.lower
    let ds ← lowerDeclarators rest
    pure (d :: ds)
end

/-- The declaration that a statement is; none for other statements. -/
def declarationOf : Tree.Stmt → Option Tree.Declaration
  | .variables kind declarations => some (.variables kind declarations)
  | .function f => some (.function f)
  | .classDef c => some (.classDef c)
  | _ => none

/-- The tree of a module item; none if it exists for types only. -/
def Item.lower : Item → Lowered (Option Tree.Item)
  | .import i => pure (some (.import i))
  | .exportClauses clauses source =>
    pure (some (.exportNamed ⟨none, clauses, source.map Tree.Literal.string⟩))
  | .exportDeclaration declaration => do
    let s ← declaration.lower
    pure ((s.bind declarationOf).map fun d => .exportNamed ⟨some d, [], none⟩)
  | .exportFunction f => do
    let f ← f.lower
    pure (some (.exportDefault (.function f)))
  | .exportClass c => do
    let c ← c.lower
    pure (some (.exportDefault (.classDef c)))
  | .exportExpression e => do
    let e ← e.lower
    pure (some (.exportDefault (.expression e)))
  | .exportAll source exported => pure (some (.exportAll (.string source) exported))
  | .statement s => do
    let s ← s.lower
    pure (s.map .statement)

/-- The trees of module items. -/
def lowerItems : List Item → Lowered (List Tree.Item)
  | [] => pure []
  | i :: rest => do
    let i ← i.lower
    let is ← lowerItems rest
    pure (i.toList ++ is)

end CustomElement.Script
