import CustomElement.Tree.Basic

/-!
# The form of scripts

A script as it is written, with types left out. It is richer than a tree in three ways. Parentheses
and type assertions are kept as wrappers, since they decide what a name may be assigned to.
Patterns are written like the expressions that they look like: an object, an array, an assignment for
a default, a spread for the rest. Constructs without a tree stand for themselves with their text.
-/

namespace CustomElement.Script

open CustomElement.Tree (Literal TemplateElement VariableKind PropertyKind MethodKind LoopKind UnaryOp
  UpdateOp BinaryOp LogicalOp AssignOp)

/-- What may surround an expression without leaving a trace in its tree. -/
inductive Wrapper where
  | parens
  | asType
  | satisfies
  | assertion
  | nonNull
  | instantiation
deriving DecidableEq, Repr

/-- A construct that components do not support, and its text. -/
structure Unsupported where
  feature : String
  text : String
deriving DecidableEq, Repr

mutual
/-- An expression, or a pattern in the place of one. -/
inductive Expr where
  | identifier (name : String)
  | privateName (name : String)
  | literal (value : Literal)
  | thisRef
  | superRef
  /-- An array; the flag tells whether a comma follows the last element. -/
  | array (elements : List (Option Expr)) (trailingComma : Bool)
  /-- An object; the flag tells whether a comma follows the last member. -/
  | object (members : List Member) (trailingComma : Bool)
  | function (f : Func)
  | arrow (params : List Expr) (body : Expr) (async : Bool)
  | arrowBlock (params : List Expr) (body : List Stmt) (async : Bool)
  | classDef (c : ClassDef)
  | template (quasis : List TemplateElement) (expressions : List Expr)
  | tagged (tag : Expr) (quasis : List TemplateElement) (expressions : List Expr)
  | unary (op : UnaryOp) (argument : Expr)
  | update (op : UpdateOp) (before : Bool) (argument : Expr)
  | binary (op : BinaryOp) (left right : Expr)
  | logical (op : LogicalOp) (left right : Expr)
  | assign (op : AssignOp) (left right : Expr)
  | conditional (test consequent alternate : Expr)
  | member (object property : Expr) (computed optional : Bool)
  | call (callee : Expr) (arguments : List Expr) (optional : Bool)
  | new (callee : Expr) (arguments : List Expr)
  | sequence (expressions : List Expr)
  | spread (argument : Expr)
  | await (argument : Expr)
  | yield (argument : Option Expr) (delegate : Bool)
  /-- A chain of accesses and calls with an optional link. -/
  | chain (expression : Expr)
  | importCall (source : Expr)
  | metaProperty (object property : String)
  | wrapped (wrapper : Wrapper) (expression : Expr)
  | unsupported (construct : Unsupported)

/-- A member of an object or of an object pattern. -/
inductive Member where
  | property (key value : Expr) (kind : PropertyKind) (method computed shorthand : Bool)
  /-- A name with a default, which only a pattern may have. -/
  | defaulted (name : String) (value : Expr)
  | spread (argument : Expr)

/-- A function; its parameters are patterns. -/
structure Func where
  name : Option String
  params : List Expr
  body : List Stmt
  generator : Bool
  async : Bool

/-- A class, without members that exist for types only. -/
structure ClassDef where
  name : Option String
  superclass : Option Expr
  members : List ClassMember

/-- A member of a class body. -/
inductive ClassMember where
  | method (key : Expr) (value : Func) (kind : MethodKind) (computed static : Bool)
  | field (key : Expr) (value : Option Expr) (computed static : Bool)
  | staticBlock (body : List Stmt)
  | unsupported (construct : Unsupported)

/-- A statement or declaration. -/
inductive Stmt where
  | expression (e : Expr)
  /-- A string at the start of a body: its value, and the text between its quotes. -/
  | directive (value raw : String)
  | block (body : List Stmt)
  | empty
  | debugger
  | return (argument : Option Expr)
  | labeled (label : String) (body : Stmt)
  | break (label : Option String)
  | continue (label : Option String)
  | if (test : Expr) (consequent : Stmt)
  | ifElse (test : Expr) (consequent alternate : Stmt)
  | switch (discriminant : Expr) (cases : List SwitchCase)
  | throw (argument : Expr)
  | try (block : List Stmt)
  | tryCatch (block : List Stmt) (param : Option Expr) (handler : List Stmt)
  | tryFinally (block finalizer : List Stmt)
  | tryCatchFinally (block : List Stmt) (param : Option Expr) (handler finalizer : List Stmt)
  | while (test : Expr) (body : Stmt)
  | doWhile (test : Expr) (body : Stmt)
  | for (init test update : Option Expr) (body : Stmt)
  | forVariables (kind : VariableKind) (declarations : List Declarator) (test update : Option Expr)
      (body : Stmt)
  | forEach (loop : LoopKind) (left right : Expr) (body : Stmt) (await : Bool)
  | forEachVariable (loop : LoopKind) (kind : VariableKind) (declarations : List Declarator)
      (right : Expr) (body : Stmt) (await : Bool)
  | variables (kind : VariableKind) (declarations : List Declarator)
  | function (f : Func)
  | classDef (c : ClassDef)
  /-- A declaration that exists for types only. -/
  | erased
  | unsupported (construct : Unsupported)

/-- A case of a `switch`. -/
structure SwitchCase where
  test : Option Expr
  body : List Stmt

/-- A variable of a declaration. -/
structure Declarator where
  target : Expr
  init : Option Expr
end

/-- A module item. -/
inductive Item where
  | import (i : Tree.Import)
  | exportClauses (clauses : List Tree.ExportClause) (source : Option String)
  /-- The export of a declaration. -/
  | exportDeclaration (declaration : Stmt)
  | exportFunction (f : Func)
  | exportClass (c : ClassDef)
  | exportExpression (e : Expr)
  | exportAll (source : String) (exported : Option Tree.ExportName)
  | statement (s : Stmt)

end CustomElement.Script
