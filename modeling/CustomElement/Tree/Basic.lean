import CustomElement.Number.Double
import CustomElement.Tree.Operator

/-!
# Program trees

The shape of a component's program: expressions, patterns, statements, functions and classes, which
refer to each other, then the clauses of a module and the markup of a component. Trees hold neither
positions nor parentheses.
-/

namespace CustomElement.Tree

/-- The keyword of a variable declaration. -/
inductive VariableKind where
  | var
  | let
  | const
deriving DecidableEq, Repr

/-- What an object property is: a value, or one half of an accessor. -/
inductive PropertyKind where
  | init
  | get
  | set
deriving DecidableEq, Repr

/-- What a class method is. -/
inductive MethodKind where
  | constructor
  | method
  | get
  | set
deriving DecidableEq, Repr

/-- The value of a literal. -/
inductive LiteralValue where
  | null
  | boolean (value : Bool)
  | number (value : Double)
  | string (value : String)
deriving DecidableEq, Repr

/-- The parts of a regular expression literal. -/
structure Regex where
  pattern : String
  flags : String
deriving DecidableEq, Repr

/-- A literal. Regular expressions and big integers also hold a plain value. -/
structure Literal where
  value : LiteralValue
  regex : Option Regex := none
  bigint : Option String := none
deriving DecidableEq, Repr

/-- A stretch of text in a template literal; `cooked` is its value, unless an escape is invalid. -/
structure TemplateElement where
  tail : Bool
  raw : String
  cooked : Option String
deriving DecidableEq, Repr

/-- Whether a loop walks the keys or the values of an object. -/
inductive LoopKind where
  | keys
  | values
deriving DecidableEq, Repr

mutual
/-- An expression. -/
inductive Expr where
  | identifier (name : String)
  | privateName (name : String)
  | literal (value : Literal)
  | thisRef
  | superRef
  | array (elements : List (Option Expr))
  | object (members : List ObjectMember)
  | function (f : Func)
  /-- An arrow function; `concise` records that its source had a bare expression as body. -/
  | arrow (params : List Pattern) (body : Expr) (concise async : Bool)
  | arrowBlock (params : List Pattern) (body : List Stmt) (concise async : Bool)
  | classDef (c : ClassDef)
  | template (quasis : List TemplateElement) (expressions : List Expr)
  | tagged (tag : Expr) (quasis : List TemplateElement) (expressions : List Expr)
  | unary (op : UnaryOp) (before : Bool) (argument : Expr)
  | update (op : UpdateOp) (before : Bool) (argument : Expr)
  | binary (op : BinaryOp) (left right : Expr)
  | logical (op : LogicalOp) (left right : Expr)
  | assign (op : AssignOp) (left : Pattern) (right : Expr)
  | conditional (test consequent alternate : Expr)
  | member (object property : Expr) (computed optional : Bool)
  | call (callee : Expr) (arguments : List Expr) (optional : Bool)
  | new (callee : Expr) (arguments : List Expr)
  | sequence (expressions : List Expr)
  | spread (argument : Expr)
  | await (argument : Expr)
  | yield (argument : Option Expr) (delegate : Bool)
  | chain (expression : Expr)
  | importCall (source : Expr)
  | metaProperty (object property : String)

/-- What a value is bound to or stored in. -/
inductive Pattern where
  | identifier (name : String)
  | object (members : List PatternMember)
  | array (elements : List (Option Pattern))
  | rest (argument : Pattern)
  | withDefault (left : Pattern) (right : Expr)
  | member (object property : Expr) (computed optional : Bool)

/-- A function with its own name, parameters and body. -/
structure Func where
  name : Option String
  params : List Pattern
  body : List Stmt
  generator : Bool
  async : Bool

/-- A class. -/
structure ClassDef where
  name : Option String
  superclass : Option Expr
  members : List ClassMember

/-- A member of a class body. -/
inductive ClassMember where
  | method (key : Expr) (value : Func) (kind : MethodKind) (computed static : Bool)
  | field (key : Expr) (value : Option Expr) (computed static : Bool)
  | staticBlock (body : List Stmt)

/-- A member of an object literal. -/
inductive ObjectMember where
  | property (key value : Expr) (kind : PropertyKind) (method computed shorthand : Bool)
  | spread (argument : Expr)

/-- A member of an object pattern. -/
inductive PatternMember where
  | property (key : Expr) (value : Pattern) (computed shorthand : Bool)
  | rest (argument : Pattern)

/-- A statement. -/
inductive Stmt where
  | expression (expression : Expr) (directive : Option String)
  | block (body : List Stmt)
  | empty
  | debugger
  | return (argument : Option Expr)
  | labeled (label : String) (body : Stmt)
  | break (label : Option String)
  | continue (label : Option String)
  | if (test : Expr) (consequent : Stmt)
  | ifElse (test : Expr) (consequent alternate : Stmt)
  | switch (discriminant : Expr) (cases : List SwitchCase)
  | throw (argument : Expr)
  | try (block : List Stmt)
  | tryCatch (block : List Stmt) (param : Option Pattern) (handler : List Stmt)
  | tryFinally (block finalizer : List Stmt)
  | tryCatchFinally (block : List Stmt) (param : Option Pattern) (handler finalizer : List Stmt)
  | while (test : Expr) (body : Stmt)
  | doWhile (test : Expr) (body : Stmt)
  | for (init test update : Option Expr) (body : Stmt)
  | forVariables (kind : VariableKind) (declarations : List Declarator)
      (test update : Option Expr) (body : Stmt)
  | forEach (loop : LoopKind) (left : Pattern) (right : Expr) (body : Stmt) (await : Bool)
  | forEachVariable (loop : LoopKind) (kind : VariableKind) (declarations : List Declarator)
      (right : Expr) (body : Stmt) (await : Bool)
  | variables (kind : VariableKind) (declarations : List Declarator)
  | function (f : Func)
  | classDef (c : ClassDef)

/-- One case of a `switch`; the default case has no test. -/
structure SwitchCase where
  test : Option Expr
  consequent : List Stmt

/-- One variable of a declaration. -/
structure Declarator where
  target : Pattern
  init : Option Expr
end

/-- A name on either side of an `as` in an import or export clause. -/
inductive ExportName where
  | identifier (name : String)
  | literal (value : Literal)
deriving DecidableEq, Repr

/-- An imported name. -/
inductive ImportClause where
  | named (imported : ExportName) (binding : String)
  | default (binding : String)
  | namespace (binding : String)
deriving DecidableEq, Repr

/-- An import declaration. -/
structure Import where
  clauses : List ImportClause
  source : Literal
deriving DecidableEq, Repr

/-- An exported name; only the first form can be written in a list of exports. -/
inductive ExportClause where
  | named (binding exported : ExportName)
  | namespace (exported : ExportName)
  | default (exported : ExportName)
deriving DecidableEq, Repr

/-- A declaration that can be exported. -/
inductive Declaration where
  | variables (kind : VariableKind) (declarations : List Declarator)
  | function (f : Func)
  | classDef (c : ClassDef)

/-- A named export: of a declaration, or of a list of names. -/
structure NamedExport where
  declaration : Option Declaration
  clauses : List ExportClause := []
  source : Option Literal := none

/-- What a default export exports. -/
inductive DefaultExport where
  | function (f : Func)
  | classDef (c : ClassDef)
  | expression (e : Expr)

/-- A piece of an attribute's value. -/
inductive AttributePiece where
  | literal (value : Literal)
  | binding (expression : Expr)

/-- An attribute of an element. -/
structure Attribute where
  name : String
  value : List AttributePiece

mutual
/-- An element of the markup. -/
structure Element where
  tag : String
  attributes : List Attribute
  children : List Child

/-- A child of an element. -/
inductive Child where
  | literal (value : Literal)
  | binding (expression : Expr)
  | element (e : Element)
end

/-- One entry of a program's body. -/
inductive Item where
  | import (i : Import)
  | exportNamed (e : NamedExport)
  | exportDefault (e : DefaultExport)
  | exportAll (source : Literal) (exported : Option ExportName)
  | element (e : Element)
  | statement (s : Stmt)

/-- Whether a program is a script or a module. -/
inductive SourceType where
  | script
  | module
deriving DecidableEq, Repr

/-- A program. -/
structure Program where
  sourceType : SourceType
  body : List Item

end CustomElement.Tree
