import CustomElement.Tree.Basic

/-!
# Building trees

Short names for the trees that generated code is made of.
-/

namespace CustomElement.Tree

/-- A literal that is neither a regular expression nor a big integer. -/
def Literal.ofValue (value : LiteralValue) : Literal :=
  ⟨value, none, none⟩

/-- A string literal. -/
def Literal.string (s : String) : Literal :=
  .ofValue (.string s)

namespace Expr

/-- A string. -/
def string (s : String) : Expr :=
  .literal (.string s)

/-- An array without holes. -/
def arrayOf (elements : List Expr) : Expr :=
  .array (elements.map some)

/-- The named property of an object. -/
def dot (object : Expr) (name : String) : Expr :=
  .member object (.identifier name) false false

/-- A call. -/
def callOf (callee : Expr) (arguments : List Expr) : Expr :=
  .call callee arguments false

end Expr

/-- A property of an object literal with its own key and value. -/
def ObjectMember.pair (key value : Expr) : ObjectMember :=
  .property key value .init false false false

/-- An expression as a statement. -/
def Stmt.ofExpr (e : Expr) : Stmt :=
  .expression e none

/-- The declaration of one variable. -/
def Stmt.variable (kind : VariableKind) (name : String) (init : Option Expr) : Stmt :=
  .variables kind [⟨.identifier name, init⟩]

/-- A function without a name. -/
def Func.anonymous (params : List Pattern) (body : List Stmt) : Func :=
  ⟨none, params, body, false, false⟩

/-- A method of a class. -/
def ClassMember.named (name : String) (params : List String) (body : List Stmt) : ClassMember :=
  .method (.identifier name) (.anonymous (params.map .identifier) body) .method false false

end CustomElement.Tree
