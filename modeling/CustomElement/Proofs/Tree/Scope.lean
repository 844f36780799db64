import CustomElement.Tree.Basic

/-!
# What names mean inside of a function

A function binds the names of its parameters and the names that its body declares, and every
function but an arrow function binds `arguments`. A name means what the innermost function around it
binds it to. `Func.resolve` finds that binder, from a reference below any number of arrow functions
in the body of a function.
-/

namespace CustomElement.Tree

/-! ## Declared names -/

mutual
/-- The names that a pattern binds. -/
def Pattern.names : Pattern → List String
  | .identifier name => [name]
  | .object members => namesOfMembers members
  | .array elements => namesOfElements elements
  | .rest argument => argument.names
  | .withDefault left _ => left.names
  | .member .. => []

/-- The names that an element of an array pattern binds. -/
def namesOfElement : Option Pattern → List String
  | none => []
  | some p => p.names

/-- The names that the elements of an array pattern bind. -/
def namesOfElements : List (Option Pattern) → List String
  | [] => []
  | p :: rest => namesOfElement p ++ namesOfElements rest

/-- The names that a member of an object pattern binds. -/
def PatternMember.names : PatternMember → List String
  | .property _ value _ _ => value.names
  | .rest argument => argument.names

/-- The names that the members of an object pattern bind. -/
def namesOfMembers : List PatternMember → List String
  | [] => []
  | m :: rest => m.names ++ namesOfMembers rest
end

/-- The names that a declaration of variables binds. -/
def namesOfDeclarators (declarations : List Declarator) : List String :=
  declarations.flatMap (·.target.names)

/-- The names of variables that belong to the function, wherever in it they are declared. -/
def hoistedNames (kind : VariableKind) (declarations : List Declarator) : List String :=
  if kind = .var then namesOfDeclarators declarations else []

mutual
/-- The names that statements in a statement declare for the whole function. -/
def Stmt.hoisted : Stmt → List String
  | .variables kind declarations => hoistedNames kind declarations
  | .block body => hoistedInAll body
  | .labeled _ body => body.hoisted
  | .if _ consequent => consequent.hoisted
  | .ifElse _ consequent alternate => consequent.hoisted ++ alternate.hoisted
  | .switch _ cases => hoistedInCases cases
  | .try block => hoistedInAll block
  | .tryCatch block _ handler => hoistedInAll block ++ hoistedInAll handler
  | .tryFinally block finalizer => hoistedInAll block ++ hoistedInAll finalizer
  | .tryCatchFinally block _ handler finalizer =>
    hoistedInAll block ++ hoistedInAll handler ++ hoistedInAll finalizer
  | .while _ body | .doWhile _ body | .for _ _ _ body | .forEach _ _ _ body _ => body.hoisted
  | .forVariables kind declarations _ _ body => hoistedNames kind declarations ++ body.hoisted
  | .forEachVariable _ kind declarations _ body _ =>
    hoistedNames kind declarations ++ body.hoisted
  | .expression .. | .empty | .debugger | .return _ | .break _ | .continue _ | .throw _
  | .function _ | .classDef _ => []

/-- The names that statements in statements declare for the whole function. -/
def hoistedInAll : List Stmt → List String
  | [] => []
  | s :: rest => s.hoisted ++ hoistedInAll rest

/-- The names that statements in the cases of a `switch` declare for the whole function. -/
def hoistedInCases : List SwitchCase → List String
  | [] => []
  | ⟨_, consequent⟩ :: rest => hoistedInAll consequent ++ hoistedInCases rest
end

/-- The names that a statement of a function's body declares for the body. -/
def Stmt.declared : Stmt → List String
  | .variables _ declarations => namesOfDeclarators declarations
  | .function f => f.name.toList
  | .classDef c => c.name.toList
  | s => s.hoisted

/-! ## Scopes -/

/-- What binds a name in a function. -/
inductive Binder where
  /-- A parameter, by its position. -/
  | parameter (index : Nat)
  /-- A statement of the body, by its position. -/
  | declaration (index : Nat)
  | arguments
deriving DecidableEq, Repr

/-- The names that a function binds, with their binders. -/
abbrev Scope := List (String × Binder)

/-- What binds a name in a scope. -/
def Scope.binder? (scope : Scope) (name : String) : Option Binder :=
  (scope.find? (·.1 == name)).map (·.2)

/-- The scope of lists of names, bound by what stands at their positions. -/
def scopeFrom (bind : Nat → Binder) : Nat → List (List String) → Scope
  | _, [] => []
  | i, names :: rest => names.map (·, bind i) ++ scopeFrom bind (i + 1) rest

/-- The names that the parameters of a function bind. -/
def parameterScope (params : List Pattern) : Scope :=
  scopeFrom .parameter 0 (params.map (·.names))

/-- The names that the body of a function declares. -/
def bodyScope (body : List Stmt) : Scope :=
  scopeFrom .declaration 0 (body.map (·.declared))

/-- The names that an arrow function binds. -/
def arrowScope : Expr → Scope
  | .arrow params _ _ _ => parameterScope params
  | .arrowBlock params body _ _ => bodyScope body ++ parameterScope params
  | _ => []

/-- The names that a function binds. -/
def Func.scope (f : Func) : Scope :=
  bodyScope f.body ++ parameterScope f.params ++ [("arguments", .arguments)]

/-- What a name means in nested scopes, the innermost first: how many scopes further out it is
bound, and by what. -/
def resolve : List Scope → String → Option (Nat × Binder)
  | [], _ => none
  | scope :: outer, name =>
    match scope.binder? name with
    | some b => some (0, b)
    | none => (resolve outer name).map fun r => (r.1 + 1, r.2)

/-- What a name means in the body of a function, below arrow functions, the innermost first. None
if it is not bound inside of the function. -/
def Func.resolve (f : Func) (arrows : List Expr) (name : String) : Option (Nat × Binder) :=
  Tree.resolve (arrows.map arrowScope ++ [f.scope]) name

/-! ## Laws -/

theorem Scope.binder?_cons (bound : String) (b : Binder) (s : Scope) (name : String) :
    Scope.binder? ((bound, b) :: s) name =
      if bound == name then some b else s.binder? name := by
  rw [binder?, List.find?_cons]
  cases bound == name <;> rfl

theorem Scope.binder?_append (s t : Scope) (name : String) :
    Scope.binder? (s ++ t) name = (s.binder? name).or (t.binder? name) := by
  rw [binder?, binder?, binder?, List.find?_append, Option.map_or]

theorem resolve_of_binder? {scope : Scope} {name : String} {b : Binder}
    (h : scope.binder? name = some b) (outer : List Scope) :
    resolve (scope :: outer) name = some (0, b) := by
  rw [resolve, h]

theorem resolve_of_binder?_eq_none {scope : Scope} {name : String}
    (h : scope.binder? name = none) (outer : List Scope) :
    resolve (scope :: outer) name = (resolve outer name).map fun r => (r.1 + 1, r.2) := by
  rw [resolve, h]

end CustomElement.Tree
