import CustomElement.Tree.Basic

/-!
# The numbers of a tree

`Program.numbers` lists the values of all number literals of a program, in source order. Lists and
optional parts have companions of their own, because the types of the trees are nested.
-/

namespace CustomElement.Tree

/-- The number that a literal holds. -/
def Literal.numbers (l : Literal) : List Double :=
  match l.value with
  | .number x => [x]
  | _ => []

mutual
/-- The numbers of an expression. -/
def Expr.numbers : Expr → List Double
  | .identifier _ | .privateName _ | .thisRef | .superRef | .metaProperty _ _ => []
  | .literal l => l.numbers
  | .array elements => numbersOfElements elements
  | .object members => numbersOfMembers members
  | .function f => f.numbers
  | .arrow params body _ _ => numbersOfPatterns params ++ body.numbers
  | .arrowBlock params body _ _ => numbersOfPatterns params ++ numbersOfStmts body
  | .classDef c => c.numbers
  | .template _ expressions => numbersOfExprs expressions
  | .tagged tag _ expressions => tag.numbers ++ numbersOfExprs expressions
  | .unary _ _ argument => argument.numbers
  | .update _ _ argument => argument.numbers
  | .binary _ left right => left.numbers ++ right.numbers
  | .logical _ left right => left.numbers ++ right.numbers
  | .assign _ left right => left.numbers ++ right.numbers
  | .conditional test consequent alternate =>
    test.numbers ++ consequent.numbers ++ alternate.numbers
  | .member object property _ _ => object.numbers ++ property.numbers
  | .call callee arguments _ => callee.numbers ++ numbersOfExprs arguments
  | .new callee arguments => callee.numbers ++ numbersOfExprs arguments
  | .sequence expressions => numbersOfExprs expressions
  | .spread argument => argument.numbers
  | .await argument => argument.numbers
  | .yield argument _ => numbersOfOption argument
  | .chain expression => expression.numbers
  | .importCall source => source.numbers

/-- The numbers of an optional expression. -/
def numbersOfOption : Option Expr → List Double
  | none => []
  | some e => e.numbers

/-- The numbers of expressions. -/
def numbersOfExprs : List Expr → List Double
  | [] => []
  | e :: rest => e.numbers ++ numbersOfExprs rest

/-- The numbers of array elements. -/
def numbersOfElements : List (Option Expr) → List Double
  | [] => []
  | e :: rest => numbersOfOption e ++ numbersOfElements rest

/-- The numbers of a pattern. -/
def Pattern.numbers : Pattern → List Double
  | .identifier _ => []
  | .object members => numbersOfPatternMembers members
  | .array elements => numbersOfPatternElements elements
  | .rest argument => argument.numbers
  | .withDefault left right => left.numbers ++ right.numbers
  | .member object property _ _ => object.numbers ++ property.numbers

/-- The numbers of patterns. -/
def numbersOfPatterns : List Pattern → List Double
  | [] => []
  | p :: rest => p.numbers ++ numbersOfPatterns rest

/-- The numbers of an optional pattern. -/
def numbersOfOptionPattern : Option Pattern → List Double
  | none => []
  | some p => p.numbers

/-- The numbers of elements of an array pattern. -/
def numbersOfPatternElements : List (Option Pattern) → List Double
  | [] => []
  | p :: rest => numbersOfOptionPattern p ++ numbersOfPatternElements rest

/-- The numbers of a function. -/
def Func.numbers : Func → List Double
  | ⟨_, params, body, _, _⟩ => numbersOfPatterns params ++ numbersOfStmts body

/-- The numbers of a class. -/
def ClassDef.numbers : ClassDef → List Double
  | ⟨_, superclass, members⟩ => numbersOfOption superclass ++ numbersOfClassMembers members

/-- The numbers of a member of a class body. -/
def ClassMember.numbers : ClassMember → List Double
  | .method key value _ _ _ => key.numbers ++ value.numbers
  | .field key value _ _ => key.numbers ++ numbersOfOption value
  | .staticBlock body => numbersOfStmts body

/-- The numbers of members of a class body. -/
def numbersOfClassMembers : List ClassMember → List Double
  | [] => []
  | m :: rest => m.numbers ++ numbersOfClassMembers rest

/-- The numbers of a member of an object literal. -/
def ObjectMember.numbers : ObjectMember → List Double
  | .property key value _ _ _ _ => key.numbers ++ value.numbers
  | .spread argument => argument.numbers

/-- The numbers of members of an object literal. -/
def numbersOfMembers : List ObjectMember → List Double
  | [] => []
  | m :: rest => m.numbers ++ numbersOfMembers rest

/-- The numbers of a member of an object pattern. -/
def PatternMember.numbers : PatternMember → List Double
  | .property key value _ _ => key.numbers ++ value.numbers
  | .rest argument => argument.numbers

/-- The numbers of members of an object pattern. -/
def numbersOfPatternMembers : List PatternMember → List Double
  | [] => []
  | m :: rest => m.numbers ++ numbersOfPatternMembers rest

/-- The numbers of a statement. -/
def Stmt.numbers : Stmt → List Double
  | .empty | .debugger | .break _ | .continue _ => []
  | .expression expression _ => expression.numbers
  | .block body => numbersOfStmts body
  | .return argument => numbersOfOption argument
  | .labeled _ body => body.numbers
  | .if test consequent => test.numbers ++ consequent.numbers
  | .ifElse test consequent alternate => test.numbers ++ consequent.numbers ++ alternate.numbers
  | .switch discriminant cases => discriminant.numbers ++ numbersOfCases cases
  | .throw argument => argument.numbers
  | .try block => numbersOfStmts block
  | .tryCatch block param handler =>
    numbersOfStmts block ++ numbersOfOptionPattern param ++ numbersOfStmts handler
  | .tryFinally block finalizer => numbersOfStmts block ++ numbersOfStmts finalizer
  | .tryCatchFinally block param handler finalizer =>
    numbersOfStmts block ++ numbersOfOptionPattern param ++ numbersOfStmts handler ++
      numbersOfStmts finalizer
  | .while test body => test.numbers ++ body.numbers
  | .doWhile test body => test.numbers ++ body.numbers
  | .for init test update body =>
    numbersOfOption init ++ numbersOfOption test ++ numbersOfOption update ++ body.numbers
  | .forVariables _ declarations test update body =>
    numbersOfDeclarators declarations ++ numbersOfOption test ++ numbersOfOption update ++
      body.numbers
  | .forEach _ left right body _ => left.numbers ++ right.numbers ++ body.numbers
  | .forEachVariable _ _ declarations right body _ =>
    numbersOfDeclarators declarations ++ right.numbers ++ body.numbers
  | .variables _ declarations => numbersOfDeclarators declarations
  | .function f => f.numbers
  | .classDef c => c.numbers

/-- The numbers of statements. -/
def numbersOfStmts : List Stmt → List Double
  | [] => []
  | s :: rest => s.numbers ++ numbersOfStmts rest

/-- The numbers of a case of a `switch`. -/
def SwitchCase.numbers : SwitchCase → List Double
  | ⟨test, consequent⟩ => numbersOfOption test ++ numbersOfStmts consequent

/-- The numbers of cases of a `switch`. -/
def numbersOfCases : List SwitchCase → List Double
  | [] => []
  | c :: rest => c.numbers ++ numbersOfCases rest

/-- The numbers of a variable of a declaration. -/
def Declarator.numbers : Declarator → List Double
  | ⟨target, init⟩ => target.numbers ++ numbersOfOption init

/-- The numbers of variables of a declaration. -/
def numbersOfDeclarators : List Declarator → List Double
  | [] => []
  | d :: rest => d.numbers ++ numbersOfDeclarators rest
end

/-- The numbers of a name in an import or export clause. -/
def ExportName.numbers : ExportName → List Double
  | .identifier _ => []
  | .literal value => value.numbers

/-- The numbers of an imported name. -/
def ImportClause.numbers : ImportClause → List Double
  | .named imported _ => imported.numbers
  | .default _ | .namespace _ => []

/-- The numbers of an import. -/
def Import.numbers (i : Import) : List Double :=
  i.clauses.flatMap ImportClause.numbers ++ i.source.numbers

/-- The numbers of an exported name. -/
def ExportClause.numbers : ExportClause → List Double
  | .named binding exported => binding.numbers ++ exported.numbers
  | .namespace exported | .default exported => exported.numbers

/-- The numbers of an exported declaration. -/
def Declaration.numbers : Declaration → List Double
  | .variables _ declarations => numbersOfDeclarators declarations
  | .function f => f.numbers
  | .classDef c => c.numbers

/-- The numbers of a named export. -/
def NamedExport.numbers (e : NamedExport) : List Double :=
  e.declaration.toList.flatMap Declaration.numbers ++ e.clauses.flatMap ExportClause.numbers ++
    e.source.toList.flatMap Literal.numbers

/-- The numbers of a default export. -/
def DefaultExport.numbers : DefaultExport → List Double
  | .function f => f.numbers
  | .classDef c => c.numbers
  | .expression e => e.numbers

/-- The numbers of a piece of an attribute's value. -/
def AttributePiece.numbers : AttributePiece → List Double
  | .literal value => value.numbers
  | .binding expression => expression.numbers

/-- The numbers of an attribute. -/
def Attribute.numbers (a : Attribute) : List Double :=
  a.value.flatMap AttributePiece.numbers

mutual
/-- The numbers of an element. -/
def Element.numbers : Element → List Double
  | ⟨_, attributes, children⟩ =>
    attributes.flatMap Attribute.numbers ++ numbersOfChildren children

/-- The numbers of a child of an element. -/
def Child.numbers : Child → List Double
  | .literal value => value.numbers
  | .binding expression => expression.numbers
  | .element e => e.numbers

/-- The numbers of children of an element. -/
def numbersOfChildren : List Child → List Double
  | [] => []
  | c :: rest => c.numbers ++ numbersOfChildren rest
end

/-- The numbers of an entry of a program's body. -/
def Item.numbers : Item → List Double
  | .import i => i.numbers
  | .exportNamed e => e.numbers
  | .exportDefault e => e.numbers
  | .exportAll source exported =>
    source.numbers ++ exported.toList.flatMap ExportName.numbers
  | .element e => e.numbers
  | .statement s => s.numbers

/-- The numbers of a program. -/
def Program.numbers (p : Program) : List Double :=
  p.body.flatMap Item.numbers

end CustomElement.Tree
