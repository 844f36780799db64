import CustomElement.Emit.Program

/-!
# Trees with a written form

A tree has a written form unless one of its printed parts has none. `Program.printable` decides this
from the tree alone: it looks for markup among the items, for export clauses that are no pairs of
names, for accesses by something else than a name, and for methods that are no functions. Only parts
that are printed count; the clauses beside an exported declaration do not, nor do the expressions of a
template behind its last piece of text, nor the key of a property that is written without it.

A lexicon restricts the names and literals that may be written; with `Lexicon.all`, which has no
restrictions, `program_isOk` says that exactly the printable programs are printed, whatever the layout
options.
-/

namespace CustomElement.Tree

open CustomElement.Emit (isShorthand isShorthandPattern)

/-- What may be written: names, if there is one, literals, the pieces of a template with so many
expressions, and sequences of so many expressions. -/
structure Lexicon where
  name : Option String → Bool
  literal : Literal → Bool
  template : List TemplateElement → Nat → Bool
  sequence : Nat → Bool

/-- The lexicon without restrictions. -/
def Lexicon.all : Lexicon :=
  ⟨fun _ => true, fun _ => true, fun _ _ => true, fun _ => true⟩

@[simp] theorem Lexicon.name_all (name : Option String) : Lexicon.all.name name = true :=
  rfl

@[simp] theorem Lexicon.literal_all (l : Literal) : Lexicon.all.literal l = true :=
  rfl

@[simp] theorem Lexicon.template_all (quasis : List TemplateElement) (count : Nat) :
    Lexicon.all.template quasis count = true :=
  rfl

@[simp] theorem Lexicon.sequence_all (count : Nat) : Lexicon.all.sequence count = true :=
  rfl

/-- Whether an expression can be written after the dot of a member access. -/
def Expr.isDotName : Expr → Bool
  | .identifier _ | .privateName _ => true
  | _ => false

/-- Whether an expression is a function. -/
def Expr.isFunction : Expr → Bool
  | .function _ => true
  | _ => false

mutual
/-- Whether an expression has a written form. -/
def Expr.printable (k : Lexicon) : Expr → Bool
  | .identifier name | .privateName name => k.name (some name)
  | .literal l => k.literal l
  | .thisRef | .superRef => true
  | .metaProperty object property => k.name (some object) && k.name (some property)
  | .array elements => printableElements k elements
  | .object members => printableMembers k members
  | .function f => f.printable k
  | .arrow params body _ _ => printablePatterns k params && body.printable k
  | .arrowBlock params body _ _ => printablePatterns k params && printableStmts k body
  | .classDef c => c.printable k
  | .template quasis expressions =>
    k.template quasis expressions.length && printableTemplate k quasis expressions
  | .tagged tag quasis expressions =>
    tag.printable k &&
      (k.template quasis expressions.length && printableTemplate k quasis expressions)
  | .unary _ _ argument => argument.printable k
  | .update _ _ argument => argument.printable k
  | .binary _ left right => left.printable k && right.printable k
  | .logical _ left right => left.printable k && right.printable k
  | .assign _ left right => left.printable k && right.printable k
  | .conditional test consequent alternate =>
    test.printable k && (consequent.printable k && alternate.printable k)
  | .member object property computed _ =>
    object.printable k && if computed then property.printable k
      else property.isDotName && property.printable k
  | .call callee arguments _ => callee.printable k && printableExprs k arguments
  | .new callee arguments => callee.printable k && printableExprs k arguments
  | .sequence expressions => k.sequence expressions.length && printableExprs k expressions
  | .spread argument => argument.printable k
  | .await argument => argument.printable k
  | .yield argument _ => printableOption k argument
  | .chain expression => expression.printable k
  | .importCall source => source.printable k

/-- Whether an expression that may be absent has a written form. -/
def printableOption (k : Lexicon) : Option Expr → Bool
  | none => true
  | some e => e.printable k

/-- Whether all expressions of a list have a written form. -/
def printableExprs (k : Lexicon) : List Expr → Bool
  | [] => true
  | e :: rest => e.printable k && printableExprs k rest

/-- Whether all elements of an array have a written form. -/
def printableElements (k : Lexicon) : List (Option Expr) → Bool
  | [] => true
  | e :: rest => printableOption k e && printableElements k rest

/-- Whether the expressions of a template that are printed have a written form. -/
def printableTemplate (k : Lexicon) : List TemplateElement → List Expr → Bool
  | _, [] => true
  | [], _ :: _ => true
  | _ :: quasis, e :: expressions => e.printable k && printableTemplate k quasis expressions

/-- Whether all members of an object have a written form. -/
def printableMembers (k : Lexicon) : List ObjectMember → Bool
  | [] => true
  | m :: rest => m.printable k && printableMembers k rest

/-- Whether a member of an object has a written form. A method or accessor has to be a function. -/
def ObjectMember.printable (k : Lexicon) : ObjectMember → Bool
  | .spread argument => argument.printable k
  | .property key value kind method computed shorthand =>
    if kind != .init || method then key.printable k && value.printableMethod k
    else if isShorthand key value computed shorthand then key.printable k
    else key.printable k && value.printable k

/-- Whether an expression has a written form as the value of a method. -/
def Expr.printableMethod (k : Lexicon) : Expr → Bool
  | .function f => f.printable k
  | _ => false

/-- Whether a function has a written form. -/
def Func.printable (k : Lexicon) : Func → Bool
  | ⟨name, params, body, _, _⟩ => k.name name && (printablePatterns k params && printableStmts k body)

/-- Whether a class has a written form. -/
def ClassDef.printable (k : Lexicon) : ClassDef → Bool
  | ⟨name, superclass, members⟩ =>
    k.name name && (printableOption k superclass && printableClassMembers k members)

/-- Whether all members of a class have a written form. -/
def printableClassMembers (k : Lexicon) : List ClassMember → Bool
  | [] => true
  | m :: rest => m.printable k && printableClassMembers k rest

/-- Whether a member of a class has a written form. -/
def ClassMember.printable (k : Lexicon) : ClassMember → Bool
  | .method key value _ _ _ => key.printable k && value.printable k
  | .field key value _ _ => key.printable k && printableOption k value
  | .staticBlock body => printableStmts k body

/-- Whether a pattern has a written form. -/
def Pattern.printable (k : Lexicon) : Pattern → Bool
  | .identifier name => k.name (some name)
  | .object members => printablePatternMembers k members
  | .array elements => printablePatternElements k elements
  | .rest argument => argument.printable k
  | .withDefault left right => left.printable k && right.printable k
  | .member object property computed _ =>
    object.printable k && if computed then property.printable k
      else property.isDotName && property.printable k

/-- Whether a pattern that may be absent has a written form. -/
def printablePatternOption (k : Lexicon) : Option Pattern → Bool
  | none => true
  | some p => p.printable k

/-- Whether all patterns of a list have a written form. -/
def printablePatterns (k : Lexicon) : List Pattern → Bool
  | [] => true
  | p :: rest => p.printable k && printablePatterns k rest

/-- Whether all elements of an array pattern have a written form. -/
def printablePatternElements (k : Lexicon) : List (Option Pattern) → Bool
  | [] => true
  | p :: rest => printablePatternOption k p && printablePatternElements k rest

/-- Whether all members of an object pattern have a written form. -/
def printablePatternMembers (k : Lexicon) : List PatternMember → Bool
  | [] => true
  | m :: rest => m.printable k && printablePatternMembers k rest

/-- Whether a member of an object pattern has a written form. -/
def PatternMember.printable (k : Lexicon) : PatternMember → Bool
  | .property key value _ shorthand =>
    if isShorthandPattern key value shorthand then value.printable k
    else key.printable k && value.printable k
  | .rest argument => argument.printable k

/-- Whether a statement has a written form. -/
def Stmt.printable (k : Lexicon) : Stmt → Bool
  | .empty | .debugger => true
  | .break label | .continue label => k.name label
  | .expression e _ => e.printable k
  | .block body => printableStmts k body
  | .return argument => printableOption k argument
  | .throw argument => argument.printable k
  | .labeled label body => k.name (some label) && body.printable k
  | .if test consequent => test.printable k && consequent.printable k
  | .ifElse test consequent alternate =>
    test.printable k && (consequent.printable k && alternate.printable k)
  | .switch discriminant cases => discriminant.printable k && printableCases k cases
  | .try block => printableStmts k block
  | .tryCatch block param handler =>
    printableStmts k block && (printablePatternOption k param && printableStmts k handler)
  | .tryFinally block finalizer => printableStmts k block && printableStmts k finalizer
  | .tryCatchFinally block param handler finalizer =>
    printableStmts k block &&
      (printablePatternOption k param && (printableStmts k handler && printableStmts k finalizer))
  | .while test body => test.printable k && body.printable k
  | .doWhile test body => body.printable k && test.printable k
  | .for init test update body =>
    printableOption k init && (printableOption k test && (printableOption k update && body.printable k))
  | .forVariables _ declarations test update body =>
    printableDeclarators k declarations &&
      (printableOption k test && (printableOption k update && body.printable k))
  | .forEach _ left right body _ => left.printable k && (right.printable k && body.printable k)
  | .forEachVariable _ _ declarations right body _ =>
    printableDeclarators k declarations && (right.printable k && body.printable k)
  | .variables _ declarations => printableDeclarators k declarations
  | .function f => f.printable k
  | .classDef c => c.printable k

/-- Whether all statements of a list have a written form. -/
def printableStmts (k : Lexicon) : List Stmt → Bool
  | [] => true
  | s :: rest => s.printable k && printableStmts k rest

/-- Whether all cases of a `switch` have a written form. -/
def printableCases (k : Lexicon) : List SwitchCase → Bool
  | [] => true
  | c :: rest => c.printable k && printableCases k rest

/-- Whether a case of a `switch` has a written form. -/
def SwitchCase.printable (k : Lexicon) : SwitchCase → Bool
  | ⟨test, consequent⟩ => printableOption k test && printableStmts k consequent

/-- Whether all variables of a declaration have a written form. -/
def printableDeclarators (k : Lexicon) : List Declarator → Bool
  | [] => true
  | d :: rest => d.printable k && printableDeclarators k rest

/-- Whether a variable of a declaration has a written form. -/
def Declarator.printable (k : Lexicon) : Declarator → Bool
  | ⟨target, init⟩ => target.printable k && printableOption k init
end

/-- Whether a name in an import or export can be written. -/
def ExportName.printable (k : Lexicon) : ExportName → Bool
  | .identifier name => k.name (some name)
  | .literal l => k.literal l

/-- Whether a clause of an import can be written. -/
def ImportClause.printable (k : Lexicon) : ImportClause → Bool
  | .named imported binding => imported.printable k && k.name (some binding)
  | .default binding | .namespace binding => k.name (some binding)

/-- Whether an import can be written. -/
def Import.printable (k : Lexicon) (i : Import) : Bool :=
  i.clauses.all (·.printable k) && k.literal i.source

/-- Whether an export clause can be written in a list of exports. -/
def ExportClause.printable (k : Lexicon) : ExportClause → Bool
  | .named binding exported => binding.printable k && exported.printable k
  | _ => false

/-- Whether a declaration has a written form. -/
def Declaration.printable (k : Lexicon) : Declaration → Bool
  | .function f => f.printable k
  | .classDef c => c.printable k
  | .variables _ declarations => printableDeclarators k declarations

/-- Whether a named export has a written form. A declaration hides the clauses beside it. -/
def NamedExport.printable (k : Lexicon) (e : NamedExport) : Bool :=
  match e.declaration with
  | some d => d.printable k
  | none => e.clauses.all (·.printable k) && e.source.all k.literal

/-- Whether a default export has a written form. -/
def DefaultExport.printable (k : Lexicon) : DefaultExport → Bool
  | .function f => f.printable k
  | .classDef c => c.printable k
  | .expression e => e.printable k

/-- Whether an item has a written form. -/
def Item.printable (k : Lexicon) : Item → Bool
  | .import i => i.printable k
  | .exportAll source exported => k.literal source && exported.all (·.printable k)
  | .exportNamed e => e.printable k
  | .exportDefault e => e.printable k
  | .element _ => false
  | .statement s => s.printable k

/-- Whether a program has a written form. -/
def Program.printable (k : Lexicon) (p : Program) : Bool :=
  p.body.all (·.printable k)

end CustomElement.Tree

namespace CustomElement.Emit

open CustomElement.Tree

/-! ## When printing succeeds -/

/-- The last part of a node. -/
theorem isOk_last {α β : Type} {x : Printed α} {k : α → β} {a : Bool} (hx : x.isOk = a) :
    (x >>= fun d => pure (k d)).isOk = a := by
  cases x <;> exact hx

/-- A part of a node in front of others, which are printed or not whatever it looks like. -/
theorem isOk_then {α β : Type} {x : Printed α} {k : α → Printed β} {a b : Bool} (hx : x.isOk = a)
    (hk : ∀ d, (k d).isOk = b) : (x >>= k).isOk = (a && b) := by
  cases x with
  | error e =>
    obtain rfl : false = a := hx
    rfl
  | ok d =>
    obtain rfl : true = a := hx
    exact (hk d).trans (Bool.true_and b).symm

theorem isOk_access {object : Expr} {o : Doc} {property : Expr} {p : Printed Doc}
    (hp : p.isOk = property.printable .all) (noIn computed optional : Bool) :
    (accessDoc noIn object o property p computed optional).isOk =
      if computed then property.printable .all
      else property.isDotName && property.printable .all := by
  unfold accessDoc
  cases computed
  · cases property <;> rfl
  · exact isOk_last hp

theorem isOk_methodStart (kind : PropertyKind) (value : Expr) :
    (methodStart kind value).isOk = value.isFunction := by
  cases value <;> cases kind <;> rfl

theorem isFunction_and_printableMethod (value : Expr) (b : Bool) :
    (value.isFunction && (b && value.printableMethod .all)) = (b && value.printableMethod .all) := by
  cases value with
  | function f => exact Bool.true_and _
  | _ => exact (Bool.and_false b).symm

mutual
theorem exprDoc_isOk (level : Nat) (noIn : Bool) :
    ∀ e : Expr, (exprDoc level noIn e).isOk = e.printable .all
  | .identifier _ | .privateName _ | .literal _ | .thisRef | .superRef | .metaProperty .. => rfl
  | .array elements => isOk_last (elementDocs_isOk level noIn elements)
  | .object members => isOk_last (memberDocs_isOk (level + 1) noIn members)
  | .function f => isOk_last (functionTailDoc_isOk level noIn f)
  | .arrow params body _ _ =>
    isOk_then (patternDocs_isOk level noIn params) fun _ =>
      isOk_last (exprDoc_isOk level noIn body)
  | .arrowBlock params body _ _ =>
    isOk_then (patternDocs_isOk level noIn params) fun _ =>
      isOk_last (stmtDocs_isOk (level + 1) noIn false body)
  | .classDef c => classDoc_isOk level noIn c
  | .template quasis expressions => isOk_last (templateDoc_isOk level noIn quasis expressions)
  | .tagged tag quasis expressions =>
    isOk_then (exprDoc_isOk level noIn tag) fun _ =>
      isOk_last (templateDoc_isOk level noIn quasis expressions)
  | .unary _ _ argument => isOk_last (exprDoc_isOk level noIn argument)
  | .update _ before argument => by
    refine (isOk_then (exprDoc_isOk level noIn argument) fun _ => ?_).trans (Bool.and_true _)
    cases before <;> rfl
  | .binary _ left right =>
    isOk_then (exprDoc_isOk level noIn left) fun _ => isOk_last (exprDoc_isOk level noIn right)
  | .logical _ left right =>
    isOk_then (exprDoc_isOk level noIn left) fun _ => isOk_last (exprDoc_isOk level noIn right)
  | .assign _ left right =>
    isOk_then (patternDoc_isOk level noIn left) fun _ => isOk_last (exprDoc_isOk level noIn right)
  | .conditional test consequent alternate =>
    isOk_then (exprDoc_isOk level noIn test) fun _ =>
      isOk_then (exprDoc_isOk level noIn consequent) fun _ =>
        isOk_last (exprDoc_isOk level noIn alternate)
  | .member object property computed optional =>
    isOk_then (exprDoc_isOk level noIn object) fun _ =>
      isOk_access (exprDoc_isOk level noIn property) noIn computed optional
  | .call callee arguments _ =>
    isOk_then (exprDoc_isOk level noIn callee) fun _ =>
      isOk_last (exprDocs_isOk level noIn arguments)
  | .new callee arguments =>
    isOk_then (exprDoc_isOk level noIn callee) fun _ =>
      isOk_last (exprDocs_isOk level noIn arguments)
  | .sequence expressions => isOk_last (exprDocs_isOk level noIn expressions)
  | .spread argument => isOk_last (exprDoc_isOk level noIn argument)
  | .await argument => isOk_last (exprDoc_isOk level noIn argument)
  | .yield argument _ => isOk_last (optionDoc_isOk level noIn _ argument)
  | .chain expression => exprDoc_isOk level noIn expression
  | .importCall source => isOk_last (exprDoc_isOk level noIn source)

theorem optionDoc_isOk (level : Nat) (noIn : Bool) (least : Nat) :
    ∀ e : Option Expr, (optionDoc level noIn least e).isOk = printableOption .all e
  | none => rfl
  | some e => isOk_last (exprDoc_isOk level noIn e)

theorem exprDocs_isOk (level : Nat) (noIn : Bool) :
    ∀ es : List Expr, (exprDocs level noIn es).isOk = printableExprs .all es
  | [] => rfl
  | e :: rest =>
    isOk_then (exprDoc_isOk level noIn e) fun _ => isOk_last (exprDocs_isOk level noIn rest)

theorem elementDoc_isOk (level : Nat) (noIn : Bool) :
    ∀ e : Option Expr, (elementDoc level noIn e).isOk = printableOption .all e
  | none => rfl
  | some e => isOk_last (exprDoc_isOk level noIn e)

theorem elementDocs_isOk (level : Nat) (noIn : Bool) :
    ∀ es : List (Option Expr), (elementDocs level noIn es).isOk = printableElements .all es
  | [] => rfl
  | e :: rest =>
    isOk_then (elementDoc_isOk level noIn e) fun _ => isOk_last (elementDocs_isOk level noIn rest)

theorem templateDoc_isOk (level : Nat) (noIn : Bool) :
    ∀ (quasis : List TemplateElement) (expressions : List Expr),
      (templateDoc level noIn quasis expressions).isOk = printableTemplate .all quasis expressions
  | _, [] => by rw [templateDoc, printableTemplate]; rfl
  | [], _ :: _ => rfl
  | _ :: quasis, e :: expressions =>
    isOk_then (exprDoc_isOk level noIn e) fun _ =>
      isOk_last (templateDoc_isOk level noIn quasis expressions)

theorem memberDocs_isOk (level : Nat) (noIn : Bool) :
    ∀ ms : List ObjectMember, (memberDocs level noIn ms).isOk = printableMembers .all ms
  | [] => rfl
  | [m] => (isOk_last (objectMemberDoc_isOk level noIn m)).trans (Bool.and_true _).symm
  | m :: next :: rest =>
    isOk_then (objectMemberDoc_isOk level noIn m) fun _ =>
      isOk_last (memberDocs_isOk level noIn (next :: rest))

theorem objectMemberDoc_isOk (level : Nat) (noIn : Bool) :
    ∀ m : ObjectMember, (objectMemberDoc level noIn m).isOk = m.printable .all
  | .spread argument => isOk_last (exprDoc_isOk level noIn argument)
  | .property key value kind method computed shorthand => by
    rw [objectMemberDoc, ObjectMember.printable]
    split
    · exact (isOk_then (isOk_methodStart kind value) fun _ =>
        isOk_then (exprDoc_isOk level noIn key) fun _ =>
          isOk_last (methodTailDoc_isOk level noIn value)).trans
        (isFunction_and_printableMethod value _)
    split
    · exact exprDoc_isOk level noIn key
    · exact isOk_then (exprDoc_isOk level noIn key) fun _ =>
        isOk_last (exprDoc_isOk level noIn value)

theorem methodTailDoc_isOk (level : Nat) (noIn : Bool) (value : Expr) :
    (methodTailDoc level noIn value).isOk = value.printableMethod .all := by
  cases value with
  | function f => exact functionTailDoc_isOk level noIn f
  | _ => rfl

theorem functionTailDoc_isOk (level : Nat) (noIn : Bool) :
    ∀ f : Func, (functionTailDoc level noIn f).isOk = f.printable .all
  | ⟨_, params, body, _, _⟩ =>
    isOk_then (patternDocs_isOk level noIn params) fun _ =>
      isOk_last (stmtDocs_isOk (level + 1) noIn false body)

theorem classDoc_isOk (level : Nat) (noIn : Bool) :
    ∀ c : ClassDef, (classDoc level noIn c).isOk = c.printable .all
  | ⟨_, superclass, members⟩ =>
    isOk_then (superclassDoc_isOk level noIn superclass) fun _ =>
      isOk_last (classMemberDocs_isOk (level + 1) noIn members)

theorem superclassDoc_isOk (level : Nat) (noIn : Bool) :
    ∀ e : Option Expr, (superclassDoc level noIn e).isOk = printableOption .all e
  | none => rfl
  | some e => isOk_last (exprDoc_isOk level noIn e)

theorem classMemberDocs_isOk (level : Nat) (noIn : Bool) :
    ∀ ms : List ClassMember, (classMemberDocs level noIn ms).isOk = printableClassMembers .all ms
  | [] => rfl
  | m :: rest =>
    isOk_then (classMemberDoc_isOk level noIn rest.head? m) fun _ =>
      isOk_last (classMemberDocs_isOk level noIn rest)

theorem classMemberDoc_isOk (level : Nat) (noIn : Bool) (next : Option ClassMember) :
    ∀ m : ClassMember, (classMemberDoc level noIn next m).isOk = m.printable .all
  | .method key value _ _ _ =>
    isOk_then (exprDoc_isOk level noIn key) fun _ =>
      isOk_last (functionTailDoc_isOk level noIn value)
  | .field key value _ _ =>
    isOk_then (exprDoc_isOk level noIn key) fun _ => isOk_last (initDoc_isOk level noIn value)
  | .staticBlock body => isOk_last (stmtDocs_isOk (level + 1) noIn false body)

theorem initDoc_isOk (level : Nat) (noIn : Bool) :
    ∀ e : Option Expr, (initDoc level noIn e).isOk = printableOption .all e
  | none => rfl
  | some e => isOk_last (exprDoc_isOk level noIn e)

theorem patternDoc_isOk (level : Nat) (noIn : Bool) :
    ∀ p : Pattern, (patternDoc level noIn p).isOk = p.printable .all
  | .identifier _ => rfl
  | .object members => by
    refine (isOk_then (patternMemberDocs_isOk level noIn members) fun _ => ?_).trans
      (Bool.and_true _)
    split <;> rfl
  | .array elements => isOk_last (patternElementDocs_isOk level noIn elements)
  | .rest argument => isOk_last (patternDoc_isOk level noIn argument)
  | .withDefault left right =>
    isOk_then (patternDoc_isOk level noIn left) fun _ => isOk_last (exprDoc_isOk level noIn right)
  | .member object property computed optional =>
    isOk_then (exprDoc_isOk level noIn object) fun _ =>
      isOk_access (exprDoc_isOk level noIn property) noIn computed optional

theorem patternDocs_isOk (level : Nat) (noIn : Bool) :
    ∀ ps : List Pattern, (patternDocs level noIn ps).isOk = printablePatterns .all ps
  | [] => rfl
  | p :: rest =>
    isOk_then (patternDoc_isOk level noIn p) fun _ => isOk_last (patternDocs_isOk level noIn rest)

theorem patternElementDoc_isOk (level : Nat) (noIn : Bool) :
    ∀ p : Option Pattern, (patternElementDoc level noIn p).isOk = printablePatternOption .all p
  | none => rfl
  | some p => patternDoc_isOk level noIn p

theorem patternElementDocs_isOk (level : Nat) (noIn : Bool) :
    ∀ ps : List (Option Pattern),
      (patternElementDocs level noIn ps).isOk = printablePatternElements .all ps
  | [] => rfl
  | p :: rest =>
    isOk_then (patternElementDoc_isOk level noIn p) fun _ =>
      isOk_last (patternElementDocs_isOk level noIn rest)

theorem patternMemberDocs_isOk (level : Nat) (noIn : Bool) :
    ∀ ms : List PatternMember,
      (patternMemberDocs level noIn ms).isOk = printablePatternMembers .all ms
  | [] => rfl
  | m :: rest =>
    isOk_then (patternMemberDoc_isOk level noIn m) fun _ =>
      isOk_last (patternMemberDocs_isOk level noIn rest)

theorem patternMemberDoc_isOk (level : Nat) (noIn : Bool) :
    ∀ m : PatternMember, (patternMemberDoc level noIn m).isOk = m.printable .all
  | .property key value computed shorthand => by
    rw [patternMemberDoc, PatternMember.printable]
    split
    · exact patternDoc_isOk level noIn value
    · exact isOk_then (exprDoc_isOk level noIn key) fun _ =>
        isOk_last (patternDoc_isOk level noIn value)
  | .rest argument => isOk_last (patternDoc_isOk level noIn argument)

theorem stmtDoc_isOk (level : Nat) (noIn follows : Bool) :
    ∀ s : Stmt, (stmtDoc level noIn follows s).isOk = s.printable .all
  | .empty | .debugger | .break _ | .continue _ => rfl
  | .expression e _ => isOk_last (exprDoc_isOk level noIn e)
  | .block body => isOk_last (stmtDocs_isOk (level + 1) noIn false body)
  | .return argument => isOk_last (optionDoc_isOk level noIn _ argument)
  | .throw argument => isOk_last (exprDoc_isOk level noIn argument)
  | .labeled _ body => isOk_last (stmtDoc_isOk level noIn false body)
  | .if test consequent =>
    isOk_then (exprDoc_isOk level noIn test) fun _ =>
      isOk_last (stmtDoc_isOk _ noIn false consequent)
  | .ifElse test consequent alternate =>
    isOk_then (exprDoc_isOk level noIn test) fun _ =>
      isOk_then (stmtDoc_isOk _ noIn false consequent) fun _ =>
        isOk_last (stmtDoc_isOk _ noIn false alternate)
  | .switch discriminant cases =>
    isOk_then (exprDoc_isOk level noIn discriminant) fun _ =>
      isOk_last (caseDocs_isOk (level + 1) noIn cases)
  | .try block => isOk_last (stmtDocs_isOk (level + 1) noIn false block)
  | .tryCatch block param handler =>
    isOk_then (stmtDocs_isOk (level + 1) noIn false block) fun _ =>
      isOk_then (catchParamDoc_isOk level noIn param) fun _ =>
        isOk_last (stmtDocs_isOk (level + 1) noIn false handler)
  | .tryFinally block finalizer =>
    isOk_then (stmtDocs_isOk (level + 1) noIn false block) fun _ =>
      isOk_last (stmtDocs_isOk (level + 1) noIn false finalizer)
  | .tryCatchFinally block param handler finalizer =>
    isOk_then (stmtDocs_isOk (level + 1) noIn false block) fun _ =>
      isOk_then (catchParamDoc_isOk level noIn param) fun _ =>
        isOk_then (stmtDocs_isOk (level + 1) noIn false handler) fun _ =>
          isOk_last (stmtDocs_isOk (level + 1) noIn false finalizer)
  | .while test body =>
    isOk_then (exprDoc_isOk level noIn test) fun _ => isOk_last (stmtDoc_isOk _ noIn false body)
  | .doWhile test body =>
    isOk_then (stmtDoc_isOk _ noIn false body) fun _ => isOk_last (exprDoc_isOk level noIn test)
  | .for init test update body =>
    isOk_then (forInitDoc_isOk level init) fun _ =>
      isOk_then (optionDoc_isOk level noIn _ test) fun _ =>
        isOk_then (optionDoc_isOk level noIn _ update) fun _ =>
          isOk_last (stmtDoc_isOk _ noIn false body)
  | .forVariables _ declarations test update body =>
    isOk_then (declaratorDocs_isOk level true declarations) fun _ =>
      isOk_then (optionDoc_isOk level noIn _ test) fun _ =>
        isOk_then (optionDoc_isOk level noIn _ update) fun _ =>
          isOk_last (stmtDoc_isOk _ noIn false body)
  | .forEach _ left right body _ =>
    isOk_then (patternDoc_isOk level noIn left) fun _ =>
      isOk_then (exprDoc_isOk level noIn right) fun _ =>
        isOk_last (stmtDoc_isOk _ noIn false body)
  | .forEachVariable _ _ declarations right body _ =>
    isOk_then (declaratorDocs_isOk level noIn declarations) fun _ =>
      isOk_then (exprDoc_isOk level noIn right) fun _ =>
        isOk_last (stmtDoc_isOk _ noIn false body)
  | .function f => isOk_last (functionTailDoc_isOk level noIn f)
  | .classDef c => classDoc_isOk level noIn c
  | .variables _ declarations => isOk_last (declaratorDocs_isOk level noIn declarations)

theorem forInitDoc_isOk (level : Nat) :
    ∀ e : Option Expr, (forInitDoc level e).isOk = printableOption .all e
  | none => rfl
  | some e => isOk_last (exprDoc_isOk level true e)

theorem catchParamDoc_isOk (level : Nat) (noIn : Bool) :
    ∀ p : Option Pattern, (catchParamDoc level noIn p).isOk = printablePatternOption .all p
  | none => rfl
  | some p => isOk_last (patternDoc_isOk level noIn p)

theorem stmtDocs_isOk (level : Nat) (noIn follows : Bool) :
    ∀ ss : List Stmt, (stmtDocs level noIn follows ss).isOk = printableStmts .all ss
  | [] => rfl
  | s :: rest =>
    isOk_then (stmtDoc_isOk level noIn follows s) fun _ =>
      isOk_last (stmtDocs_isOk level noIn true rest)

theorem caseDocs_isOk (level : Nat) (noIn : Bool) :
    ∀ cs : List SwitchCase, (caseDocs level noIn cs).isOk = printableCases .all cs
  | [] => rfl
  | c :: rest =>
    isOk_then (caseDoc_isOk level noIn c) fun _ => isOk_last (caseDocs_isOk level noIn rest)

theorem caseDoc_isOk (level : Nat) (noIn : Bool) :
    ∀ c : SwitchCase, (caseDoc level noIn c).isOk = c.printable .all
  | ⟨test, consequent⟩ =>
    isOk_then (optionDoc_isOk level noIn _ test) fun _ =>
      isOk_last (stmtDocs_isOk (level + 1) noIn false consequent)

theorem declaratorDocs_isOk (level : Nat) (noIn : Bool) :
    ∀ ds : List Declarator, (declaratorDocs level noIn ds).isOk = printableDeclarators .all ds
  | [] => rfl
  | d :: rest =>
    isOk_then (declaratorDoc_isOk level noIn d) fun _ =>
      isOk_last (declaratorDocs_isOk level noIn rest)

theorem declaratorDoc_isOk (level : Nat) (noIn : Bool) :
    ∀ d : Declarator, (declaratorDoc level noIn d).isOk = d.printable .all
  | ⟨target, init⟩ =>
    isOk_then (patternDoc_isOk level noIn target) fun _ =>
      isOk_last (initDoc_isOk level noIn init)
end

/-! ## Items -/

/-- Every name and every literal can be written. -/
theorem printable_exportName (n : ExportName) : n.printable .all = true := by
  cases n <;> rfl

theorem printable_import (i : Import) : i.printable .all = true := by
  refine Bool.and_eq_true_iff.2 ⟨List.all_eq_true.2 fun clause _ => ?_, rfl⟩
  cases clause with
  | named imported binding => exact Bool.and_eq_true_iff.2 ⟨printable_exportName imported, rfl⟩
  | _ => rfl

theorem exportClauseDoc_isOk (c : ExportClause) : (exportClauseDoc c).isOk = c.printable .all := by
  cases c with
  | named binding exported =>
    exact (Bool.and_eq_true_iff.2
      ⟨printable_exportName binding, printable_exportName exported⟩).symm
  | _ => rfl

theorem exportClauseDocs_isOk (clauses : List ExportClause) :
    (clauses.mapM exportClauseDoc).isOk = clauses.all (ExportClause.printable .all) := by
  induction clauses with
  | nil => rfl
  | cons c rest ih =>
    rw [List.mapM_cons, List.all_cons]
    exact isOk_then (exportClauseDoc_isOk c) fun _ => isOk_last ih

theorem declarationDoc_isOk (d : Declaration) : (declarationDoc d).isOk = d.printable .all := by
  cases d with
  | function f => exact isOk_last (functionTailDoc_isOk 0 false f)
  | classDef c => exact classDoc_isOk 0 false c
  | _ kind declarations => exact isOk_last (declaratorDocs_isOk 0 false declarations)

theorem namedExportDoc_isOk (e : NamedExport) : (namedExportDoc e).isOk = e.printable .all := by
  unfold namedExportDoc NamedExport.printable
  cases e.declaration with
  | some d => exact isOk_last (declarationDoc_isOk d)
  | none =>
    have hsource : e.source.all Lexicon.all.literal = true := by cases e.source <;> rfl
    exact (isOk_last (exportClauseDocs_isOk e.clauses)).trans (by rw [hsource, Bool.and_true])

theorem defaultExportDoc_isOk (e : DefaultExport) : (defaultExportDoc e).isOk = e.printable .all := by
  cases e with
  | function f => exact isOk_last (functionTailDoc_isOk 0 false f)
  | classDef c => exact isOk_last (classDoc_isOk 0 false c)
  | expression e => exact isOk_last (exprDoc_isOk 0 false e)

theorem itemDoc_isOk (follows : Bool) (i : Item) : (itemDoc follows i).isOk = i.printable .all := by
  cases i with
  | exportNamed e => exact namedExportDoc_isOk e
  | exportDefault e => exact defaultExportDoc_isOk e
  | statement s => exact stmtDoc_isOk 0 false follows s
  | «import» i => exact (printable_import i).symm
  | exportAll source exported =>
    cases exported with
    | none => rfl
    | some name => exact (printable_exportName name).symm
  | element e => rfl

theorem itemDocs_isOk (follows : Bool) (items : List Item) :
    (itemDocs follows items).isOk = items.all (Item.printable .all) := by
  induction items generalizing follows with
  | nil => rfl
  | cons i rest ih => exact isOk_then (itemDoc_isOk follows i) fun _ => isOk_last (ih true)

/-- Exactly the printable programs are printed. -/
theorem program_isOk (p : Program) (o : Options) : (program p o).isOk = p.printable .all := by
  rw [Program.printable, ← itemDocs_isOk false]
  unfold program programDoc
  cases itemDocs false p.body <;> rfl

end CustomElement.Emit
