import CustomElement.Proofs.Emit.Printable
import Mathlib.Logic.Relation

/-!
# Printed positions

Printing a program visits its nodes from the items down. `Node.parts` lists the nodes that are printed
right inside of a node, and the printed positions of a program are what is reached from its items that
way. Printing fails exactly if one of them is offending (`program_fails_iff`): markup among the items, a
clause that is no pair of names, an access by something else than a name, or a method that is no function.

One step says when a node is printable in terms of its parts (`printable_eq`). Since the parts of a node
are smaller than the node, the step is repeated until an offending node is found (`exists_offending`).
-/

namespace CustomElement.Tree

open CustomElement.Emit (isShorthand isShorthandPattern)

/-- A node of a program. -/
inductive Node where
  | item (i : Item)
  | clause (c : ExportClause)
  | stmt (s : Stmt)
  | expr (e : Expr)
  | pattern (p : Pattern)
  | func (f : Func)
  | classDef (c : ClassDef)
  | classMember (m : ClassMember)
  | member (m : ObjectMember)
  | patternMember (m : PatternMember)
  | switchCase (c : SwitchCase)
  | declarator (d : Declarator)

/-- Whether an export clause is a pair of names. -/
def ExportClause.isPair : ExportClause → Bool
  | .named .. => true
  | _ => false

/-- Whether a member of an object is written as a method or accessor. -/
def isMethodLike (kind : PropertyKind) (method : Bool) : Bool :=
  kind != .init || method

namespace Node

/-- Nodes that may be absent. -/
def optional {α : Type} (node : α → Node) (a : Option α) : List Node :=
  a.toList.map node

/-- The elements of an array or an array pattern, apart from the holes. -/
def elements {α : Type} (node : α → Node) (as : List (Option α)) : List Node :=
  as.flatMap (optional node)

end Node

open Node

/-- The expressions that are printed between the texts of a template. -/
def templateParts (quasis : List TemplateElement) (expressions : List Expr) : List Node :=
  (expressions.take quasis.length).map .expr

/-- The property of a member access, which is visited in brackets only. -/
def accessParts (object property : Expr) (computed : Bool) : List Node :=
  .expr object :: if computed then [.expr property] else []

/-- What is printed right inside of an expression. -/
def Expr.parts : Expr → List Node
  | .identifier _ | .privateName _ | .literal _ | .thisRef | .superRef | .metaProperty .. => []
  | .array es => elements .expr es
  | .object members => members.map .member
  | .function f => [.func f]
  | .arrow params body _ _ => params.map .pattern ++ [.expr body]
  | .arrowBlock params body _ _ => params.map .pattern ++ body.map .stmt
  | .classDef c => [.classDef c]
  | .template quasis expressions => Tree.templateParts quasis expressions
  | .tagged tag quasis expressions => .expr tag :: Tree.templateParts quasis expressions
  | .unary _ _ argument | .update _ _ argument => [.expr argument]
  | .binary _ left right | .logical _ left right => [.expr left, .expr right]
  | .assign _ left right => [.pattern left, .expr right]
  | .conditional test consequent alternate => [.expr test, .expr consequent, .expr alternate]
  | .member owner property computed _ => accessParts owner property computed
  | .call callee arguments _ | .new callee arguments => .expr callee :: arguments.map .expr
  | .sequence expressions => expressions.map .expr
  | .spread argument | .await argument => [.expr argument]
  | .yield argument _ => optional .expr argument
  | .chain expression => [.expr expression]
  | .importCall source => [.expr source]

/-- What is printed right inside of a pattern. -/
def Pattern.parts : Pattern → List Node
  | .identifier _ => []
  | .object members => members.map .patternMember
  | .array es => elements .pattern es
  | .rest argument => [.pattern argument]
  | .withDefault left right => [.pattern left, .expr right]
  | .member owner property computed _ => accessParts owner property computed

/-- What is printed right inside of a member of an object. A property that is written as a name alone has
its key only. -/
def ObjectMember.parts : ObjectMember → List Node
  | .spread argument => [.expr argument]
  | .property key value kind method computed shorthand =>
    if isMethodLike kind method then .expr key :: if value.isFunction then [.expr value] else []
    else if isShorthand key value computed shorthand then [.expr key]
    else [.expr key, .expr value]

/-- What is printed right inside of a member of an object pattern. The key of one that is written as a
name alone is not printed. -/
def PatternMember.parts : PatternMember → List Node
  | .property key value _ shorthand =>
    if isShorthandPattern key value shorthand then [.pattern value] else [.expr key, .pattern value]
  | .rest argument => [.pattern argument]

/-- What is printed right inside of a member of a class. -/
def ClassMember.parts : ClassMember → List Node
  | .method key value _ _ _ => [.expr key, .func value]
  | .field key value _ _ => .expr key :: optional .expr value
  | .staticBlock body => body.map .stmt

/-- What is printed right inside of a statement. -/
def Stmt.parts : Stmt → List Node
  | .empty | .debugger | .break _ | .continue _ => []
  | .expression e _ => [.expr e]
  | .block body | .try body => body.map .stmt
  | .return argument => optional .expr argument
  | .throw argument => [.expr argument]
  | .labeled _ body => [.stmt body]
  | .if test consequent => [.expr test, .stmt consequent]
  | .ifElse test consequent alternate => [.expr test, .stmt consequent, .stmt alternate]
  | .switch discriminant cases => .expr discriminant :: cases.map .switchCase
  | .tryCatch body param handler => body.map .stmt ++ (optional .pattern param ++ handler.map .stmt)
  | .tryFinally body finalizer => body.map .stmt ++ finalizer.map .stmt
  | .tryCatchFinally body param handler finalizer =>
    body.map .stmt ++ (optional .pattern param ++ (handler.map .stmt ++ finalizer.map .stmt))
  | .while test body => [.expr test, .stmt body]
  | .doWhile test body => [.stmt body, .expr test]
  | .for init test update body =>
    optional .expr init ++ (optional .expr test ++ (optional .expr update ++ [.stmt body]))
  | .forVariables _ declarations test update body =>
    declarations.map .declarator ++ (optional .expr test ++ (optional .expr update ++ [.stmt body]))
  | .forEach _ left right body _ => [.pattern left, .expr right, .stmt body]
  | .forEachVariable _ _ declarations right body _ =>
    declarations.map .declarator ++ [.expr right, .stmt body]
  | .variables _ declarations => declarations.map .declarator
  | .function f => [.func f]
  | .classDef c => [.classDef c]

/-- What is printed right inside of a declaration. -/
def Declaration.parts : Declaration → List Node
  | .function f => [.func f]
  | .classDef c => [.classDef c]
  | .variables _ declarations => declarations.map .declarator

/-- What is printed right inside of an item. The clauses beside an exported declaration are not printed. -/
def Item.parts : Item → List Node
  | .import _ | .exportAll .. | .element _ => []
  | .exportNamed e =>
    match e.declaration with
    | some d => d.parts
    | none => e.clauses.map .clause
  | .exportDefault (.function f) => [.func f]
  | .exportDefault (.classDef c) => [.classDef c]
  | .exportDefault (.expression e) => [.expr e]
  | .statement s => [.stmt s]

namespace Node

/-- What is printed right inside of a node. -/
def parts : Node → List Node
  | item i => i.parts
  | clause _ => []
  | stmt s => s.parts
  | expr e => e.parts
  | pattern p => p.parts
  | func f => f.params.map .pattern ++ f.body.map .stmt
  | classDef c => optional .expr c.superclass ++ c.members.map .classMember
  | classMember m => m.parts
  | member m => m.parts
  | patternMember m => m.parts
  | switchCase c => optional .expr c.test ++ c.consequent.map .stmt
  | declarator d => .pattern d.target :: optional .expr d.init

/-- A node without a written form of its own. -/
def isOffending : Node → Bool
  | item (.element _) => true
  | clause c => !c.isPair
  | expr (.member _ property computed _) | pattern (.member _ property computed _) =>
    !computed && !property.isDotName
  | member (.property _ value kind method _ _) => isMethodLike kind method && !value.isFunction
  | _ => false

/-- Whether a node has a written form. -/
def printable : Node → Bool
  | item i => i.printable .all
  | clause c => c.printable .all
  | stmt s => s.printable .all
  | expr e => e.printable .all
  | pattern p => p.printable .all
  | func f => f.printable .all
  | classDef c => c.printable .all
  | classMember m => m.printable .all
  | member m => m.printable .all
  | patternMember m => m.printable .all
  | switchCase c => c.printable .all
  | declarator d => d.printable .all

/-- A node is printed inside of another one. -/
def Within : Node → Node → Prop :=
  Relation.ReflTransGen fun n m => m ∈ n.parts

/-! ## One step -/

section Lists

variable {α : Type} {node : α → Node}

theorem eq_all_map {f : List α → Bool} (hnil : f [] = true)
    (hcons : ∀ a as, f (a :: as) = ((node a).printable && f as)) (as : List α) :
    f as = (as.map node).all printable := by
  induction as with
  | nil => exact hnil
  | cons a as ih => rw [hcons, ih, List.map_cons, List.all_cons]

theorem eq_all_optional {f : Option α → Bool} (hnone : f none = true)
    (hsome : ∀ a, f (some a) = (node a).printable) (a : Option α) : f a = (optional node a).all printable := by
  cases a with
  | none => exact hnone
  | some a => simp [hsome, optional]

theorem eq_all_elements {f : List (Option α) → Bool} (hnil : f [] = true)
    (hcons : ∀ a as, f (a :: as) = ((optional node a).all printable && f as)) (as : List (Option α)) :
    f as = (elements node as).all printable := by
  induction as with
  | nil => exact hnil
  | cons a as ih => simp only [hcons, ih, elements, List.flatMap_cons, List.all_append]

end Lists

@[simp] theorem printableOption_eq (e : Option Expr) :
    printableOption .all e = (optional .expr e).all printable :=
  eq_all_optional rfl (fun _ => rfl) e

@[simp] theorem printablePatternOption_eq (p : Option Pattern) :
    printablePatternOption .all p = (optional .pattern p).all printable :=
  eq_all_optional rfl (fun _ => rfl) p

@[simp] theorem printableExprs_eq (es : List Expr) : printableExprs .all es = (es.map .expr).all printable :=
  eq_all_map rfl (fun _ _ => rfl) es

@[simp] theorem printableElements_eq (es : List (Option Expr)) :
    printableElements .all es = (elements .expr es).all printable :=
  eq_all_elements rfl (fun e _ => congrArg (· && _) (printableOption_eq e)) es

@[simp] theorem printableMembers_eq (ms : List ObjectMember) :
    printableMembers .all ms = (ms.map .member).all printable :=
  eq_all_map rfl (fun _ _ => rfl) ms

@[simp] theorem printableClassMembers_eq (ms : List ClassMember) :
    printableClassMembers .all ms = (ms.map .classMember).all printable :=
  eq_all_map rfl (fun _ _ => rfl) ms

@[simp] theorem printablePatterns_eq (ps : List Pattern) :
    printablePatterns .all ps = (ps.map .pattern).all printable :=
  eq_all_map rfl (fun _ _ => rfl) ps

@[simp] theorem printablePatternElements_eq (ps : List (Option Pattern)) :
    printablePatternElements .all ps = (elements .pattern ps).all printable :=
  eq_all_elements rfl (fun p _ => congrArg (· && _) (printablePatternOption_eq p)) ps

@[simp] theorem printablePatternMembers_eq (ms : List PatternMember) :
    printablePatternMembers .all ms = (ms.map .patternMember).all printable :=
  eq_all_map rfl (fun _ _ => rfl) ms

@[simp] theorem printableStmts_eq (ss : List Stmt) : printableStmts .all ss = (ss.map .stmt).all printable :=
  eq_all_map rfl (fun _ _ => rfl) ss

@[simp] theorem printableCases_eq (cs : List SwitchCase) :
    printableCases .all cs = (cs.map .switchCase).all printable :=
  eq_all_map rfl (fun _ _ => rfl) cs

@[simp] theorem printableDeclarators_eq (ds : List Declarator) :
    printableDeclarators .all ds = (ds.map .declarator).all printable :=
  eq_all_map rfl (fun _ _ => rfl) ds

/-- Behind the last text of a template no expression is printed. -/
@[simp] theorem printableTemplate_eq (quasis : List TemplateElement) (es : List Expr) :
    printableTemplate .all quasis es = (templateParts quasis es).all printable := by
  induction quasis generalizing es with
  | nil => cases es <;> rfl
  | cons q quasis ih =>
    cases es with
    | nil => rfl
    | cons e es => exact congrArg (e.printable .all && ·) (ih es)

theorem printable_access (owner property : Expr) (computed : Bool) :
    (owner.printable .all && if computed then property.printable .all
      else property.isDotName && property.printable .all) =
      (!(!computed && !property.isDotName) && (accessParts owner property computed).all printable) := by
  have hname : (property.isDotName && property.printable .all) = property.isDotName := by
    cases property <;> rfl
  cases computed with
  | true => simp [accessParts, printable]
  | false => simp [accessParts, printable, hname, Bool.and_comm]

theorem printable_expr (e : Expr) :
    e.printable .all = (!(expr e).isOffending && e.parts.all printable) := by
  cases e with
  | member owner property computed optional => exact printable_access owner property computed
  | _ => simp [Expr.printable, Expr.parts, isOffending, printable]

theorem printable_pattern (p : Pattern) :
    p.printable .all = (!(pattern p).isOffending && p.parts.all printable) := by
  cases p with
  | member owner property computed optional => exact printable_access owner property computed
  | _ => simp [Pattern.printable, Pattern.parts, isOffending, printable]

theorem printable_stmt (s : Stmt) : s.printable .all = s.parts.all printable := by
  cases s <;> simp [Stmt.printable, Stmt.parts, printable]

theorem printableMethod_eq (value : Expr) :
    value.printableMethod .all = (value.isFunction && value.printable .all) := by
  cases value <;> rfl

theorem printable_member (m : ObjectMember) :
    m.printable .all = (!(member m).isOffending && m.parts.all printable) := by
  cases m with
  | spread argument => simp [ObjectMember.printable, ObjectMember.parts, isOffending, printable]
  | property key value kind method computed shorthand =>
    change (if isMethodLike kind method then key.printable .all && value.printableMethod .all
      else if isShorthand key value computed shorthand then key.printable .all
      else key.printable .all && value.printable .all) =
      (!(isMethodLike kind method && !value.isFunction) && _)
    rw [ObjectMember.parts]
    cases isMethodLike kind method with
    | true => cases hf : value.isFunction <;> simp [printableMethod_eq, hf, printable]
    | false => cases isShorthand key value computed shorthand <;> simp [printable]

theorem printable_patternMember (m : PatternMember) : m.printable .all = m.parts.all printable := by
  cases m with
  | rest argument => simp [PatternMember.printable, PatternMember.parts, printable]
  | property key value computed shorthand =>
    rw [PatternMember.printable, PatternMember.parts]
    cases isShorthandPattern key value shorthand <;> simp [printable]

theorem printable_classMember (m : ClassMember) : m.printable .all = m.parts.all printable := by
  cases m <;> simp [ClassMember.printable, ClassMember.parts, printable]

theorem printable_item (i : Item) :
    i.printable .all = (!(item i).isOffending && i.parts.all printable) := by
  cases i with
  | «import» i => exact Emit.printable_import i
  | exportAll source exported =>
    cases exported with
    | none => rfl
    | some name => exact Emit.printable_exportName name
  | exportNamed e =>
    rw [Item.printable, NamedExport.printable, Item.parts]
    cases e.declaration with
    | some d => cases d <;> simp [Declaration.printable, Declaration.parts, isOffending, printable]
    | none =>
      have hsource : e.source.all Lexicon.all.literal = true := by cases e.source <;> rfl
      dsimp only
      rw [hsource, Bool.and_true, List.all_map]
      rfl
  | exportDefault e => cases e <;> simp [Item.printable, DefaultExport.printable, Item.parts, isOffending, printable]
  | element e => rfl
  | statement s => simp [Item.printable, Item.parts, isOffending, printable]

/-- A node is printable if it is not offending and its parts are printable. -/
theorem printable_eq (n : Node) : n.printable = (!n.isOffending && n.parts.all printable) := by
  cases n with
  | item i => exact printable_item i
  | clause c =>
    cases c with
    | named binding exported =>
      exact Bool.and_eq_true_iff.2 ⟨Emit.printable_exportName binding, Emit.printable_exportName exported⟩
    | _ => rfl
  | stmt s => exact printable_stmt s
  | expr e => exact printable_expr e
  | pattern p => exact printable_pattern p
  | func f =>
    obtain ⟨name, params, body, generator, async⟩ := f
    simp [printable, Func.printable, parts, isOffending]
  | classDef c =>
    obtain ⟨name, superclass, members⟩ := c
    simp [printable, ClassDef.printable, parts, isOffending]
  | classMember m => exact printable_classMember m
  | member m => exact printable_member m
  | patternMember m => exact printable_patternMember m
  | switchCase c =>
    obtain ⟨test, consequent⟩ := c
    simp [printable, SwitchCase.printable, parts, isOffending]
  | declarator d =>
    obtain ⟨target, init⟩ := d
    simp [printable, Declarator.printable, parts, isOffending]

/-! ## Down to an offending node -/

/-- No node of a list is larger than so much. -/
def Below (size : Nat) (ns : List Node) : Prop :=
  ∀ m ∈ ns, sizeOf m ≤ size

@[simp] theorem below_nil {size : Nat} : Below size [] :=
  List.forall_mem_nil _

@[simp] theorem below_cons {size : Nat} {n : Node} {ns : List Node} :
    Below size (n :: ns) ↔ sizeOf n ≤ size ∧ Below size ns :=
  List.forall_mem_cons

@[simp] theorem below_append {size : Nat} {ns ms : List Node} :
    Below size (ns ++ ms) ↔ Below size ns ∧ Below size ms :=
  List.forall_mem_append

section Below

variable {α : Type} [SizeOf α] {node : α → Node} {size : Nat} (hnode : ∀ a, sizeOf (node a) = 1 + sizeOf a)
include hnode

theorem below_map {as : List α} (h : sizeOf as ≤ size) : Below size (as.map node) := by
  intro m hm
  obtain ⟨a, ha, rfl⟩ := List.mem_map.1 hm
  have := List.sizeOf_lt_of_mem ha
  rw [hnode]
  omega

theorem below_optional {a : Option α} (h : sizeOf a ≤ size) : Below size (optional node a) := by
  cases a with
  | none => exact below_nil
  | some a => simpa [optional, hnode] using h

theorem below_elements {as : List (Option α)} (h : sizeOf as ≤ size) : Below size (elements node as) := by
  intro m hm
  obtain ⟨a, ha, hm⟩ := List.mem_flatMap.1 hm
  have := List.sizeOf_lt_of_mem ha
  exact below_optional hnode (by omega) m hm

end Below

section Sizes

variable {size : Nat}

theorem below_exprs {es : List Expr} (h : sizeOf es ≤ size) : Below size (es.map expr) :=
  below_map (fun _ => rfl) h

theorem below_optionExpr {e : Option Expr} (h : sizeOf e ≤ size) : Below size (optional expr e) :=
  below_optional (fun _ => rfl) h

theorem below_optionPattern {p : Option Pattern} (h : sizeOf p ≤ size) : Below size (optional pattern p) :=
  below_optional (fun _ => rfl) h

theorem below_patterns {ps : List Pattern} (h : sizeOf ps ≤ size) : Below size (ps.map pattern) :=
  below_map (fun _ => rfl) h

theorem below_stmts {ss : List Stmt} (h : sizeOf ss ≤ size) : Below size (ss.map stmt) :=
  below_map (fun _ => rfl) h

theorem below_declarators {ds : List Declarator} (h : sizeOf ds ≤ size) : Below size (ds.map declarator) :=
  below_map (fun _ => rfl) h

theorem below_template (quasis : List TemplateElement) {es : List Expr} (h : sizeOf es ≤ size) :
    Below size (templateParts quasis es) := by
  intro m hm
  obtain ⟨e, he, rfl⟩ := List.mem_map.1 hm
  exact below_exprs h _ (List.mem_map_of_mem (List.mem_of_mem_take he))

theorem below_access {owner property : Expr} {computed : Bool} (h : 1 + sizeOf owner + sizeOf property ≤ size) :
    Below size (accessParts owner property computed) := by
  cases computed <;> simp [accessParts] <;> omega

end Sizes

theorem below_expr (e : Expr) : Below (sizeOf e) e.parts := by
  cases e with
  | array es => exact below_elements (fun _ => rfl) (by simp)
  | object members => exact below_map (fun _ => rfl) (by simp)
  | member owner property computed optional => exact below_access (by simp; omega)
  | template quasis expressions => exact below_template quasis (by simp)
  | tagged tag quasis expressions =>
    exact below_cons.2 ⟨by simp; omega, below_template quasis (by simp)⟩
  | _ =>
    simp (disch := omega) [Expr.parts, below_exprs, below_patterns, below_stmts, below_optionExpr] <;> omega

theorem below_pattern (p : Pattern) : Below (sizeOf p) p.parts := by
  cases p with
  | array es => exact below_elements (fun _ => rfl) (by simp)
  | object members => exact below_map (fun _ => rfl) (by simp)
  | member owner property computed optional => exact below_access (by simp; omega)
  | _ => simp [Pattern.parts]

theorem below_stmt (s : Stmt) : Below (sizeOf s) s.parts := by
  cases s with
  | switch discriminant cases =>
    exact below_cons.2 ⟨by simp, below_map (fun _ => rfl) (by simp)⟩
  | _ =>
    simp (disch := omega) [Stmt.parts, below_stmts, below_optionExpr, below_optionPattern, below_declarators] <;>
      omega

theorem below_member (m : ObjectMember) : Below (sizeOf m) m.parts := by
  cases m with
  | spread argument => simp [ObjectMember.parts]
  | property key value kind method computed shorthand =>
    rw [ObjectMember.parts]
    repeat' split
    all_goals (simp; omega)

theorem below_patternMember (m : PatternMember) : Below (sizeOf m) m.parts := by
  cases m with
  | rest argument => simp [PatternMember.parts]
  | property key value computed shorthand =>
    rw [PatternMember.parts]
    split <;> simp <;> omega

theorem below_classMember (m : ClassMember) : Below (sizeOf m) m.parts := by
  cases m <;> simp (disch := omega) [ClassMember.parts, below_stmts, below_optionExpr] <;> omega

theorem below_item (i : Item) : Below (sizeOf i) i.parts := by
  cases i with
  | exportNamed e =>
    obtain ⟨declaration, clauses, source⟩ := e
    cases declaration with
    | none => exact below_map (fun _ => rfl) (by simp; omega)
    | some d =>
      cases d <;> simp (disch := omega) [Item.parts, Declaration.parts, below_declarators]
      all_goals omega
  | exportDefault e => cases e <;> simp [Item.parts]
  | _ => simp [Item.parts]

/-- The parts of a node are smaller than the node. -/
theorem sizeOf_of_mem_parts {n m : Node} (h : m ∈ n.parts) : sizeOf m < sizeOf n := by
  suffices hbelow : Below (sizeOf n - 1) n.parts by
    have hpos : 0 < sizeOf n := by cases n <;> exact Nat.lt_add_right _ Nat.one_pos
    have := hbelow m h
    omega
  cases n with
  | item i => simpa [parts] using below_item i
  | clause c => exact below_nil
  | stmt s => simpa [parts] using below_stmt s
  | expr e => simpa [parts] using below_expr e
  | pattern p => simpa [parts] using below_pattern p
  | func f =>
    obtain ⟨name, params, body, generator, async⟩ := f
    simp (disch := omega) [parts, below_patterns, below_stmts]
  | classDef c =>
    obtain ⟨name, superclass, members⟩ := c
    exact below_append.2 ⟨below_optionExpr (by simp; omega), below_map (fun _ => rfl) (by simp)⟩
  | classMember m => simpa [parts] using below_classMember m
  | member m => simpa [parts] using below_member m
  | patternMember m => simpa [parts] using below_patternMember m
  | switchCase c =>
    obtain ⟨test, consequent⟩ := c
    simp (disch := omega) [parts, below_stmts, below_optionExpr]
  | declarator d =>
    obtain ⟨target, init⟩ := d
    simp (disch := omega) [parts, below_optionExpr]

/-- Inside of a node that is not printable stands an offending one. -/
theorem exists_offending {n : Node} (h : n.printable = false) : ∃ m, Within n m ∧ m.isOffending = true := by
  rw [printable_eq, Bool.and_eq_false_iff, Bool.not_eq_false'] at h
  rcases h with hoffending | hparts
  · exact ⟨n, .refl, hoffending⟩
  · obtain ⟨part, hmem, hpart⟩ := List.all_eq_false.1 hparts
    have := sizeOf_of_mem_parts hmem
    obtain ⟨m, hm, hoffending⟩ := exists_offending (Bool.not_eq_true _ ▸ hpart)
    exact ⟨m, .head hmem hm, hoffending⟩
termination_by sizeOf n

/-- What is printed inside of a printable node is printable. -/
theorem Within.printable {n m : Node} (h : Within n m) (hn : n.printable = true) : m.printable = true := by
  induction h with
  | refl => exact hn
  | tail _ hmem ih =>
    rw [printable_eq, Bool.and_eq_true] at ih
    exact List.all_eq_true.1 ih.2 _ hmem

/-- A node is printable exactly if no offending one is printed inside of it. -/
theorem printable_eq_false_iff {n : Node} : n.printable = false ↔ ∃ m, Within n m ∧ m.isOffending = true := by
  refine ⟨exists_offending, ?_⟩
  rintro ⟨m, hm, hoffending⟩
  rw [← Bool.not_eq_true]
  intro hn
  have hprintable := hm.printable hn
  rw [printable_eq, hoffending] at hprintable
  cases hprintable

end Node

/-- A printed position of a program. -/
def Program.Prints (p : Program) (m : Node) : Prop :=
  ∃ i ∈ p.body, Node.Within (.item i) m

theorem Program.printable_eq_false_iff {p : Program} :
    p.printable .all = false ↔ ∃ m, p.Prints m ∧ m.isOffending = true := by
  rw [Program.printable, List.all_eq_false]
  constructor
  · rintro ⟨i, hi, hprintable⟩
    obtain ⟨m, hm, hoffending⟩ := Node.exists_offending (n := .item i) (Bool.not_eq_true _ ▸ hprintable)
    exact ⟨m, ⟨i, hi, hm⟩, hoffending⟩
  · rintro ⟨m, ⟨i, hi, hm⟩, hoffending⟩
    exact ⟨i, hi, Bool.not_eq_true _ ▸ Node.printable_eq_false_iff.2 ⟨m, hm, hoffending⟩⟩

end CustomElement.Tree

namespace CustomElement.Emit

open CustomElement.Tree

/-- Printing fails exactly on the programs that print an offending node, whatever the options, and every
failure is one of unsupported syntax. -/
theorem program_fails_iff (p : Program) (o : Options) :
    ((∃ e, program p o = .error e) ↔ ∃ n, p.Prints n ∧ n.isOffending = true) ∧
      ∀ e, program p o = .error e → e.diagnostic.kind = .unsupportedSyntax := by
  refine ⟨?_, fun e _ => by cases e <;> rfl⟩
  rw [← Program.printable_eq_false_iff, ← program_isOk p o]
  cases program p o with
  | ok text => simp [Except.isOk, Except.toBool]
  | error e => simp [Except.isOk, Except.toBool]

/-- An access by something else than a name and a clause that is no pair of names, where they are not
printed: behind the last text of a template, and beside an exported declaration. -/
theorem hiddenOffences_not_printed :
    ¬∃ n, Program.Prints ⟨.module, [
      .statement (.expression (.template [] [.member .thisRef .thisRef false false]) none),
      .exportNamed ⟨some (.variables .var []), [.default (.identifier "a")], none⟩]⟩ n ∧ n.isOffending = true := by
  rw [← (program_fails_iff _ {}).1]
  rintro ⟨e, he⟩
  cases he

end CustomElement.Emit
