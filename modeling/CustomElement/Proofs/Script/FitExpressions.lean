import CustomElement.Proofs.Script.Yields
import CustomElement.Script.Expression

/-!
# Classes and expressions are fit

What the readers of arrow functions, classes and expressions give is fit, if the readers of the round
before give fit parts. After a dot they take nothing but a name (`propertyAfterDot`), and the members
that they mark as methods have a function.
-/

namespace CustomElement.Script

open CustomElement.Tree (UnaryOp UpdateOp BinaryOp LogicalOp AssignOp Lexicon)

namespace Readers.Fit

open Reader (Heading Operand Link)

variable {words : Lexicon} {r : Readers} (hr : r.Fit words) (c : Context)

/-! ## Arrow functions -/

include hr

theorem arrowHead : Yields (Reader.arrowHead r c) fun x => ∀ p ∈ x.1, p.Fit words :=
  .after fun _ => .after fun _ => (hr.parameters _ .other).bind fun _ hps => .after fun _ =>
    .after fun _ => .after fun _ => .after fun _ => .after fun _ => .pure hps

theorem arrowBody {params : List Expr} (hps : ∀ p ∈ params, p.Fit words) (async allowReturnType : Bool) :
    Yields (Reader.arrowBody r c params async allowReturnType) (Expr.Fit words) :=
  .after fun _ => .ite ((hr.functionBody _).bind fun _ hb => .pure (.arrowBlock hps hb _))
    ((hr.assign _ _).bind fun _ he => .pure (.arrow hps he _))

theorem arrowFunction : Yields (Reader.arrowFunction r c) (Expr.Fit words) := by
  refine (hr.arrowHead c).bind ?_
  rintro ⟨params, async, hasReturnType⟩ hps
  exact hr.arrowBody c hps async true

theorem possibleArrow (allowReturnType : Bool) :
    Yields (Reader.possibleArrow r c allowReturnType) (Expr.Fit words) := by
  refine (hr.arrowHead c).bind ?_
  rintro ⟨params, async, hasReturnType⟩ hps
  exact (hr.arrowBody c hps async allowReturnType).bind fun _ he =>
    .after fun _ => .ite .fail (.pure he)

theorem simpleArrow {param : String} (hparam : words.name (some param) = true) (async allowReturnType : Bool) :
    Yields (Reader.simpleArrow r c param async allowReturnType) (Expr.Fit words) :=
  .after fun _ => .after fun _ => .after fun _ =>
    hr.arrowBody c (List.forall_mem_singleton.2 (.identifier hparam)) async allowReturnType

theorem arrow? (allowReturnType : Bool) :
    Yields (Reader.arrow? r c allowReturnType) fun o => ∀ e ∈ o, e.Fit words := by
  refine .after fun guess => ?_
  cases guess with
  | yes => exact (hr.arrowFunction c).bind fun _ he => .pure_some he
  | maybe => exact (hr.possibleArrow c allowReturnType).attempt
  | no =>
    exact .after fun _ => .ite (.after fun _ => (hr.name _).bind fun _ hparam =>
      (hr.simpleArrow c hparam true allowReturnType).bind fun _ he => .pure_some he) .pure_none

/-! ## Classes -/

omit hr in
theorem complete {m : ClassMember} (hm : m.Fit words) (h : Heading) : ∀ m' ∈ h.complete m, m'.Fit words := by
  obtain ⟨start, decorated, modifiers⟩ := h
  cases decorated with
  | nil =>
    rintro _ ⟨⟩
    exact hm
  | cons text rest =>
    rintro _ ⟨⟩
    exact .unsupported _

theorem memberKey (h : Heading) : Yields (Reader.memberKey r c h) fun x => x.1.Fit words := by
  refine .after fun cursor => ?_
  split
  · rename_i hname
    exact .after fun _ => .after fun _ => .pure (.privateName (hr.covers.privateName hname))
  · exact hr.propertyKey c

omit hr in
theorem methodMember (h : Heading) {key : Expr} {f : Func} (hk : key.Fit words) (hf : f.Fit words)
    (hasBody : Bool) (kind : Tree.MethodKind) (computed : Bool) :
    Yields (Reader.methodMember h key f hasBody kind computed) fun o => ∀ m ∈ o, m.Fit words :=
  .ite (.after fun _ => .pure (complete (.method hk hf kind computed _) h))
    (.after fun _ => .pure_none)

theorem classMethod (h : Heading) {key : Expr} (hk : key.Fit words) (computed generator : Bool) :
    Yields (Reader.classMethod r c h key computed generator) fun o => ∀ m ∈ o, m.Fit words := by
  refine .after fun _ => .after fun _ => .after fun _ => (hr.methodFunction c _ generator).bind ?_
  rintro ⟨f, hasBody⟩ hf
  exact methodMember h hk hf hasBody .method computed

theorem classConstructor (h : Heading) {key : Expr} (hk : key.Fit words) :
    Yields (Reader.classConstructor r c h key) fun o => ∀ m ∈ o, m.Fit words := by
  refine .after fun _ => (hr.constructorFunction c).bind ?_
  rintro ⟨f, hasBody⟩ hf
  exact methodMember h hk hf hasBody .constructor false

theorem classAccessor (h : Heading) (kind : Tree.MethodKind) :
    Yields (Reader.classAccessor r c h kind) fun o => ∀ m ∈ o, m.Fit words := by
  refine .after fun _ => (hr.memberKey c h).bind ?_
  rintro ⟨key, computed⟩ hk
  refine .after fun _ => .after fun _ => (hr.methodFunction c false false).bind ?_
  rintro ⟨f, hasBody⟩ hf
  exact .after fun _ => methodMember h hk hf hasBody kind computed

theorem fieldValue : Yields (Reader.fieldValue r c) fun o => ∀ e ∈ o, e.Fit words :=
  .after fun _ => .ite (hr.expression _).some_map .pure_none

theorem classField (h : Heading) {key : Expr} (hk : key.Fit words) (computed : Bool) :
    Yields (Reader.classField r c h key computed) fun o => ∀ m ∈ o, m.Fit words :=
  .after fun _ => .after fun _ => .after fun _ => (hr.fieldValue c).bind fun _ hv =>
    .after fun _ => .after fun _ => .ite .pure_none (.pure (complete (.field hk hv computed _) h))

omit hr in
theorem accessorField (h : Heading) :
    Yields (Reader.accessorField r c h) fun o => ∀ m ∈ o, m.Fit words := by
  refine .after fun _ => .after fun _ => .after fun _ => ?_
  extract_lets tail
  have htail : ∀ u, Yields (tail u) fun o => ∀ m ∈ o, m.Fit words := fun _ =>
    .after fun _ => .ite .pure_none (.after fun _ => .pure_some (.unsupported _))
  exact .ite (.after fun _ => htail ()) (htail ())

theorem staticBlock : Yields (Reader.staticBlock r c) (ClassMember.Fit words) :=
  .after fun _ => (hr.statements _).bind fun _ hb => .after fun _ => .pure (.staticBlock hb)

theorem fieldAfterKey (h : Heading) {key : Expr} (hk : key.Fit words) (computed optional : Bool) :
    Yields (Reader.fieldAfterKey r c h key computed optional) fun o => ∀ m ∈ o, m.Fit words :=
  .after fun _ => .after fun _ => .ite (accessorField c h) (hr.classField c h hk computed)

theorem fieldOrMethod (h : Heading) :
    Yields (Reader.fieldOrMethod r c h) fun o => ∀ m ∈ o, m.Fit words := by
  refine .after fun generator => (hr.memberKey _ h).bind ?_
  rintro ⟨key, computed⟩ hk
  exact .after fun optional => .after fun _ => .ite (hr.classMethod _ h hk computed generator)
    (hr.fieldAfterKey _ h hk computed optional)

theorem classMemberOf (h : Heading) :
    Yields (Reader.classMemberOf r c h) fun o => ∀ m ∈ o, m.Fit words := by
  refine .after fun _ => .after fun _ => .ite ?_ (.after fun _ => .ite ?_ (.after fun _ =>
    .ite ?_ (.after fun _ => .ite ?_ (.after fun _ => .ite ?_ ?_))))
  · exact .after fun _ => .after fun _ => (hr.staticBlock c).bind fun _ hm => .pure_some hm
  · exact hr.classAccessor c h .get
  · exact hr.classAccessor c h .set
  · refine (hr.propertyKey c).bind ?_
    rintro ⟨key, computed⟩ hk
    exact hr.classConstructor c h hk
  · exact .after fun _ => .after fun _ => .pure_none
  · exact hr.fieldOrMethod c h

theorem classMember? : Yields (Reader.classMember? r c) fun o => ∀ x ∈ o, ∀ m ∈ x, m.Fit words := by
  refine .after fun _ => .ite .pure_none (.after fun _ => .ite ?_ ?_)
  · exact .pure_some fun _ hm => nomatch hm
  · exact .after fun _ => .after fun _ => .after fun _ =>
      (hr.classMemberOf c _).bind fun _ hm => .pure_some hm

theorem classBody : Yields (Reader.classBody r c) fun ms => ∀ m ∈ ms, m.Fit words := by
  refine .after fun _ => ((hr.classMember? c).many _).bind fun members hms => .after fun _ => ?_
  refine .pure fun m hm => ?_
  obtain ⟨x, hx, rfl⟩ := List.mem_filterMap.1 hm
  exact hms _ hx m rfl

theorem superclass : Yields (Reader.superclass r c) (Expr.Fit words) := by
  refine (hr.chain c).bind fun e he => ?_
  split
  · exact .pure he.of_wrapped
  · exact .after fun _ => .ite (.after fun _ => .pure he) (.pure he)

theorem heritage : Yields (Reader.heritage r c) fun o => ∀ e ∈ o, e.Fit words := by
  refine .after fun _ => ?_
  extract_lets tail
  have htail : ∀ parent : Option Expr, (∀ e ∈ parent, e.Fit words) →
      Yields (tail parent) fun o => ∀ e ∈ o, e.Fit words := fun _ hp =>
    .after fun _ => .ite (.after fun _ => .pure hp) (.pure hp)
  exact .ite ((hr.superclass c).some_map.bind htail) (Yields.pure_none.bind htail)

theorem classTail : Yields (Reader.classTail r c) (ClassDef.Fit words) := by
  refine .after fun _ => ?_
  extract_lets rest tail
  have hrest : ∀ name, words.name name = true → Yields (rest name) (ClassDef.Fit words) := fun _ hname =>
    .after fun _ => (hr.heritage c).bind fun _ hp => (hr.classBody c).bind fun _ hms =>
      .pure (.mk hname hp hms)
  have htail : ∀ named, Yields (tail named) (ClassDef.Fit words) := fun _ =>
    .ite ((hr.givenName c).bind hrest) (.bind (.pure hr.covers.noName) hrest)
  exact .ite (.after htail) (.after htail)

/-! ## Primary expressions -/

theorem functionExpression (async : Bool) :
    Yields (Reader.functionExpression r c async) (Expr.Fit words) := by
  refine .after fun generator => .after fun named => ?_
  extract_lets tail
  have htail : ∀ name, words.name name = true → Yields (tail name) (Expr.Fit words) := by
    intro name hname
    refine (hr.functionTail c async generator).bind ?_
    rintro ⟨params, body⟩ ⟨hps, hb⟩
    cases body with
    | none => exact .fail
    | some body => exact .pure (.function (.mk hname hps (hb body rfl)))
  exact .ite ((hr.givenName _).bind htail) (.bind (.pure hr.covers.noName) htail)

theorem regexLiteral : Yields Reader.regexLiteral (Expr.Fit words) := by
  refine .after fun cursor => ?_
  split
  · rename_i text hhere
    have hclear := cursor.clear
    rw [hhere] at hclear
    split
    · rename_i hread
      exact .after fun _ => .after fun _ => .pure (.literal (hr.covers.literal (isRegex_readRegex hclear hread)))
    · exact .fail
  · exact .fail

theorem parenthesized : Yields (Reader.parenthesized r c) (Expr.Fit words) :=
  .after fun _ => (hr.expression c.enclosed).bind fun _ he => .after fun _ => .pure (he.wrapped _)

theorem importArguments (start : List Char) (phased : Bool) :
    Yields (Reader.importArguments r c start phased) (Expr.Fit words) := by
  refine (hr.assign c.withIn true).bind fun source hs => .after fun _ => ?_
  extract_lets tail
  have htail : ∀ options, Yields (tail options) (Expr.Fit words) := fun _ =>
    .after fun _ => .ite (.after fun _ => .pure (.unsupported _)) (.pure (.importCall hs))
  refine .ite (.after fun _ => .ite ?_ ?_) ?_
  · exact .after htail
  · exact .after fun _ => .after fun _ => .after htail
  · exact .after htail

theorem importExpression : Yields (Reader.importExpression r c) (Expr.Fit words) := by
  refine .after fun cursor => .after fun _ => .after fun _ => .ite ?_ ?_
  · refine .after fun _ => .ite (.pure (.metaProperty (hr.covers.name (by decide)) (hr.covers.name (by decide))))
      (.after fun _ => .ite ?_ .fail)
    exact .after fun _ => .after fun _ => hr.importArguments c _ true
  · exact .after fun _ => hr.importArguments c _ false

theorem newArguments : Yields (Reader.newArguments r c) fun es => ∀ e ∈ es, e.Fit words :=
  .after fun _ => .ite (hr.arguments c.withIn) (.pure (List.forall_mem_nil _))

theorem newCallee : Yields (Reader.newCallee r c) (Expr.Fit words) := by
  refine .after fun imports => (hr.access c).bind ?_
  rintro ⟨callee, optional⟩ hc
  refine .after fun _ => .after fun _ => ?_
  split
  · exact .pure (Expr.Fit.of_wrapped hc)
  · exact .pure hc

theorem newExpression : Yields (Reader.newExpression r c) (Expr.Fit words) :=
  .after fun _ => .after fun _ => .ite
    (.after fun _ => .pure (.metaProperty (hr.covers.name (by decide)) (hr.covers.name (by decide)))) <|
    (hr.newCallee c).bind fun _ hc => (hr.newArguments c).bind fun _ has => .pure (.new hc has)

theorem classExpression : Yields (Reader.classExpression r c) (Expr.Fit words) :=
  .after fun _ => (hr.classTail c).bind fun _ hc => .pure (.classDef hc)

omit hr in
theorem decoratedExpression : Yields (Reader.decoratedExpression r c) (Expr.Fit words) := by
  refine .after fun decorated => ?_
  cases decorated with
  | nil => exact .fail
  | cons text rest => exact .after fun _ => .after fun _ => .after fun _ => .pure (.unsupported _)

theorem nameReference : Yields (Reader.name c >>= fun n => pure (.identifier n)) (Expr.Fit words) :=
  (hr.name c).bind fun _ hw => .pure (.identifier hw)

theorem wordPrimary (w : String) : Yields (Reader.wordPrimary r c w) (Expr.Fit words) := by
  unfold Reader.wordPrimary
  split
  · exact .after fun _ => .pure (.literal (hr.covers.literal rfl))
  · exact .after fun _ => .pure (.literal (hr.covers.literal rfl))
  · exact .after fun _ => .pure (.literal (hr.covers.literal rfl))
  · exact .after fun _ => .pure .thisRef
  · exact .after fun _ => .after fun _ => .after fun _ => .pure .superRef
  · exact .after fun _ => hr.functionExpression c false
  · exact hr.classExpression c
  · exact hr.newExpression c
  · exact hr.importExpression c
  · exact .after fun _ => .ite (.after fun _ => .after fun _ => hr.functionExpression c true)
      (hr.nameReference c)
  · exact hr.nameReference c

theorem primary : Yields (Reader.primary r c) (Expr.Fit words) := by
  refine .after fun cursor => ?_
  split
  · exact hr.wordPrimary c _
  · rename_i hx
    exact .after fun _ => .pure (.literal (hr.covers.number hx))
  · rename_i hdigits
    exact .after fun _ => .pure (.literal (hr.covers.bigint hdigits))
  · exact .after fun _ => .pure (.literal (hr.covers.literal rfl))
  · exact hr.plainTemplate c
  · exact hr.parenthesized c
  · exact hr.arrayLiteral c
  · exact hr.objectLiteral c
  · exact hr.regexLiteral
  · exact hr.regexLiteral
  · exact decoratedExpression c
  · exact .fail

/-! ## Chains of accesses and calls -/

/-- After a dot stands a name, be it a private one, and nothing else. -/
theorem propertyAfterDot : Yields Reader.propertyAfterDot fun e => ∃ name, words.name (some name) = true ∧
    (e = .identifier name ∨ e = .privateName name) := by
  refine .after fun cursor => ?_
  split
  · rename_i hname
    exact .after fun _ => .pure ⟨_, hr.covers.privateName hname, .inr rfl⟩
  · exact hr.anyName.bind fun _ hw => .pure ⟨_, hw, .inl rfl⟩

theorem computedAccess {object : Expr} (ho : object.Fit words) (optional : Bool) :
    Yields (Reader.computedAccess r c object optional) (Expr.Fit words) :=
  .after fun _ => (hr.expression c.withIn).bind fun _ hk => .after fun _ =>
    .pure (.index ho hk optional)

theorem taggedTemplate {tag : Expr} (ht : tag.Fit words) :
    Yields (Reader.taggedTemplate r c tag) (Expr.Fit words) := by
  refine (hr.templateLiteral c).bind ?_
  rintro ⟨quasis, expressions⟩ ⟨hes, hquasis⟩
  dsimp only
  split
  · exact .pure (.tagged ht.of_wrapped hes hquasis)
  · exact .pure (.tagged ht hes hquasis)

theorem optionalMember {object : Expr} (ho : object.Fit words) :
    Yields (Reader.optionalMember r c object) (Expr.Fit words) :=
  .after fun _ => .after fun _ => .ite (hr.computedAccess c ho true)
    (hr.propertyAfterDot.bind fun _ hp => .pure (.dot ho hp true))

theorem accessStep {link : Link} (hl : link.1.Fit words) :
    Yields (Reader.accessStep r c link) fun o => ∀ next ∈ o, next.1.Fit words := by
  obtain ⟨e, optional⟩ := link
  refine .after fun cursor => ?_
  split
  · exact .after fun _ => hr.propertyAfterDot.bind fun _ hp => .pure_some (.dot hl hp false)
  · exact .ite .pure_none ((hr.computedAccess c hl false).bind fun _ he => .pure_some he)
  · exact .after fun _ => .ite ((hr.optionalMember c hl).bind fun _ he => .pure_some he) .pure_none
  · exact .after fun _ => .ite .pure_none (.after fun _ => .pure_some (hl.wrapped .nonNull))
  · exact .after fun _ => (hr.taggedTemplate c hl).bind fun _ he => .pure_some he
  · refine .ite (.after fun applied => ?_) .pure_none
    cases applied with
    | none => exact .pure_none
    | some _ => exact .pure_some (hl.wrapped .instantiation)
  · exact .pure_none

theorem accessSteps (limit : Nat) (link : Link) (hl : link.1.Fit words) :
    Yields (Reader.accessSteps r c limit link) fun last => last.1.Fit words := by
  induction limit generalizing link with
  | zero => exact .fail
  | succ limit ih =>
    refine (hr.accessStep c hl).bind fun next hnext => ?_
    cases next with
    | none => exact .pure hl
    | some next => exact ih next (hnext next rfl)

theorem accessChain : Yields (Reader.accessChain r c) fun link => link.1.Fit words :=
  (hr.primary c).bind fun e he => hr.accessSteps c _ (e, false) he

theorem callStep {callee : Expr} (hc : callee.Fit words) (optional : Bool) :
    Yields (Reader.callStep r c callee optional) (Expr.Fit words) := by
  refine (hr.arguments c.enclosed).bind fun _ has => ?_
  split
  · exact .ite (.pure (.call hc has optional)) (.pure (.call hc.of_wrapped has optional))
  · exact .pure (.call hc has optional)

theorem optionalCall {callee : Expr} (hc : callee.Fit words) :
    Yields (Reader.optionalCall r c callee) (Expr.Fit words) := by
  refine .after fun _ => .after fun _ => ?_
  extract_lets tail
  have htail : ∀ u, Yields (tail u) (Expr.Fit words) := by
    intro u
    refine .after fun cursor => ?_
    split
    · exact .after fun _ => hr.taggedTemplate c hc
    · exact hr.callStep c hc true
  exact .ite (.after fun _ => htail ()) (htail ())

theorem callSteps (limit : Nat) (link : Link) (hl : link.1.Fit words) :
    Yields (Reader.callSteps r c limit link) fun last => last.1.Fit words := by
  induction limit generalizing link with
  | zero => exact .fail
  | succ limit ih =>
    refine (hr.accessSteps c _ link hl).bind ?_
    rintro ⟨e, optional⟩ he
    refine .after fun _ => .ite ?_ (.after fun _ => .ite ?_ (.pure he))
    · exact (hr.optionalCall c he).bind fun _ hcall => ih _ hcall
    · exact (hr.callStep c he false).bind fun _ hcall => ih _ hcall

omit hr in
theorem asChain {e : Expr} (he : e.Fit words) : (Reader.asChain e).Fit words := by
  fun_induction Reader.asChain e with
  | case1 e ih => exact (ih he.of_wrapped).wrapped .instantiation
  | case2 object property computed optional => exact .chain he
  | case3 callee arguments optional => exact .chain he
  | case4 e => exact .chain he
  | case5 e => exact he

theorem callChain : Yields (Reader.callChain r c) (Expr.Fit words) := by
  refine (hr.primary c).bind fun e he => (hr.callSteps c _ (e, false) he).bind ?_
  rintro ⟨e, optional⟩ he
  exact .ite (.pure (asChain he)) (.pure he)

/-! ## Operators -/

theorem updateExpression : Yields (Reader.updateExpression r c) (Expr.Fit words) := by
  refine .after fun cursor => ?_
  split
  · exact .after fun _ => (hr.unary c).bind fun _ he => .after fun _ => .pure (.update he _ _)
  · refine (hr.callChain c).bind fun e he => .after fun cursor => ?_
    split
    · exact .after fun _ => .ite (.pure he) (.after fun _ => .after fun _ => .pure (.update he _ _))
    · exact .pure he

theorem unaryExpression : Yields (Reader.unaryExpression r c) (Expr.Fit words) := by
  refine .after fun cursor => ?_
  split
  · exact .after fun _ => (hr.unary c).bind fun _ he => .pure (.unary he _)
  · refine .after fun _ => .ite ?_ (.after fun _ => .ite ?_ (hr.updateExpression c))
    · exact .after fun _ => .after fun _ => .after fun _ =>
        (hr.unary c).bind fun _ he => .pure (he.wrapped .assertion)
    · exact .after fun _ => .after fun _ => (hr.unary _).bind fun _ he => .pure (.await he)

omit hr in
theorem join (op : Infix) (left right : Operand) (hl : left.expr.Fit words) (hr : right.expr.Fit words) :
    Yields (Reader.join op left right) fun o => o.expr.Fit words := by
  cases op with
  | binary op => exact .after fun _ => .pure (.binary hl hr op)
  | logical op => exact .after fun _ => .pure (.logical hl hr op)
  | asType => exact .pure (hl.wrapped .asType)
  | satisfies => exact .pure (hl.wrapped .satisfies)

theorem binarySteps (least limit : Nat) (left : Operand) (hl : left.expr.Fit words) :
    Yields (Reader.binarySteps r c least limit left) (Expr.Fit words) := by
  induction limit generalizing left with
  | zero => exact .fail
  | succ limit ih =>
    refine .after fun op => ?_
    cases op with
    | none => exact .pure hl
    | some op =>
      refine .after fun _ => .ite ?_ ?_
      · exact .after fun _ => (join op left left hl hl).bind fun _ ho => ih _ ho
      · exact .after fun opened => (hr.binary c op.precedence).bind fun right hright =>
          (join op left ⟨right, opened⟩ hl hright).bind fun _ ho => ih _ ho

theorem privateTest {name : String} (hname : words.name (some name) = true) :
    Yields (Reader.privateTest r c name) (Expr.Fit words) := by
  refine .after fun _ => .after fun _ => (hr.binary c Infix.comparison).bind fun right hright => ?_
  split
  · exact .fail
  · exact .pure (.binary (.privateName hname) hright .inside)

theorem firstOperand (least : Nat) : Yields (Reader.firstOperand r c least) (Expr.Fit words) := by
  refine .after fun cursor => ?_
  split
  · rename_i hname
    exact .ite (hr.privateTest c (hr.covers.privateName hname)) .fail
  · exact hr.unaryExpression c

theorem binaryExpression (least : Nat) : Yields (Reader.binaryExpression r c least) (Expr.Fit words) :=
  .after fun opened => (hr.firstOperand c least).bind fun first hfirst =>
    hr.binarySteps c least _ ⟨first, opened⟩ hfirst

/-! ## Assignments -/

theorem yieldExpression : Yields (Reader.yieldExpression r c) (Expr.Fit words) := by
  have hnone : (Expr.yield .none false).Fit words := .yield (by simp) false
  refine .after fun _ => .after fun _ => .after fun _ => .ite (.pure hnone) ?_
  refine .after fun delegate => .after fun _ => .ite (.pure hnone) ?_
  refine (hr.assign _ true).bind fun e he => .pure (.yield ?_ delegate)
  rintro _ ⟨⟩
  exact he

theorem assignment (allowReturnType : Bool) (op : AssignOp) {left : Expr} (hl : left.Fit words) :
    Yields (Reader.assignment r c allowReturnType op left) (Expr.Fit words) :=
  .after fun _ => .after fun _ => (hr.assign c allowReturnType).bind fun _ he =>
    .pure (.assign hl he op)

theorem conditional (allowReturnType : Bool) {test : Expr} (ht : test.Fit words) :
    Yields (Reader.conditional r c allowReturnType test) (Expr.Fit words) := by
  refine .after fun _ => .ite ?_ (.pure ht)
  exact (hr.assign c.withIn false).bind fun _ hc => .after fun _ =>
    (hr.assign c allowReturnType).bind fun _ ha => .pure (.conditional ht hc ha)

theorem assignTail (allowReturnType : Bool) {left : Expr} (hl : left.Fit words) :
    Yields (Reader.assignTail r c allowReturnType left) (Expr.Fit words) := by
  refine .after fun cursor => ?_
  dsimp only
  split
  · exact hr.simpleArrow c hl.name false allowReturnType
  · exact hr.assignment c allowReturnType _ hl
  · exact hr.conditional c allowReturnType hl

theorem assignExpression (allowReturnType : Bool) :
    Yields (Reader.assignExpression r c allowReturnType) (Expr.Fit words) := by
  refine .after fun _ => .ite (hr.yieldExpression c) ?_
  refine (hr.arrow? c allowReturnType).bind fun found hfound => ?_
  cases found with
  | none => exact (hr.binaryExpression c 0).bind fun _ hl => hr.assignTail c allowReturnType hl
  | some e => exact .pure (hfound e rfl)

end Readers.Fit

end CustomElement.Script
