import CustomElement.Proofs.Script.Fit
import CustomElement.Proofs.Script.Vocabulary
import CustomElement.Script.Objects

/-!
# What readers give

`Yields r P` says that whatever a reader gives has the property `P`; it says nothing of where the
reader stands then, nor whether it gives anything. The laws follow the ways in which readers are put
together, down to the loops (`many`, `separated`, `templateParts`), so that what a reader yields
follows from what its parts yield. Parts whose result does not matter are passed by `after`.
-/

namespace CustomElement.Script

open CustomElement.Tree (Lexicon areQuasis)

/-- Whatever a reader gives has the property. -/
def Yields {α : Type} (r : Reader α) (P : α → Prop) : Prop :=
  ∀ c a c', r c = some (a, c') → P a

namespace Yields

variable {α β : Type} {P : α → Prop} {Q : β → Prop} {r : Reader α} {k : α → Reader β}

theorem pure {a : α} (h : P a) : Yields (pure a) P := by
  intro c b c' hb
  cases hb
  exact h

theorem fail : Yields Reader.fail P := by
  intro c a c' h
  cases h

theorem bind (h : Yields r P) (hk : ∀ a, P a → Yields (k a) Q) : Yields (r >>= k) Q := by
  intro c b c' hb
  change (r c).bind (fun x => k x.1 x.2) = some (b, c') at hb
  obtain ⟨⟨a, c₁⟩, ha, hb⟩ := Option.bind_eq_some_iff.1 hb
  exact hk a (h c a c₁ ha) c₁ b c' hb

/-- What a first reader gives does not matter. -/
theorem after (hk : ∀ a, Yields (k a) Q) : Yields (r >>= k) Q :=
  bind (P := fun _ => True) (fun _ _ _ _ => trivial) fun a _ => hk a

theorem ite {p : Prop} [Decidable p] {r' : Reader α} (h : Yields r P) (h' : Yields r' P) :
    Yields (if p then r else r') P := by
  split
  · exact h
  · exact h'

theorem some_map (h : Yields r P) : Yields (some <$> r) fun o => ∀ a ∈ o, P a := by
  rw [map_eq_pure_bind]
  refine h.bind fun a ha => .pure ?_
  rintro _ ⟨⟩
  exact ha

theorem attempt (h : Yields r P) : Yields (Reader.attempt r) fun o => ∀ a ∈ o, P a := by
  intro c o c' ho b hb
  cases hx : r c with
  | none =>
    simp only [Reader.attempt, hx, Option.some.injEq, Prod.mk.injEq] at ho
    rw [← ho.1] at hb
    cases hb
  | some x =>
    simp only [Reader.attempt, hx, Option.some.injEq, Prod.mk.injEq] at ho
    rw [← ho.1] at hb
    cases hb
    exact h c x.1 x.2 hx

/-- No result at all. -/
theorem pure_none : Yields (Pure.pure none) fun o : Option α => ∀ a ∈ o, P a :=
  .pure fun _ ha => nomatch ha

theorem pure_some {a : α} (h : P a) : Yields (Pure.pure (some a)) fun o => ∀ a ∈ o, P a :=
  .pure fun _ hb => Option.some.inj hb ▸ h

/-! ## Loops -/

theorem many {r : Reader (Option α)} (h : Yields r fun o => ∀ a ∈ o, P a) (limit : Nat) :
    Yields (Reader.many r limit) fun as => ∀ a ∈ as, P a := by
  induction limit with
  | zero => exact .fail
  | succ limit ih =>
    refine h.bind fun o ho => ?_
    cases o with
    | none => exact .pure (List.forall_mem_nil _)
    | some a => exact ih.bind fun as has => .pure (List.forall_mem_cons.2 ⟨ho a rfl, has⟩)

theorem separated (h : Yields r P) (close separator : String) (limit : Nat) :
    Yields (Reader.separated close separator r limit) fun x => ∀ a ∈ x.1, P a := by
  induction limit with
  | zero => exact .fail
  | succ limit ih =>
    refine .after fun closed => .ite (.pure (List.forall_mem_nil _)) ?_
    refine h.bind fun first hfirst => .after fun closed => ?_
    have hone : ∀ a ∈ [first], P a := List.forall_mem_singleton.2 hfirst
    refine .ite (.pure hone) (.after fun _ => .after fun closed => .ite (.pure hone) ?_)
    refine ih.bind ?_
    rintro ⟨others, trailing⟩ hothers
    exact .pure (List.forall_mem_cons.2 ⟨hfirst, hothers⟩)

/-- The expressions of a template, and the pieces behind them. -/
theorem templateParts (h : Yields r P) (limit : Nat) :
    Yields (Reader.templateParts r limit) fun x =>
      (∀ a ∈ x.1, P a) ∧ ∃ n, x.1.length = n + 1 ∧ areQuasis x.2 n = true := by
  induction limit with
  | zero => exact .fail
  | succ limit ih =>
    refine h.bind fun first hfirst => .after fun closes => ?_
    refine .ite (.bind (P := fun _ => False) .fail fun _ h => h.elim) (.after fun c => ?_)
    split
    · rename_i raw cooked tail rest hread
      have hpiece : Tree.TemplateElement.isPiece ⟨tail, raw, cooked⟩ = true :=
        Tree.TemplateElement.isPiece_iff.2 ⟨_, _, hread⟩
      refine .after fun _ => .after fun _ => ?_
      split
      · rename_i htail
        refine .pure ⟨List.forall_mem_singleton.2 hfirst, 0, rfl, ?_⟩
        rw [areQuasis, hpiece, htail]
        rfl
      · rename_i htail
        refine ih.bind ?_
        rintro ⟨others, pieces⟩ ⟨hothers, n, hlength, hpieces⟩
        refine .pure ⟨List.forall_mem_cons.2 ⟨hfirst, hothers⟩, n + 1, congrArg (· + 1) hlength, ?_⟩
        rw [areQuasis, hpiece, hpieces, Bool.eq_false_iff.2 htail]
        rfl
    · exact .fail

end Yields

/-! ## Readers of parts -/

/-- Readers of one round that give fit parts only. -/
structure Readers.Fit (words : Lexicon) (r : Readers) : Prop where
  covers : words.Covers
  assign (c : Context) (allowReturnType : Bool) : Yields (r.assign c allowReturnType) (Expr.Fit words)
  binary (c : Context) (least : Nat) : Yields (r.binary c least) (Expr.Fit words)
  unary (c : Context) : Yields (r.unary c) (Expr.Fit words)
  chain (c : Context) : Yields (r.chain c) (Expr.Fit words)
  access (c : Context) : Yields (r.access c) fun link => link.1.Fit words
  binding (c : Context) : Yields (r.binding c) (Expr.Fit words)
  statement (c : Context) (place : Place) : Yields (r.statement c place) (Stmt.Fit words)

namespace Readers.Fit

open Reader (Callable)

variable {words : Lexicon} {r : Readers} (hr : r.Fit words) (c : Context)
include hr

/-! ## Names -/

theorem anyName : Yields Reader.anyName fun w => words.name (some w) = true := by
  refine .after fun cursor => ?_
  split
  · rename_i hw
    exact .after fun _ => .pure (hr.covers.word hw)
  · exact .fail

theorem name : Yields (Reader.name c) fun w => words.name (some w) = true := by
  refine .after fun cursor => ?_
  split
  · rename_i hw
    exact .ite (.after fun _ => .after fun _ => .pure (hr.covers.word hw)) .fail
  · exact .fail

/-- The name of a function or class that has one. -/
theorem givenName : Yields (some <$> Reader.name c) fun name => words.name name = true := by
  rw [map_eq_pure_bind]
  exact (hr.name c).bind fun _ hw => .pure hw

/-! ## Keys and patterns -/

theorem computedKey : Yields (Reader.computedKey r c) (Expr.Fit words) :=
  .after fun _ => (hr.assign c.withIn true).bind fun _ he => .after fun _ => .pure he

theorem propertyKey : Yields (Reader.propertyKey r c) fun x => x.1.Fit words := by
  refine .after fun cursor => ?_
  split
  · exact .after fun _ => .pure (.literal (hr.covers.literal rfl))
  · rename_i hx
    exact .after fun _ => .pure (.literal (hr.covers.number hx))
  · rename_i hdigits
    exact .after fun _ => .pure (.literal (hr.covers.bigint hdigits))
  · exact (hr.computedKey c).bind fun _ he => .pure he
  · exact hr.anyName.bind fun _ hw => .pure (.identifier hw)

theorem withDefault {target : Expr} (ht : target.Fit words) :
    Yields (Reader.withDefault r c target) (Expr.Fit words) :=
  .after fun _ => .ite ((hr.assign c.withIn true).bind fun _ he => .pure (.assign ht he _)) (.pure ht)

theorem restBinding : Yields (Reader.restBinding r c) (Expr.Fit words) :=
  .after fun _ => hr.binding c

theorem bindingMember : Yields (Reader.bindingMember r c) (Member.Fit words) := by
  refine .after fun _ => .ite ((hr.restBinding c).bind fun target ht => ?_) ?_
  · dsimp only
    split
    · exact .pure (.spread ht)
    · exact .after fun _ => .pure (.spread ht)
  refine .after fun shorthand => (hr.propertyKey c).bind ?_
  rintro ⟨key, computed⟩ hk
  refine .after fun _ => .ite ?_ ?_
  · split
    · refine .after fun _ => .after fun _ => .ite ?_ (.pure (.pair hk hk _ _))
      exact (hr.assign c.withIn true).bind fun _ he => .pure (.defaulted he (Expr.Fit.name hk))
    · exact .fail
  · exact .after fun _ => (hr.binding c).bind fun _ ht =>
      (hr.withDefault c ht).bind fun _ he => .pure (.pair hk he _ _)

theorem bindingElement : Yields (Reader.bindingElement r c) fun o => ∀ e ∈ o, e.Fit words :=
  .after fun _ => .ite .pure_none <| .after fun _ =>
    .ite ((hr.restBinding c).bind fun _ ht => .pure_some (.spread ht)) <|
      (hr.binding c).bind fun _ ht => (hr.withDefault c ht).bind fun _ he => .pure_some he

theorem bindingPattern : Yields (Reader.bindingPattern r c) (Expr.Fit words) := by
  refine .after fun _ => .ite ?_ (.after fun _ => .ite ?_ ?_)
  · refine ((hr.bindingMember c).separated _ _ _).bind ?_
    rintro ⟨members, trailing⟩ hms
    exact .after fun _ => .after fun _ => .pure (.object hms _)
  · refine ((hr.bindingElement c).separated _ _ _).bind ?_
    rintro ⟨elements, trailing⟩ hes
    exact .after fun _ => .after fun _ => .pure (.array hes _)
  · exact (hr.name c).bind fun _ hw => .pure (.identifier hw)

/-! ## Functions -/

theorem restParameter : Yields (Reader.restParameter r c) (Expr.Fit words) :=
  (hr.restBinding c).bind fun _ ht => .after fun _ => .pure (.spread ht)

omit hr in
theorem supportedParameter {target : Expr} (ht : target.Fit words) (decorated : List String)
    (property : Option String) : (Reader.supportedParameter target decorated property).Fit words := by
  cases property with
  | some text => exact .unsupported _
  | none =>
    cases decorated with
    | nil => exact ht
    | cons text rest => exact .unsupported _

theorem parameter (owner : Callable) : Yields (Reader.parameter r c owner) (Expr.Fit words) := by
  refine .after fun cursor => .after fun decorated => .after fun given => .after fun _ =>
    .after fun _ => .ite (.after fun _ => hr.restParameter c) ?_
  refine (hr.binding c).bind fun target ht => .after fun _ => .after fun _ => .after fun _ =>
    .after fun _ => ?_
  extract_lets tail
  have htail : ∀ value : Option Expr, (∀ e ∈ value, e.Fit words) → Yields (tail value) (Expr.Fit words) := by
    intro value hv
    refine .after fun _ => .after fun text => .pure ?_
    have hbound := supportedParameter ht decorated (if given.isEmpty then .none else some text)
    cases value with
    | none => exact hbound
    | some e => exact .assign hbound (hv e rfl) _
  exact .ite ((hr.assign c.withIn true).some_map.bind htail) (Yields.pure_none.bind htail)

theorem parameters (owner : Callable) :
    Yields (Reader.parameters r c owner) fun ps => ∀ p ∈ ps, p.Fit words := by
  refine .after fun _ => .after fun _ => .after fun _ =>
    ((hr.parameter c owner).separated _ _ _).bind ?_
  rintro ⟨params, trailing⟩ hps
  exact .after fun _ => .after fun _ => .pure hps

theorem listStatement : Yields (Reader.listStatement r c) fun o => ∀ s ∈ o, s.Fit words :=
  .after fun _ => .ite .pure_none ((hr.statement c .list).bind fun _ hs => .pure_some hs)

theorem statements : Yields (Reader.statements r c) fun ss => ∀ s ∈ ss, s.Fit words :=
  (hr.listStatement c).many _

theorem bodyStatements (limit : Nat) :
    Yields (Reader.bodyStatements r c limit) fun ss => ∀ s ∈ ss, s.Fit words := by
  induction limit with
  | zero => exact .fail
  | succ limit ih =>
    refine .after fun cursor => ?_
    split
    · refine (hr.statement c .list).bind fun s hs => ?_
      split
      · exact ih.bind fun ss hss => .pure (List.forall_mem_cons.2 ⟨.directive (hr.covers.literal rfl) _, hss⟩)
      · exact (hr.statements c).bind fun ss hss => .pure (List.forall_mem_cons.2 ⟨hs, hss⟩)
    · exact hr.statements c

theorem functionBody : Yields (Reader.functionBody r c) fun ss => ∀ s ∈ ss, s.Fit words :=
  .after fun _ => (hr.bodyStatements _ _).bind fun _ hb => .after fun _ => .pure hb

/-- The parameters of a function are fit, and so is its body, if it has one. -/
theorem functionRest (owner : Callable) :
    Yields (Reader.functionRest r c owner) fun x =>
      (∀ p ∈ x.1, p.Fit words) ∧ ∀ body ∈ x.2, ∀ s ∈ body, s.Fit words := by
  refine (hr.parameters c owner).bind fun params hps => .after fun _ => .after fun _ =>
    .after fun _ => .after fun _ => .ite ?_ ?_
  · refine (hr.functionBody c).bind fun body hb => .pure ⟨hps, ?_⟩
    rintro _ ⟨⟩
    exact hb
  · exact .after fun _ => .pure ⟨hps, fun _ hb => nomatch hb⟩

theorem functionTail (async generator : Bool) :
    Yields (Reader.functionTail r c async generator) fun x =>
      (∀ p ∈ x.1, p.Fit words) ∧ ∀ body ∈ x.2, ∀ s ∈ body, s.Fit words :=
  .after fun _ => hr.functionRest _ _

omit hr in
/-- Without a body, a function is as good as empty. -/
theorem getD_body {body : Option (List Stmt)} (h : ∀ ss ∈ body, ∀ s ∈ ss, s.Fit words) :
    ∀ s ∈ body.getD [], s.Fit words := by
  cases body with
  | none => exact List.forall_mem_nil _
  | some body => exact h body rfl

theorem methodFunction (async generator : Bool) :
    Yields (Reader.methodFunction r c async generator) fun x => x.1.Fit words := by
  refine (hr.functionTail c async generator).bind ?_
  rintro ⟨params, body⟩ ⟨hps, hb⟩
  exact .pure (.mk hr.covers.noName hps (getD_body hb))

theorem constructorFunction : Yields (Reader.constructorFunction r c) fun x => x.1.Fit words := by
  refine .after fun _ => .after fun _ => .after fun _ => (hr.functionRest _ _).bind ?_
  rintro ⟨params, body⟩ ⟨hps, hb⟩
  exact .pure (.mk hr.covers.noName hps (getD_body hb))

/-! ## Arrays, objects and templates -/

theorem spreadOrAssign : Yields (Reader.spreadOrAssign r c) (Expr.Fit words) :=
  .after fun _ => .ite ((hr.assign c true).bind fun _ he => .pure (.spread he)) (hr.assign c true)

theorem arguments : Yields (Reader.arguments r c) fun es => ∀ e ∈ es, e.Fit words := by
  refine .after fun _ => ((hr.spreadOrAssign c).separated _ _ _).bind ?_
  rintro ⟨given, trailing⟩ hes
  exact .after fun _ => .pure hes

theorem arrayElement : Yields (Reader.arrayElement r c) fun o => ∀ e ∈ o, e.Fit words :=
  .after fun _ => .ite .pure_none ((hr.spreadOrAssign c).bind fun _ he => .pure_some he)

theorem arrayLiteral : Yields (Reader.arrayLiteral r c) (Expr.Fit words) := by
  refine .after fun _ => ((hr.arrayElement c.withIn).separated _ _ _).bind ?_
  rintro ⟨elements, trailing⟩ hes
  exact .after fun _ => .pure (.array hes _)

theorem anotherExpression : Yields (Reader.anotherExpression r c) fun o => ∀ e ∈ o, e.Fit words :=
  .after fun _ => .ite ((hr.assign c true).bind fun _ he => .pure_some he) .pure_none

theorem expression : Yields (Reader.expression r c) (Expr.Fit words) := by
  refine (hr.assign _ true).bind fun first hfirst => ((hr.anotherExpression _).many _).bind ?_
  exact fun others hothers => .ite (.pure hfirst)
    (.pure (.sequence (List.forall_mem_cons.2 ⟨hfirst, hothers⟩) (hr.covers.sequence (Nat.succ_ne_zero _))))

theorem templateLiteral :
    Yields (Reader.templateLiteral r c) fun x =>
      (∀ e ∈ x.2, e.Fit words) ∧ words.template x.1 x.2.length = true := by
  refine .after fun cursor => ?_
  split
  · rename_i raw cooked tail htoken
    have hpiece := Lexicon.Covers.isPiece htoken
    refine .after fun _ => ?_
    split
    · rename_i htail
      refine .pure ⟨List.forall_mem_nil _, hr.covers.template ?_⟩
      rw [List.length_nil, areQuasis, hpiece, htail]
      rfl
    · rename_i htail
      refine ((hr.expression c.withIn).templateParts _).bind ?_
      rintro ⟨expressions, pieces⟩ ⟨hes, n, hlength, hpieces⟩
      refine .pure ⟨hes, hr.covers.template ?_⟩
      dsimp only at hlength hpieces ⊢
      rw [hlength, areQuasis, hpiece, hpieces, Bool.eq_false_iff.2 htail]
      rfl
  · exact .fail

theorem plainTemplate : Yields (Reader.plainTemplate r c) (Expr.Fit words) := by
  refine (hr.templateLiteral c).bind ?_
  rintro ⟨quasis, expressions⟩ ⟨hes, hquasis⟩
  exact .after fun _ => .pure (.template hes hquasis)

theorem objectMethod {key : Expr} (hk : key.Fit words) (computed : Bool) (kind : Tree.PropertyKind)
    (async generator : Bool) :
    Yields (Reader.objectMethod r c key computed kind async generator) (Member.Fit words) := by
  refine (hr.methodFunction c async generator).bind ?_
  rintro ⟨f, complete⟩ hf
  have hm : (Member.property key (.function f) kind (kind == .init) computed false).Fit words :=
    .method hk hf kind _ computed
  refine .ite (.bind (P := fun _ => False) .fail fun _ h => h.elim) ?_
  cases kind with
  | init => exact .pure hm
  | get => exact .after fun _ => .pure hm
  | set => exact .after fun _ => .pure hm

theorem plainMember (async : Bool) : Yields (Reader.plainMember r c async) (Member.Fit words) := by
  refine .after fun generator => .after fun shorthand => (hr.propertyKey c).bind ?_
  rintro ⟨key, computed⟩ hk
  refine .after fun _ => .ite (hr.objectMethod c hk computed _ async generator) ?_
  refine .after fun _ => .after fun _ => .ite ?_ ?_
  · split
    · refine .after fun _ => .ite ?_ (.pure (.pair hk hk _ _))
      exact (hr.assign c true).bind fun _ he => .after fun _ => .pure (.defaulted he (Expr.Fit.name hk))
    · exact .fail
  · exact .after fun _ => (hr.assign c true).bind fun _ he => .pure (.pair hk he _ _)

theorem objectAccessor (kind : Tree.PropertyKind) :
    Yields (Reader.objectAccessor r c kind) (Member.Fit words) := by
  refine (hr.propertyKey c).bind ?_
  rintro ⟨key, computed⟩ hk
  exact hr.objectMethod c hk computed kind false false

theorem objectMember : Yields (Reader.objectMember r c) (Member.Fit words) := by
  refine .after fun _ => .ite ((hr.assign c true).bind fun _ he => .pure (.spread he)) ?_
  refine .after fun given => .after fun _ => .after fun _ => .ite ?_ (.after fun _ => .ite ?_ ?_)
  · exact .after fun _ => hr.objectAccessor c .get
  · exact .after fun _ => hr.objectAccessor c .set
  · exact hr.plainMember c _

theorem objectLiteral : Yields (Reader.objectLiteral r c) (Expr.Fit words) := by
  refine .after fun _ => ((hr.objectMember c.withIn).separated _ _ _).bind ?_
  rintro ⟨members, trailing⟩ hms
  exact .after fun _ => .pure (.object hms _)

end Readers.Fit

end CustomElement.Script
