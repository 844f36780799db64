import CustomElement.Proofs.Emit.Printable
import CustomElement.Script.Lowering

/-!
# Scripts whose trees can be printed

A part of a script is fit if the tree that it stands for, should there be one, has a written form. An
expression may stand for a value or for a pattern, and both count. Every construct is fit if its parts
are; only accesses after a dot need a name, and methods need a function, which the lemmas for these
(`Expr.Fit.dot`, `Member.Fit.method`) spell out.
-/

namespace CustomElement.Script

open CustomElement.Tree (Lexicon printableOption printableExprs printableElements printableTemplate
  printableMembers printableClassMembers printablePatternOption printablePatterns
  printablePatternElements printablePatternMembers printableStmts printableCases
  printableDeclarators)

/-! ## What lowering gives -/

/-- Whatever a lowering gives has the property. -/
def Gives {α : Type} (l : Lowered α) (p : α → Bool) : Prop :=
  ∀ a, l = .ok a → p a = true

namespace Gives

variable {α β : Type} {p : α → Bool} {q : β → Bool}

theorem pure {a : α} (h : p a = true) : Gives (pure a) p := by
  intro b hb
  cases hb
  exact h

theorem throw (u : Unsupported) : Gives (throw u) p := by
  intro b hb
  cases hb

theorem bind {l : Lowered α} {k : α → Lowered β} (h : Gives l p)
    (hk : ∀ a, p a = true → Gives (k a) q) : Gives (l >>= k) q := by
  intro b hb
  cases l with
  | error u => cases hb
  | ok a => exact hk a (h a rfl) b hb

end Gives

/-! ## Fit parts -/

/-- An expression whose trees, as a value and as a pattern, have a written form. -/
structure Expr.Fit (words : Lexicon) (e : Expr) : Prop where
  value : Gives e.lower (Tree.Expr.printable words)
  target : Gives e.lowerTarget (Tree.Pattern.printable words)

/-- A member whose trees, in an object and in a pattern, have a written form. -/
structure Member.Fit (words : Lexicon) (m : Member) : Prop where
  value : Gives m.lower (Tree.ObjectMember.printable words)
  target : Gives m.lowerTarget (Tree.PatternMember.printable words)

/-- A function whose tree has a written form. -/
def Func.Fit (words : Lexicon) (f : Func) : Prop :=
  Gives f.lower (Tree.Func.printable words)

/-- A class whose tree has a written form. -/
def ClassDef.Fit (words : Lexicon) (c : ClassDef) : Prop :=
  Gives c.lower (Tree.ClassDef.printable words)

/-- A member of a class whose tree has a written form. -/
def ClassMember.Fit (words : Lexicon) (m : ClassMember) : Prop :=
  Gives m.lower (Tree.ClassMember.printable words)

/-- A statement whose tree has a written form, if it has a tree. -/
def Stmt.Fit (words : Lexicon) (s : Stmt) : Prop :=
  Gives s.lower (Option.all (Tree.Stmt.printable words))

/-- A case of a `switch` whose tree has a written form. -/
def SwitchCase.Fit (words : Lexicon) (c : SwitchCase) : Prop :=
  Gives c.lower (Tree.SwitchCase.printable words)

/-- A variable whose tree has a written form. -/
def Declarator.Fit (words : Lexicon) (d : Declarator) : Prop :=
  Gives d.lower (Tree.Declarator.printable words)

/-- A module item whose tree has a written form, if it has a tree. -/
def Item.Fit (words : Lexicon) (i : Item) : Prop :=
  Gives i.lower (Option.all (Tree.Item.printable words))

theorem and_true {a b : Bool} (ha : a = true) (hb : b = true) : (a && b) = true := by
  rw [ha, hb]
  rfl

variable {words : Lexicon}

/-! ## Lists and options -/

theorem gives_lowerOption {e : Option Expr} (h : ∀ x ∈ e, x.Fit words) :
    Gives (lowerOption e) (printableOption words) := by
  cases e with
  | none => exact .pure rfl
  | some e => exact (h e rfl).value.bind fun _ he => .pure he

theorem gives_lowerExprs {es : List Expr} (h : ∀ e ∈ es, e.Fit words) :
    Gives (lowerExprs es) (printableExprs words) := by
  induction es with
  | nil => exact .pure rfl
  | cons e rest ih =>
    obtain ⟨he, hrest⟩ := List.forall_mem_cons.1 h
    exact he.value.bind fun _ he => (ih hrest).bind fun _ hrest => .pure (and_true he hrest)

theorem gives_lowerElements {es : List (Option Expr)} (h : ∀ e ∈ es, ∀ x ∈ e, x.Fit words) :
    Gives (lowerElements es) (printableElements words) := by
  induction es with
  | nil => exact .pure rfl
  | cons e rest ih =>
    obtain ⟨he, hrest⟩ := List.forall_mem_cons.1 h
    exact (gives_lowerOption he).bind fun _ he =>
      (ih hrest).bind fun _ hrest => .pure (and_true he hrest)

theorem gives_lowerTargetOption {e : Option Expr} (h : ∀ x ∈ e, x.Fit words) :
    Gives (lowerTargetOption e) (printablePatternOption words) := by
  cases e with
  | none => exact .pure rfl
  | some e => exact (h e rfl).target.bind fun _ he => .pure he

theorem gives_lowerTargets {es : List Expr} (h : ∀ e ∈ es, e.Fit words) :
    Gives (lowerTargets es) (printablePatterns words) := by
  induction es with
  | nil => exact .pure rfl
  | cons e rest ih =>
    obtain ⟨he, hrest⟩ := List.forall_mem_cons.1 h
    exact he.target.bind fun _ he => (ih hrest).bind fun _ hrest => .pure (and_true he hrest)

theorem gives_lowerTargetElements {es : List (Option Expr)} (h : ∀ e ∈ es, ∀ x ∈ e, x.Fit words) :
    Gives (lowerTargetElements es) (printablePatternElements words) := by
  induction es with
  | nil => exact .pure rfl
  | cons e rest ih =>
    obtain ⟨he, hrest⟩ := List.forall_mem_cons.1 h
    exact (gives_lowerTargetOption he).bind fun _ he =>
      (ih hrest).bind fun _ hrest => .pure (and_true he hrest)

theorem gives_lowerMembers {ms : List Member} (h : ∀ m ∈ ms, m.Fit words) :
    Gives (lowerMembers ms) (printableMembers words) := by
  induction ms with
  | nil => exact .pure rfl
  | cons m rest ih =>
    obtain ⟨hm, hrest⟩ := List.forall_mem_cons.1 h
    exact hm.value.bind fun _ hm => (ih hrest).bind fun _ hrest => .pure (and_true hm hrest)

theorem gives_lowerTargetMembers {ms : List Member} (h : ∀ m ∈ ms, m.Fit words) :
    Gives (lowerTargetMembers ms) (printablePatternMembers words) := by
  induction ms with
  | nil => exact .pure rfl
  | cons m rest ih =>
    obtain ⟨hm, hrest⟩ := List.forall_mem_cons.1 h
    exact hm.target.bind fun _ hm => (ih hrest).bind fun _ hrest => .pure (and_true hm hrest)

theorem gives_lowerClassMembers {ms : List ClassMember} (h : ∀ m ∈ ms, m.Fit words) :
    Gives (lowerClassMembers ms) (printableClassMembers words) := by
  induction ms with
  | nil => exact .pure rfl
  | cons m rest ih =>
    obtain ⟨hm, hrest⟩ := List.forall_mem_cons.1 h
    exact hm.bind fun _ hm => (ih hrest).bind fun _ hrest => .pure (and_true hm hrest)

/-- A statement without a tree leaves a list as it is. -/
theorem printableStmts_toList_append {s : Option Tree.Stmt} {ss : List Tree.Stmt}
    (hs : s.all (Tree.Stmt.printable words) = true) (hss : printableStmts words ss = true) :
    printableStmts words (s.toList ++ ss) = true := by
  cases s with
  | none => exact hss
  | some s => exact and_true hs hss

theorem gives_lowerStmts {ss : List Stmt} (h : ∀ s ∈ ss, s.Fit words) :
    Gives (lowerStmts ss) (printableStmts words) := by
  induction ss with
  | nil => exact .pure rfl
  | cons s rest ih =>
    obtain ⟨hs, hrest⟩ := List.forall_mem_cons.1 h
    exact hs.bind fun _ hs =>
      (ih hrest).bind fun _ hrest => .pure (printableStmts_toList_append hs hrest)

theorem gives_lowerCases {cs : List SwitchCase} (h : ∀ c ∈ cs, c.Fit words) :
    Gives (lowerCases cs) (printableCases words) := by
  induction cs with
  | nil => exact .pure rfl
  | cons c rest ih =>
    obtain ⟨hc, hrest⟩ := List.forall_mem_cons.1 h
    exact hc.bind fun _ hc => (ih hrest).bind fun _ hrest => .pure (and_true hc hrest)

theorem gives_lowerDeclarators {ds : List Declarator} (h : ∀ d ∈ ds, d.Fit words) :
    Gives (lowerDeclarators ds) (printableDeclarators words) := by
  induction ds with
  | nil => exact .pure rfl
  | cons d rest ih =>
    obtain ⟨hd, hrest⟩ := List.forall_mem_cons.1 h
    exact hd.bind fun _ hd => (ih hrest).bind fun _ hrest => .pure (and_true hd hrest)

theorem printableTemplate_of_printableExprs {es : List Tree.Expr} (h : printableExprs words es = true)
    (quasis : List Tree.TemplateElement) : printableTemplate words quasis es = true := by
  induction es generalizing quasis with
  | nil => cases quasis <;> rfl
  | cons e rest ih =>
    obtain ⟨he, hrest⟩ := Bool.and_eq_true_iff.1 h
    cases quasis with
    | nil => rfl
    | cons q quasis => exact and_true he (ih hrest quasis)

/-- As many expressions are given as there are trees of them. -/
theorem length_lowerExprs {es : List Expr} {trees : List Tree.Expr} (h : lowerExprs es = .ok trees) :
    trees.length = es.length := by
  induction es generalizing trees with
  | nil =>
    cases h
    rfl
  | cons e rest ih =>
    rw [lowerExprs] at h
    cases he : e.lower with
    | error u =>
      rw [he] at h
      cases h
    | ok tree =>
      cases hrest : lowerExprs rest with
      | error u =>
        rw [he, hrest] at h
        cases h
      | ok others =>
        rw [he, hrest] at h
        cases h
        exact congrArg (· + 1) (ih hrest)

/-- The expressions of a list, of which there are as many as may be. -/
theorem gives_lowerExprs_length {es : List Expr} (h : ∀ e ∈ es, e.Fit words) {p : Nat → Bool}
    (hp : p es.length = true) :
    Gives (lowerExprs es) fun trees => p trees.length && printableExprs words trees := by
  intro trees htrees
  exact and_true ((congrArg p (length_lowerExprs htrees)).trans hp) (gives_lowerExprs h trees htrees)

theorem gives_lowerTemplate {es : List Expr} {quasis : List Tree.TemplateElement}
    (h : ∀ e ∈ es, e.Fit words) (hq : words.template quasis es.length = true) :
    Gives (lowerExprs es) fun trees =>
      words.template quasis trees.length && printableTemplate words quasis trees := by
  intro trees htrees
  obtain ⟨hcount, htrees⟩ :=
    Bool.and_eq_true_iff.1 (gives_lowerExprs_length h (p := words.template quasis) hq trees htrees)
  exact and_true hcount (printableTemplate_of_printableExprs htrees quasis)

theorem printable_orEmpty {s : Option Tree.Stmt} (h : s.all (Tree.Stmt.printable words) = true) :
    (orEmpty s).printable words = true := by
  cases s with
  | none => rfl
  | some s => exact h

/-! ## Expressions -/

namespace Expr.Fit

theorem identifier {name : String} (h : words.name (some name) = true) :
    (Expr.identifier name).Fit words :=
  ⟨.pure h, .pure h⟩

theorem name {name : String} (h : (Expr.identifier name).Fit words) : words.name (some name) = true :=
  h.value _ rfl

theorem privateName {name : String} (h : words.name (some name) = true) :
    (Expr.privateName name).Fit words :=
  ⟨.pure h, .throw _⟩

theorem literal {value : Tree.Literal} (h : words.literal value = true) :
    (Expr.literal value).Fit words :=
  ⟨.pure h, .throw _⟩

theorem thisRef : Expr.thisRef.Fit words :=
  ⟨.pure rfl, .throw _⟩

theorem superRef : Expr.superRef.Fit words :=
  ⟨.pure rfl, .throw _⟩

theorem metaProperty {object property : String} (ho : words.name (some object) = true)
    (hp : words.name (some property) = true) : (Expr.metaProperty object property).Fit words :=
  ⟨.pure (and_true ho hp), .throw _⟩

theorem unsupported (construct : Unsupported) : (Expr.unsupported construct).Fit words :=
  ⟨.throw _, .throw _⟩

theorem array {elements : List (Option Expr)} (h : ∀ e ∈ elements, ∀ x ∈ e, x.Fit words)
    (trailing : Bool) : (Expr.array elements trailing).Fit words :=
  ⟨(gives_lowerElements h).bind fun _ hes => .pure hes,
    (gives_lowerTargetElements h).bind fun _ hes => .pure hes⟩

theorem object {members : List Member} (h : ∀ m ∈ members, m.Fit words) (trailing : Bool) :
    (Expr.object members trailing).Fit words :=
  ⟨(gives_lowerMembers h).bind fun _ hms => .pure hms,
    (gives_lowerTargetMembers h).bind fun _ hms => .pure hms⟩

theorem function {f : Func} (h : f.Fit words) : (Expr.function f).Fit words :=
  ⟨h.bind fun _ hf => .pure hf, .throw _⟩

theorem arrow {params : List Expr} {body : Expr} (hparams : ∀ p ∈ params, p.Fit words) (hbody : body.Fit words)
    (async : Bool) : (Expr.arrow params body async).Fit words :=
  ⟨hbody.value.bind fun _ hb =>
    (gives_lowerTargets hparams).bind fun _ hps => .pure (and_true hps hb), .throw _⟩

theorem arrowBlock {params : List Expr} {body : List Stmt} (hparams : ∀ p ∈ params, p.Fit words)
    (hbody : ∀ s ∈ body, s.Fit words) (async : Bool) : (Expr.arrowBlock params body async).Fit words :=
  ⟨(gives_lowerStmts hbody).bind fun _ hb =>
    (gives_lowerTargets hparams).bind fun _ hps => .pure (and_true hps hb), .throw _⟩

theorem classDef {c : ClassDef} (h : c.Fit words) : (Expr.classDef c).Fit words :=
  ⟨h.bind fun _ hc => .pure hc, .throw _⟩

theorem template {expressions : List Expr} {quasis : List Tree.TemplateElement}
    (h : ∀ e ∈ expressions, e.Fit words) (hq : words.template quasis expressions.length = true) :
    (Expr.template quasis expressions).Fit words :=
  ⟨(gives_lowerTemplate h hq).bind fun _ hes => .pure hes, .throw _⟩

theorem tagged {tag : Expr} {expressions : List Expr} {quasis : List Tree.TemplateElement}
    (htag : tag.Fit words) (h : ∀ e ∈ expressions, e.Fit words)
    (hq : words.template quasis expressions.length = true) :
    (Expr.tagged tag quasis expressions).Fit words :=
  ⟨htag.value.bind fun _ ht => (gives_lowerTemplate h hq).bind fun _ hes =>
    .pure (and_true ht hes), .throw _⟩

theorem unary {argument : Expr} (h : argument.Fit words) (op : Tree.UnaryOp) :
    (Expr.unary op argument).Fit words :=
  ⟨h.value.bind fun _ ha => .pure ha, .throw _⟩

theorem update {argument : Expr} (h : argument.Fit words) (op : Tree.UpdateOp) (before : Bool) :
    (Expr.update op before argument).Fit words :=
  ⟨h.value.bind fun _ ha => .pure ha, .throw _⟩

theorem binary {left right : Expr} (hl : left.Fit words) (hr : right.Fit words) (op : Tree.BinaryOp) :
    (Expr.binary op left right).Fit words :=
  ⟨hl.value.bind fun _ hl => hr.value.bind fun _ hr => .pure (and_true hl hr), .throw _⟩

theorem logical {left right : Expr} (hl : left.Fit words) (hr : right.Fit words) (op : Tree.LogicalOp) :
    (Expr.logical op left right).Fit words :=
  ⟨hl.value.bind fun _ hl => hr.value.bind fun _ hr => .pure (and_true hl hr), .throw _⟩

theorem assign {left right : Expr} (hl : left.Fit words) (hr : right.Fit words) (op : Tree.AssignOp) :
    (Expr.assign op left right).Fit words :=
  ⟨hl.target.bind fun _ hl => hr.value.bind fun _ hr => .pure (and_true hl hr),
    hl.target.bind fun _ hl => hr.value.bind fun _ hr => .pure (and_true hl hr)⟩

theorem conditional {test consequent alternate : Expr} (ht : test.Fit words) (hc : consequent.Fit words)
    (ha : alternate.Fit words) : (Expr.conditional test consequent alternate).Fit words :=
  ⟨ht.value.bind fun _ ht => hc.value.bind fun _ hc => ha.value.bind fun _ ha =>
    .pure (and_true ht (and_true hc ha)), .throw _⟩

/-- An access by an expression in brackets. -/
theorem index {object property : Expr} (ho : object.Fit words) (hp : property.Fit words) (optional : Bool) :
    (Expr.member object property true optional).Fit words :=
  ⟨ho.value.bind fun _ ho => hp.value.bind fun _ hp => .pure (and_true ho hp),
    ho.value.bind fun _ ho => hp.value.bind fun _ hp => .pure (and_true ho hp)⟩

/-- An access by a name, be it a private one. -/
theorem dot {object property : Expr} (ho : object.Fit words)
    (hp : ∃ name, words.name (some name) = true ∧ (property = .identifier name ∨ property = .privateName name))
    (optional : Bool) : (Expr.member object property false optional).Fit words := by
  have hname : Gives property.lower fun p => p.isDotName && p.printable words := by
    obtain ⟨name, hname, rfl | rfl⟩ := hp <;> exact .pure (and_true rfl hname)
  exact ⟨ho.value.bind fun _ ho => hname.bind fun _ hp => .pure (and_true ho hp),
    ho.value.bind fun _ ho => hname.bind fun _ hp => .pure (and_true ho hp)⟩

theorem call {callee : Expr} {arguments : List Expr} (hc : callee.Fit words)
    (h : ∀ e ∈ arguments, e.Fit words) (optional : Bool) : (Expr.call callee arguments optional).Fit words :=
  ⟨hc.value.bind fun _ hc => (gives_lowerExprs h).bind fun _ has => .pure (and_true hc has),
    .throw _⟩

theorem new {callee : Expr} {arguments : List Expr} (hc : callee.Fit words)
    (h : ∀ e ∈ arguments, e.Fit words) : (Expr.new callee arguments).Fit words :=
  ⟨hc.value.bind fun _ hc => (gives_lowerExprs h).bind fun _ has => .pure (and_true hc has),
    .throw _⟩

theorem sequence {expressions : List Expr} (h : ∀ e ∈ expressions, e.Fit words)
    (hcount : words.sequence expressions.length = true) : (Expr.sequence expressions).Fit words :=
  ⟨(gives_lowerExprs_length h (p := words.sequence) hcount).bind fun _ hes => .pure hes, .throw _⟩

theorem spread {argument : Expr} (h : argument.Fit words) : (Expr.spread argument).Fit words :=
  ⟨h.value.bind fun _ ha => .pure ha, h.target.bind fun _ ha => .pure ha⟩

theorem await {argument : Expr} (h : argument.Fit words) : (Expr.await argument).Fit words :=
  ⟨h.value.bind fun _ ha => .pure ha, .throw _⟩

theorem yield {argument : Option Expr} (h : ∀ e ∈ argument, e.Fit words) (delegate : Bool) :
    (Expr.yield argument delegate).Fit words :=
  ⟨(gives_lowerOption h).bind fun _ ha => .pure ha, .throw _⟩

theorem chain {expression : Expr} (h : expression.Fit words) : (Expr.chain expression).Fit words :=
  ⟨h.value.bind fun _ he => .pure he, .throw _⟩

theorem importCall {source : Expr} (h : source.Fit words) : (Expr.importCall source).Fit words :=
  ⟨h.value.bind fun _ hs => .pure hs, .throw _⟩

theorem wrapped {expression : Expr} (h : expression.Fit words) (wrapper : Wrapper) :
    (Expr.wrapped wrapper expression).Fit words :=
  ⟨h.value, h.target⟩

/-- What a wrapper is put around is as fit as the whole. -/
theorem of_wrapped {expression : Expr} {wrapper : Wrapper}
    (h : (Expr.wrapped wrapper expression).Fit words) : expression.Fit words :=
  ⟨h.value, h.target⟩

end Expr.Fit

/-! ## Members, functions and classes -/

theorem printable_patternProperty {k : Tree.Expr} {v : Tree.Pattern} (hk : k.printable words = true)
    (hv : v.printable words = true) (computed shorthand : Bool) :
    (Tree.PatternMember.property k v computed shorthand).printable words = true := by
  rw [Tree.PatternMember.printable]
  split
  · exact hv
  · exact and_true hk hv

theorem printable_objectProperty {k v : Tree.Expr} {kind : Tree.PropertyKind} {method : Bool}
    (hk : k.printable words = true) (hv : v.printable words = true)
    (hm : (kind != .init || method) = true → v.printableMethod words = true) (computed shorthand : Bool) :
    (Tree.ObjectMember.property k v kind method computed shorthand).printable words = true := by
  rw [Tree.ObjectMember.printable]
  split
  case isTrue h => exact and_true hk (hm h)
  case isFalse =>
    split
    · exact hk
    · exact and_true hk hv

namespace Member.Fit

/-- A key and its value. -/
theorem pair {key value : Expr} (hk : key.Fit words) (hv : value.Fit words) (computed shorthand : Bool) :
    (Member.property key value .init false computed shorthand).Fit words :=
  ⟨hk.value.bind fun k hk => hv.value.bind fun v hv =>
      .pure (printable_objectProperty hk hv (fun h => by cases h) computed shorthand),
    hk.value.bind fun k hk => hv.target.bind fun v hv =>
      .pure (printable_patternProperty hk hv computed shorthand)⟩

/-- A method or accessor, whose value is a function. -/
theorem method {key : Expr} {f : Func} (hk : key.Fit words) (hf : f.Fit words) (kind : Tree.PropertyKind)
    (isMethod computed : Bool) :
    (Member.property key (.function f) kind isMethod computed false).Fit words := by
  have hm : Gives (Expr.function f).lower fun v => v.printable words && v.printableMethod words :=
    hf.bind fun _ hf => .pure (and_true hf hf)
  refine ⟨hk.value.bind fun k hk => hm.bind fun v hv => .pure ?_,
    hk.value.bind fun k hk => (Expr.Fit.function hf).target.bind fun v hv =>
      .pure (printable_patternProperty hk hv computed false)⟩
  obtain ⟨hv, hvm⟩ := Bool.and_eq_true_iff.1 hv
  exact printable_objectProperty hk hv (fun _ => hvm) computed false

theorem defaulted {value : Expr} {name : String} (h : value.Fit words)
    (hname : words.name (some name) = true) : (Member.defaulted name value).Fit words := by
  have hkey : (Tree.Expr.identifier name).printable words = true := hname
  have htarget : (Tree.Pattern.identifier name).printable words = true := hname
  exact ⟨.pure (printable_objectProperty hkey hkey (fun h => by cases h) false true),
    h.value.bind fun _ hv => .pure
      (printable_patternProperty (v := .withDefault _ _) hkey (and_true htarget hv) false true)⟩

theorem spread {argument : Expr} (h : argument.Fit words) : (Member.spread argument).Fit words :=
  ⟨h.value.bind fun _ ha => .pure ha, h.target.bind fun _ ha => .pure ha⟩

end Member.Fit

theorem Func.Fit.mk {name : Option String} {params : List Expr} {body : List Stmt}
    {generator async : Bool} (hname : words.name name = true) (hparams : ∀ p ∈ params, p.Fit words)
    (hbody : ∀ s ∈ body, s.Fit words) : (Func.mk name params body generator async).Fit words :=
  (gives_lowerStmts hbody).bind fun _ hb =>
    (gives_lowerTargets hparams).bind fun _ hps => .pure (and_true hname (and_true hps hb))

theorem ClassDef.Fit.mk {name : Option String} {superclass : Option Expr}
    {members : List ClassMember} (hname : words.name name = true)
    (hsuper : ∀ e ∈ superclass, e.Fit words) (h : ∀ m ∈ members, m.Fit words) :
    (ClassDef.mk name superclass members).Fit words :=
  (gives_lowerClassMembers h).bind fun _ hms =>
    (gives_lowerOption hsuper).bind fun _ hs => .pure (and_true hname (and_true hs hms))

namespace ClassMember.Fit

theorem method {key : Expr} {f : Func} (hk : key.Fit words) (hf : f.Fit words) (kind : Tree.MethodKind)
    (computed isStatic : Bool) : (ClassMember.method key f kind computed isStatic).Fit words :=
  hk.value.bind fun _ hk => hf.bind fun _ hf => .pure (and_true hk hf)

theorem field {key : Expr} {value : Option Expr} (hk : key.Fit words) (hv : ∀ e ∈ value, e.Fit words)
    (computed isStatic : Bool) : (ClassMember.field key value computed isStatic).Fit words :=
  hk.value.bind fun _ hk => (gives_lowerOption hv).bind fun _ hv => .pure (and_true hk hv)

theorem staticBlock {body : List Stmt} (h : ∀ s ∈ body, s.Fit words) :
    (ClassMember.staticBlock body).Fit words :=
  (gives_lowerStmts h).bind fun _ hb => .pure hb

theorem unsupported (construct : Unsupported) : (ClassMember.unsupported construct).Fit words :=
  .throw _

end ClassMember.Fit

theorem SwitchCase.Fit.mk {test : Option Expr} {body : List Stmt} (ht : ∀ e ∈ test, e.Fit words)
    (hb : ∀ s ∈ body, s.Fit words) : (SwitchCase.mk test body).Fit words :=
  (gives_lowerOption ht).bind fun _ ht => (gives_lowerStmts hb).bind fun _ hb =>
    .pure (and_true ht hb)

theorem Declarator.Fit.mk {target : Expr} {init : Option Expr} (ht : target.Fit words)
    (hi : ∀ e ∈ init, e.Fit words) : (Declarator.mk target init).Fit words :=
  ht.target.bind fun _ ht => (gives_lowerOption hi).bind fun _ hi => .pure (and_true ht hi)

/-! ## Statements -/

namespace Stmt.Fit

theorem expression {e : Expr} (h : e.Fit words) : (Stmt.expression e).Fit words :=
  h.value.bind fun _ he => .pure he

theorem directive {value : String} (h : words.literal (.string value) = true) (raw : String) :
    (Stmt.directive value raw).Fit words :=
  .pure h

theorem block {body : List Stmt} (h : ∀ s ∈ body, s.Fit words) : (Stmt.block body).Fit words :=
  (gives_lowerStmts h).bind fun _ hb => .pure hb

theorem empty : Stmt.empty.Fit words :=
  .pure rfl

theorem debugger : Stmt.debugger.Fit words :=
  .pure rfl

theorem «return» {argument : Option Expr} (h : ∀ e ∈ argument, e.Fit words) :
    (Stmt.return argument).Fit words :=
  (gives_lowerOption h).bind fun _ ha => .pure ha

theorem labeled {body : Stmt} {label : String} (h : body.Fit words)
    (hlabel : words.name (some label) = true) : (Stmt.labeled label body).Fit words :=
  h.bind fun _ hb => .pure (and_true hlabel (printable_orEmpty hb))

theorem «break» {label : Option String} (h : words.name label = true) : (Stmt.break label).Fit words :=
  .pure h

theorem «continue» {label : Option String} (h : words.name label = true) :
    (Stmt.continue label).Fit words :=
  .pure h

theorem «if» {test : Expr} {consequent : Stmt} (ht : test.Fit words) (hc : consequent.Fit words) :
    (Stmt.if test consequent).Fit words :=
  ht.value.bind fun _ ht => hc.bind fun _ hc => .pure (and_true ht (printable_orEmpty hc))

theorem ifElse {test : Expr} {consequent alternate : Stmt} (ht : test.Fit words) (hc : consequent.Fit words)
    (ha : alternate.Fit words) : (Stmt.ifElse test consequent alternate).Fit words :=
  ht.value.bind fun _ ht => hc.bind fun _ hc => ha.bind fun _ ha =>
    .pure (and_true ht (and_true (printable_orEmpty hc) (printable_orEmpty ha)))

theorem switch {discriminant : Expr} {cases : List SwitchCase} (hd : discriminant.Fit words)
    (h : ∀ c ∈ cases, c.Fit words) : (Stmt.switch discriminant cases).Fit words :=
  (gives_lowerCases h).bind fun _ hcs => hd.value.bind fun _ hd => .pure (and_true hd hcs)

theorem throw {argument : Expr} (h : argument.Fit words) : (Stmt.throw argument).Fit words :=
  h.value.bind fun _ ha => .pure ha

theorem tryCatch {block handler : List Stmt} {param : Option Expr} (hb : ∀ s ∈ block, s.Fit words)
    (hp : ∀ e ∈ param, e.Fit words) (hh : ∀ s ∈ handler, s.Fit words) :
    (Stmt.tryCatch block param handler).Fit words :=
  (gives_lowerTargetOption hp).bind fun _ hp => (gives_lowerStmts hh).bind fun _ hh =>
    (gives_lowerStmts hb).bind fun _ hb => .pure (and_true hb (and_true hp hh))

theorem tryFinally {block finalizer : List Stmt} (hb : ∀ s ∈ block, s.Fit words)
    (hf : ∀ s ∈ finalizer, s.Fit words) : (Stmt.tryFinally block finalizer).Fit words :=
  (gives_lowerStmts hf).bind fun _ hf => (gives_lowerStmts hb).bind fun _ hb =>
    .pure (and_true hb hf)

theorem tryCatchFinally {block handler finalizer : List Stmt} {param : Option Expr}
    (hb : ∀ s ∈ block, s.Fit words) (hp : ∀ e ∈ param, e.Fit words) (hh : ∀ s ∈ handler, s.Fit words)
    (hf : ∀ s ∈ finalizer, s.Fit words) : (Stmt.tryCatchFinally block param handler finalizer).Fit words :=
  (gives_lowerTargetOption hp).bind fun _ hp => (gives_lowerStmts hh).bind fun _ hh =>
    (gives_lowerStmts hf).bind fun _ hf => (gives_lowerStmts hb).bind fun _ hb =>
      .pure (and_true hb (and_true hp (and_true hh hf)))

theorem «while» {test : Expr} {body : Stmt} (ht : test.Fit words) (hb : body.Fit words) :
    (Stmt.while test body).Fit words :=
  ht.value.bind fun _ ht => hb.bind fun _ hb => .pure (and_true ht (printable_orEmpty hb))

theorem doWhile {test : Expr} {body : Stmt} (ht : test.Fit words) (hb : body.Fit words) :
    (Stmt.doWhile test body).Fit words :=
  ht.value.bind fun _ ht => hb.bind fun _ hb => .pure (and_true (printable_orEmpty hb) ht)

theorem «for» {init test update : Option Expr} {body : Stmt} (hi : ∀ e ∈ init, e.Fit words)
    (ht : ∀ e ∈ test, e.Fit words) (hu : ∀ e ∈ update, e.Fit words) (hb : body.Fit words) :
    (Stmt.for init test update body).Fit words :=
  (gives_lowerOption hi).bind fun _ hi => (gives_lowerOption ht).bind fun _ ht =>
    (gives_lowerOption hu).bind fun _ hu => hb.bind fun _ hb =>
      .pure (and_true hi (and_true ht (and_true hu (printable_orEmpty hb))))

theorem forVariables {declarations : List Declarator} {test update : Option Expr} {body : Stmt}
    (hds : ∀ d ∈ declarations, d.Fit words) (ht : ∀ e ∈ test, e.Fit words) (hu : ∀ e ∈ update, e.Fit words)
    (hb : body.Fit words) (kind : Tree.VariableKind) :
    (Stmt.forVariables kind declarations test update body).Fit words :=
  (gives_lowerDeclarators hds).bind fun _ hds => (gives_lowerOption ht).bind fun _ ht =>
    (gives_lowerOption hu).bind fun _ hu => hb.bind fun _ hb =>
      .pure (and_true hds (and_true ht (and_true hu (printable_orEmpty hb))))

theorem forEach {left right : Expr} {body : Stmt} (hl : left.Fit words) (hr : right.Fit words) (hb : body.Fit words)
    (loop : Tree.LoopKind) (await : Bool) : (Stmt.forEach loop left right body await).Fit words :=
  hl.target.bind fun _ hl => hr.value.bind fun _ hr => hb.bind fun _ hb =>
    .pure (and_true hl (and_true hr (printable_orEmpty hb)))

theorem forEachVariable {declarations : List Declarator} {right : Expr} {body : Stmt}
    (hds : ∀ d ∈ declarations, d.Fit words) (hr : right.Fit words) (hb : body.Fit words) (loop : Tree.LoopKind)
    (kind : Tree.VariableKind) (await : Bool) :
    (Stmt.forEachVariable loop kind declarations right body await).Fit words :=
  (gives_lowerDeclarators hds).bind fun _ hds => hr.value.bind fun _ hr => hb.bind fun _ hb =>
    .pure (and_true hds (and_true hr (printable_orEmpty hb)))

theorem declared {declarations : List Declarator} (h : ∀ d ∈ declarations, d.Fit words)
    (kind : Tree.VariableKind) : (Stmt.variables kind declarations).Fit words :=
  (gives_lowerDeclarators h).bind fun _ hds => .pure hds

theorem function {f : Func} (h : f.Fit words) : (Stmt.function f).Fit words :=
  h.bind fun _ hf => .pure hf

theorem classDef {c : ClassDef} (h : c.Fit words) : (Stmt.classDef c).Fit words :=
  h.bind fun _ hc => .pure hc

theorem erased : Stmt.erased.Fit words :=
  .pure rfl

theorem unsupported (construct : Unsupported) : (Stmt.unsupported construct).Fit words :=
  Gives.throw _

end Stmt.Fit

/-! ## Module items -/

namespace Item.Fit

theorem «import» {i : Tree.Import} (h : i.printable words = true) : (Item.import i).Fit words :=
  .pure h

theorem exportClauses {clauses : List Tree.ExportClause}
    (h : ∀ c ∈ clauses, c.printable words = true) {source : Option String}
    (hsource : ∀ s ∈ source, words.literal (.string s) = true) :
    (Item.exportClauses clauses source).Fit words := by
  refine .pure (and_true (List.all_eq_true.2 h) ?_)
  cases source with
  | none => rfl
  | some s => exact hsource s rfl

theorem exportDeclaration {declaration : Stmt} (h : declaration.Fit words) :
    (Item.exportDeclaration declaration).Fit words := by
  refine h.bind fun s hs => .pure ?_
  cases s with
  | none => rfl
  | some s =>
    cases s with
    | function f => exact hs
    | classDef c => exact hs
    | «variables» kind declarations => exact hs
    | _ => rfl

theorem exportFunction {f : Func} (h : f.Fit words) : (Item.exportFunction f).Fit words :=
  h.bind fun _ hf => .pure hf

theorem exportClass {c : ClassDef} (h : c.Fit words) : (Item.exportClass c).Fit words :=
  h.bind fun _ hc => .pure hc

theorem exportExpression {e : Expr} (h : e.Fit words) : (Item.exportExpression e).Fit words :=
  h.value.bind fun _ he => .pure he

theorem exportAll {source : String} {exported : Option Tree.ExportName}
    (hsource : words.literal (.string source) = true) (h : ∀ n ∈ exported, n.printable words = true) :
    (Item.exportAll source exported).Fit words := by
  refine .pure (and_true hsource ?_)
  cases exported with
  | none => rfl
  | some n => exact h n rfl

theorem statement {s : Stmt} (h : s.Fit words) : (Item.statement s).Fit words := by
  refine h.bind fun s hs => .pure ?_
  cases s with
  | none => rfl
  | some s => exact hs

end Item.Fit

/-- The trees of fit items have a written form. -/
theorem gives_lowerItems {items : List Item} (h : ∀ i ∈ items, i.Fit words) :
    Gives (lowerItems items) (List.all · (Tree.Item.printable words)) := by
  induction items with
  | nil => exact .pure rfl
  | cons i rest ih =>
    obtain ⟨hi, hrest⟩ := List.forall_mem_cons.1 h
    refine hi.bind fun i hi => (ih hrest).bind fun is his => .pure ?_
    cases i with
    | none => exact his
    | some i => exact and_true hi his

end CustomElement.Script
