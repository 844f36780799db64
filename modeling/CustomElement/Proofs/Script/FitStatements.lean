import CustomElement.Proofs.Script.FitExpressions
import CustomElement.Script.Parse

/-!
# Whatever parses can be printed

What the readers of declarations, module items and statements give is fit, if the readers of the round
before give fit parts. So the readers of every round do (`readers_fit`), and the trees of a module that
parses have a written form, in which nothing stands that a script cannot spell (`parseModule_covered`).
-/

namespace CustomElement.Script

open CustomElement.Tree (VariableKind LoopKind Lexicon)

/-- A name in braces that can be written, and so can its other name. -/
structure Reader.Specifier.Fit (words : Lexicon) (s : Reader.Specifier) : Prop where
  name : s.name.printable words = true
  otherName : ∀ n ∈ s.otherName, n.printable words = true

/-- The name on the other side. -/
theorem Reader.Specifier.Fit.bound {words : Lexicon} {s : Reader.Specifier} (h : s.Fit words) :
    (s.otherName.getD s.name).printable words = true := by
  cases hother : s.otherName with
  | none => exact h.name
  | some n => exact h.otherName n hother

namespace Readers.Fit

open Reader (LoopStart Specifier ImportMode)

variable {words : Lexicon} {r : Readers} (hr : r.Fit words) (c : Context)

/-! ## Declarations -/

include hr

theorem declarator : Yields (Reader.declarator r c) (Declarator.Fit words) := by
  refine (hr.binding c).bind fun target ht => ?_
  extract_lets tail
  have htail : ∀ u, Yields (tail u) (Declarator.Fit words) := fun _ =>
    .after fun _ => .after fun _ => .ite ((hr.assign c true).bind fun _ he =>
      .pure (.mk ht fun _ hv => Option.some.inj hv ▸ he)) (.pure (.mk ht (by simp)))
  exact .ite (.after htail) (htail ())

theorem anotherDeclarator : Yields (Reader.anotherDeclarator r c) fun o => ∀ d ∈ o, d.Fit words :=
  .after fun _ => .ite ((hr.declarator c).bind fun _ hd => .pure_some hd) .pure_none

theorem declarators : Yields (Reader.declarators r c) fun ds => ∀ d ∈ ds, d.Fit words :=
  (hr.declarator c).bind fun _ hd => ((hr.anotherDeclarator c).many _).bind fun _ hds =>
    .pure (List.forall_mem_cons.2 ⟨hd, hds⟩)

theorem variableStatement (kind : VariableKind) :
    Yields (Reader.variableStatement r c kind) (Stmt.Fit words) :=
  .after fun _ => (hr.declarators c).bind fun _ hds => .after fun _ => .after fun _ =>
    .pure (.declared hds kind)

theorem functionDeclaration (nameless async : Bool) :
    Yields (Reader.functionDeclaration r c nameless async) fun o => ∀ f ∈ o, f.Fit words := by
  refine .after fun _ => .after fun generator => .after fun named => ?_
  extract_lets tail
  have htail : ∀ name, words.name name = true → Yields (tail name) fun o => ∀ f ∈ o, f.Fit words := by
    intro name hname
    refine (hr.functionTail c async generator).bind ?_
    rintro ⟨params, body⟩ ⟨hps, hb⟩
    refine .pure fun f hf => ?_
    obtain ⟨body, rfl, rfl⟩ := Option.map_eq_some_iff.1 hf
    exact .mk hname hps (hb body rfl)
  exact .ite ((hr.givenName c).bind htail) (.bind (.pure hr.covers.noName) htail)

theorem functionStatement (async declared : Bool) :
    Yields (Reader.functionStatement r c async declared) (Stmt.Fit words) := by
  refine (hr.functionDeclaration c false async).bind fun f hf => ?_
  cases f with
  | none => exact .pure .erased
  | some f => exact .after fun _ => .pure (.function (hf f rfl))

theorem classStatement : Yields (Reader.classStatement r c) (Stmt.Fit words) :=
  .after fun _ => (hr.classTail c).bind fun _ hc => .pure (.classDef hc)

omit hr in
theorem unsupportedSince (start : List Char) (feature : String) :
    Yields (Reader.unsupportedSince start feature) (Stmt.Fit words) :=
  .after fun _ => .pure (.unsupported _)

omit hr in
theorem usingStatement : Yields (Reader.usingStatement r c) (Stmt.Fit words) :=
  .after fun _ => .after fun _ => .after fun _ => .after fun _ => .after fun _ =>
    .after fun _ => .pure (.unsupported _)

omit hr in
theorem importAlias (start : List Char) : Yields (Reader.importAlias r start) (Stmt.Fit words) :=
  .after fun _ => .after fun _ => .after fun _ => .after fun _ => .pure (.unsupported _)

omit hr in
theorem importAliasStatement (start : List Char) :
    Yields (Reader.importAliasStatement r c start) (Stmt.Fit words) :=
  .after fun _ => .after fun _ => .after fun _ =>
    .ite (.after fun _ => importAlias start) (importAlias start)

theorem bareDeclaration (given : List String) :
    Yields (Reader.bareDeclaration r c given) (Stmt.Fit words) := by
  refine .after fun cursor => .after fun cursor' => ?_
  split
  · split
    · exact hr.variableStatement c .var
    · exact hr.variableStatement c .let
    · exact .after fun _ => .ite (.after fun _ => .after fun _ => .after fun _ =>
        unsupportedSince _ _) (hr.variableStatement c .const)
    · exact .after fun _ => .after fun _ => unsupportedSince _ _
    · exact hr.functionStatement c _ _
    · exact hr.classStatement c
    · exact .after fun _ => .pure .erased
    · exact .after fun _ => .pure .erased
    · exact .after fun _ => .after fun _ => unsupportedSince _ _
    · exact .after fun _ => .after fun _ => unsupportedSince _ _
    · exact .after fun _ => .after fun _ => .after fun _ => .pure .erased
    · exact .fail
  · exact .fail

theorem declaration : Yields (Reader.declaration r c) (Stmt.Fit words) :=
  .after fun _ => .after fun _ => .after fun _ => .ite (importAliasStatement c _) <|
    .after fun _ => .after fun _ => (hr.bareDeclaration _ _).bind fun _ hs =>
      .ite (.pure .erased) (.pure hs)

/-! ## Imports and exports -/

omit hr in
theorem erasedItem : Reader.erasedItem.Fit words :=
  .statement .erased

omit hr in
theorem unsupportedItem (feature text : String) : (Reader.unsupportedItem feature text).Fit words :=
  .statement (.unsupported _)

theorem exportName : Yields Reader.exportName fun n => n.printable words = true := by
  refine .after fun cursor => ?_
  split
  · exact .after fun _ => .after fun _ => .pure (hr.covers.literal rfl)
  · exact hr.anyName.bind fun _ hw => .pure hw

theorem aliasName : Yields Reader.aliasName fun o => ∀ n ∈ o, n.printable words = true :=
  .after fun _ => .ite (hr.exportName.bind fun _ hn => .pure_some hn) .pure_none

theorem typeAsSpecifier : Yields Reader.typeAsSpecifier (Specifier.Fit words) := by
  have hword : ∀ w : String, Lexicon.script.name (some w) = true →
      (Tree.ExportName.identifier w).printable words = true := fun _ hw => hr.covers.name hw
  have has := hword "as" (by decide)
  have htype := hword "type" (by decide)
  refine .after fun _ => .ite (.after fun _ => .after fun _ => .ite ?_ ?_) (.after fun _ => .ite ?_ ?_)
  · exact hr.exportName.bind fun _ hn => .pure ⟨has, fun _ h => Option.some.inj h ▸ hn⟩
  · exact .pure ⟨htype, fun _ h => Option.some.inj h ▸ has⟩
  · exact hr.exportName.bind fun _ hn => .pure ⟨htype, fun _ h => Option.some.inj h ▸ hn⟩
  · exact .pure ⟨has, fun _ h => nomatch h⟩

theorem specifier : Yields Reader.specifier (Specifier.Fit words) := by
  refine .after fun isType => hr.exportName.bind fun name hn => .after fun _ => .ite ?_ (.after fun _ => .ite ?_ ?_)
  · exact .after fun _ => hr.typeAsSpecifier
  · exact hr.exportName.bind fun _ hn => hr.aliasName.bind fun _ ho => .pure ⟨hn, ho⟩
  · exact hr.aliasName.bind fun _ ho => .pure ⟨hn, ho⟩

theorem specifiers : Yields (Reader.specifiers r) fun names => ∀ s ∈ names, s.Fit words := by
  refine .after fun _ => (hr.specifier.separated _ _ _).bind ?_
  rintro ⟨names, trailing⟩ hnames
  exact .after fun _ => .pure hnames

omit hr in
theorem importClause {s : Specifier} (h : s.Fit words) :
    Yields (Reader.importClause s) fun o => ∀ clause ∈ o, clause.printable words = true := by
  have hbound := h.bound
  refine .after fun _ => ?_
  split
  · rename_i n hn
    rw [hn] at hbound
    refine .pure fun clause hclause => ?_
    split at hclause
    · cases hclause
    · cases hclause
      exact and_true h.name hbound
  · exact .pure_none

omit hr in
theorem importClauses {names : List Specifier} (h : ∀ s ∈ names, s.Fit words) :
    Yields (Reader.importClauses names) fun cs => ∀ clause ∈ cs, clause.printable words = true := by
  induction names with
  | nil => exact .pure (List.forall_mem_nil _)
  | cons s rest ih =>
    obtain ⟨hs, hrest⟩ := List.forall_mem_cons.1 h
    refine (importClause hs).bind fun o ho => (ih hrest).bind fun cs hcs => .pure fun clause hclause => ?_
    exact (List.mem_append.1 hclause).elim (fun hmem => ho clause (Option.mem_toList.1 hmem)) (hcs clause)

theorem importedNames (typeOnly : Bool) :
    Yields (Reader.importedNames r c typeOnly) fun x => ∀ clause ∈ x.1, clause.printable words = true :=
  .after fun _ => .ite
    (.after fun _ => (hr.name c).bind fun _ hw => .pure (List.forall_mem_singleton.2 hw))
    (hr.specifiers.bind fun _ hnames => .after fun _ => (importClauses hnames).bind fun _ hcs => .pure hcs)

theorem importedClauses (typeOnly : Bool) {default : Option String} (h : words.name default = true) :
    Yields (Reader.importedClauses r c typeOnly default) fun x =>
      ∀ clause ∈ x.1, clause.printable words = true := by
  cases default with
  | none => exact hr.importedNames c typeOnly
  | some n =>
    refine .after fun _ => .ite ((hr.importedNames c typeOnly).bind ?_) (.pure (List.forall_mem_singleton.2 h))
    rintro ⟨clauses, typesOnly⟩ hcs
    exact .pure (List.forall_mem_cons.2 ⟨h, hcs⟩)

theorem importMode : Yields (Reader.importMode c) fun x => words.name x.2 = true := by
  refine .after fun _ => .ite ((hr.name c).bind fun first hfirst => ?_) (.pure hr.covers.noName)
  extract_lets tail
  have htail : ∀ isType, Yields (tail isType) fun x => words.name x.2 = true := fun _ =>
    .after fun _ => .ite (.after fun _ => .ite ((hr.name c).bind fun _ hw => .pure hw) (.pure hr.covers.noName))
      (.pure hfirst)
  exact .ite (.after htail) (.after htail)

theorem importTail (start : List Char) (mode : ImportMode) {clauses : List Tree.ImportClause}
    (h : ∀ clause ∈ clauses, clause.printable words = true) (typesOnly : Bool) :
    Yields (Reader.importTail r start mode clauses typesOnly) (Item.Fit words) := by
  refine .after fun _ => .after fun attributed => .after fun _ => .ite (.pure erasedItem)
    (.ite (.after fun _ => .pure (unsupportedItem _ _)) ?_)
  cases attributed with
  | none =>
    exact .ite (.pure erasedItem) (.pure (.import (and_true (List.all_eq_true.2 h) (hr.covers.literal rfl))))
  | some text => exact .pure (unsupportedItem _ _)

theorem importItem : Yields (Reader.importItem r c) (Item.Fit words) := by
  refine .after fun _ => .after fun _ => .after fun cursor => ?_
  split
  · exact hr.importTail _ _ (List.forall_mem_nil _) _
  · refine (hr.importMode c).bind ?_
    rintro ⟨mode, default⟩ hdefault
    refine .after fun _ => .ite ?_ ((hr.importedClauses c _ hdefault).bind ?_)
    · exact (importAlias _).bind fun _ hs => .pure (.statement hs)
    · rintro ⟨clauses, typesOnly⟩ hcs
      exact .after fun _ => hr.importTail _ _ hcs _

omit hr in
theorem exportClauses_printable {names : List Specifier} (h : ∀ s ∈ names, s.Fit words) :
    ∀ clause ∈ names.filterMap Reader.exportClause, clause.printable words = true := by
  intro clause hclause
  obtain ⟨s, hs, heq⟩ := List.mem_filterMap.1 hclause
  rw [Reader.exportClause] at heq
  split at heq
  · cases heq
  · cases heq
    exact and_true (h s hs).name (h s hs).bound

theorem exportTail {names : List Specifier} (h : ∀ s ∈ names, s.Fit words) (typeOnly : Bool) :
    Yields (Reader.exportTail r names typeOnly) (Item.Fit words) := by
  refine .after fun _ => ?_
  extract_lets clauses tail
  have hclauses : ∀ clause ∈ clauses, clause.printable words = true := exportClauses_printable h
  have htail : ∀ source, Yields (tail source) (Item.Fit words) := by
    intro source
    refine .ite (.after fun attributed => ?_) (.after fun attributed => ?_)
    all_goals
      refine .after fun _ => .after fun _ => .after fun _ => .ite (.pure erasedItem) ?_
      cases attributed with
      | none =>
        exact .ite (.pure erasedItem) (.pure (.exportClauses hclauses fun _ _ => hr.covers.literal rfl))
      | some text => exact .pure (unsupportedItem _ _)
  exact .ite (.after htail) (.after htail)

theorem exportAllTail (typeOnly : Bool) : Yields (Reader.exportAllTail r typeOnly) (Item.Fit words) := by
  refine hr.aliasName.bind fun exported hexported => .after fun _ => .after fun _ => .after fun attributed =>
    .after fun _ => .ite (.pure erasedItem) ?_
  cases attributed with
  | none => exact .pure (.exportAll (hr.covers.literal rfl) hexported)
  | some text => exact .pure (unsupportedItem _ _)

omit hr in
theorem decoratedClass (text : String) : Yields (Reader.decoratedClass r c text) (Stmt.Fit words) :=
  .after fun _ => .after fun _ => .after fun _ => .after fun _ =>
    .ite (.pure .erased) (.pure (.unsupported _))

theorem defaultExpression : Yields (Reader.defaultExpression r c) (Item.Fit words) :=
  (hr.assign c.withIn true).bind fun _ he => .after fun _ => .pure (.exportExpression he)

theorem defaultClass : Yields (Reader.defaultClass r c) (Item.Fit words) :=
  .after fun _ => (hr.classTail c).bind fun _ hc => .pure (.exportClass hc)

theorem defaultFunction : Yields (Reader.defaultFunction r c) (Item.Fit words) := by
  refine .after fun async => (hr.functionDeclaration c true async).bind fun f hf => ?_
  cases f with
  | none => exact .pure erasedItem
  | some f => exact .pure (.exportFunction (hf f rfl))

theorem defaultItem : Yields (Reader.defaultItem r c) (Item.Fit words) := by
  refine .after fun cursor => ?_
  split
  · refine .after fun decorators => ?_
    split
    · exact (decoratedClass c _).bind fun _ hs => .pure (.statement hs)
    · exact .fail
  · exact hr.defaultClass c
  · exact hr.defaultFunction c
  · exact .after fun _ => .ite (.after fun _ => hr.defaultClass c) (hr.defaultExpression c)
  · exact .after fun _ => .ite (hr.defaultFunction c) (hr.defaultExpression c)
  · exact .after fun _ => .ite (.after fun _ => .pure erasedItem) (hr.defaultExpression c)
  · exact hr.defaultExpression c

theorem exportDeclaration : Yields (Reader.exportDeclaration r c) (Item.Fit words) :=
  (hr.declaration c).bind fun _ hs => .pure (.exportDeclaration hs)

theorem exportNames (typeOnly : Bool) : Yields (Reader.exportNames r typeOnly) (Item.Fit words) :=
  .after fun _ => .ite (hr.exportAllTail typeOnly) (hr.specifiers.bind fun _ hnames => hr.exportTail hnames typeOnly)

theorem exportAfter (start : List Char) : Yields (Reader.exportAfter r c start) (Item.Fit words) := by
  refine .after fun cursor => ?_
  split
  · exact hr.exportNames false
  · exact hr.exportNames false
  · exact .after fun _ => .after fun _ => .after fun _ => .after fun _ => .pure (unsupportedItem _ _)
  · refine .after fun decorators => ?_
    split
    · exact (decoratedClass c _).bind fun _ hs => .pure (.statement hs)
    · exact .fail
  · exact .after fun _ => hr.defaultItem c
  · exact .after fun _ => .after fun _ => .after fun _ => .after fun _ => .after fun _ =>
      .pure (unsupportedItem _ _)
  · exact .after fun _ => .ite (.after fun _ => hr.exportNames true) (hr.exportDeclaration c)
  · exact hr.exportDeclaration c

theorem moduleItem : Yields (Reader.moduleItem r c) (Item.Fit words) :=
  .after fun _ => .ite (hr.importItem c) (.after fun _ => .after fun _ => hr.exportAfter c _)

omit hr in
theorem decoratedItem : Yields (Reader.decoratedItem r c) (Item.Fit words) := by
  refine .after fun decorators => ?_
  cases decorators with
  | nil => exact .fail
  | cons text rest =>
    refine .after fun _ => .ite ?_ ?_
    · exact .bind (P := (Stmt.Fit words)) (.after fun _ => .after fun _ => decoratedClass c text)
        fun _ hs => .pure (.statement hs)
    · exact (decoratedClass c text).bind fun _ hs => .pure (.statement hs)

/-! ## Statements -/

theorem condition : Yields (Reader.condition r c) (Expr.Fit words) :=
  .after fun _ => (hr.expression c).bind fun _ he => .after fun _ => .pure he

theorem block : Yields (Reader.block r c) fun ss => ∀ s ∈ ss, s.Fit words :=
  .after fun _ => (hr.statements c).bind fun _ hss => .after fun _ => .pure hss

theorem ifStatement : Yields (Reader.ifStatement r c) (Stmt.Fit words) :=
  .after fun _ => (hr.condition c).bind fun _ ht => (hr.statement c .clause).bind fun _ hc =>
    .after fun _ => .ite ((hr.statement c .clause).bind fun _ ha => .pure (.ifElse ht hc ha))
      (.pure (.if ht hc))

theorem doStatement : Yields (Reader.doStatement r c) (Stmt.Fit words) :=
  .after fun _ => (hr.statement c .clause).bind fun _ hb => .after fun _ =>
    (hr.condition c).bind fun _ ht => .after fun _ => .pure (.doWhile ht hb)

theorem whileStatement : Yields (Reader.whileStatement r c) (Stmt.Fit words) :=
  .after fun _ => (hr.condition c).bind fun _ ht => (hr.statement c .clause).bind fun _ hb =>
    .pure (.while ht hb)

omit hr in
theorem withStatement : Yields (Reader.withStatement r c) (Stmt.Fit words) :=
  .after fun _ => .after fun _ => .after fun _ => .after fun _ => unsupportedSince _ _

theorem returnStatement : Yields (Reader.returnStatement r c) (Stmt.Fit words) := by
  refine .after fun _ => .after fun _ => .after fun _ => ?_
  extract_lets tail
  have htail : ∀ argument : Option Expr, (∀ e ∈ argument, e.Fit words) → Yields (tail argument) (Stmt.Fit words) :=
    fun _ ha => .after fun _ => .pure (.return ha)
  exact .ite (Yields.pure_none.bind htail) ((hr.expression c.withIn).some_map.bind htail)

theorem throwStatement : Yields (Reader.throwStatement r c) (Stmt.Fit words) :=
  .after fun _ => .after fun _ => .after fun _ => (hr.expression c).bind fun _ ha =>
    .after fun _ => .pure (.throw ha)

theorem catchParameter : Yields (Reader.catchParameter r c) fun o => ∀ e ∈ o, e.Fit words :=
  .after fun _ => .ite ((hr.binding c).bind fun _ ht => .after fun _ => .after fun _ =>
    .pure_some ht) .pure_none

theorem tryStatement : Yields (Reader.tryStatement r c) (Stmt.Fit words) := by
  refine .after fun _ => (hr.block c).bind fun guarded hg => .after fun _ => .ite ?_ ?_
  · refine (hr.catchParameter c).bind fun param hp => (hr.block c).bind fun handler hh => ?_
    exact .after fun _ => .ite ((hr.block c).bind fun _ hf => .pure (.tryCatchFinally hg hp hh hf))
      (.pure (.tryCatch hg hp hh))
  · exact .after fun _ => (hr.block c).bind fun _ hf => .pure (.tryFinally hg hf)

theorem caseStatement : Yields (Reader.caseStatement r c) fun o => ∀ s ∈ o, s.Fit words :=
  .after fun _ => .ite .pure_none <| .after fun _ =>
    .ite (.after fun _ => .after fun _ => hr.listStatement c)
      (.after fun _ => .after fun _ => hr.listStatement c)

theorem switchCase? : Yields (Reader.switchCase? r c) fun o => ∀ x ∈ o, x.Fit words := by
  refine .after fun _ => .ite .pure_none (.after fun _ => ?_)
  extract_lets tail
  have htail : ∀ test : Option Expr, (∀ e ∈ test, e.Fit words) →
      Yields (tail test) fun o => ∀ x ∈ o, x.Fit words := fun _ ht =>
    .after fun _ => ((hr.caseStatement c).many _).bind fun _ hb => .pure_some (.mk ht hb)
  exact .ite (Yields.pure_none.bind htail)
    (.after fun _ => (hr.expression c).some_map.bind htail)

theorem switchStatement : Yields (Reader.switchStatement r c) (Stmt.Fit words) :=
  .after fun _ => (hr.condition c).bind fun _ hd => .after fun _ =>
    ((hr.switchCase? c).many _).bind fun _ hcs => .after fun _ => .pure (.switch hd hcs)

theorem jumpLabel : Yields (Reader.jumpLabel c) fun label => words.name label = true := by
  refine .after fun _ => .after fun _ => ?_
  extract_lets tail
  have htail : ∀ label, words.name label = true → Yields (tail label) fun label => words.name label = true :=
    fun _ hlabel => .after fun _ => .pure hlabel
  exact .ite (.bind (.pure hr.covers.noName) htail) ((hr.givenName c).bind htail)

theorem expressionOrLabel : Yields (Reader.expressionOrLabel r c) (Stmt.Fit words) := by
  refine (hr.expression c).bind fun e he => ?_
  split
  · exact .after fun _ => .ite ((hr.statement c .label).bind fun _ hb => .pure (.labeled hb he.name))
      (.after fun _ => .pure (.expression he))
  · exact .after fun _ => .pure (.expression he)

/-! ## Loops -/

omit hr c in
/-- The start of a loop, with fit parts. -/
def FitStart (words : Lexicon) : LoopStart → Prop
  | .expression e => e.Fit words
  | .variables _ declarations => ∀ d ∈ declarations, d.Fit words
  | _ => True

omit hr in
theorem forLoop {start : LoopStart} {test update : Option Expr} {body : Stmt} (hs : FitStart words start)
    (ht : ∀ e ∈ test, e.Fit words) (hu : ∀ e ∈ update, e.Fit words) (hb : body.Fit words) :
    (Reader.forLoop start test update body).Fit words := by
  cases start with
  | nothing => exact .for (by simp) ht hu hb
  | expression e => exact .for (fun _ h => Option.some.inj h ▸ hs) ht hu hb
  | unsupported construct => exact .unsupported construct
  | _ kind declarations => exact .forVariables hs ht hu hb kind

omit hr in
theorem forEachLoop (loop : LoopKind) {start : LoopStart} {right : Expr} {body : Stmt}
    (hs : FitStart words start) (hr : right.Fit words) (hb : body.Fit words) (await : Bool) :
    (Reader.forEachLoop loop start right body await).Fit words := by
  cases start with
  | nothing => exact .empty
  | expression e => exact .forEach hs hr hb loop await
  | unsupported construct => exact .unsupported construct
  | _ kind declarations => exact .forEachVariable hs hr hb loop kind await

theorem optionalExpression (close : String) :
    Yields (Reader.optionalExpression r c close) fun o => ∀ e ∈ o, e.Fit words :=
  .after fun _ => .ite .pure_none ((hr.expression c.withIn).bind fun _ he => .pure_some he)

theorem forTail {start : LoopStart} (hs : FitStart words start) :
    Yields (Reader.forTail r c start) (Stmt.Fit words) :=
  .after fun _ => .after fun _ => (hr.optionalExpression c ";").bind fun _ ht => .after fun _ =>
    (hr.optionalExpression c ")").bind fun _ hu => .after fun _ =>
      (hr.statement c .clause).bind fun _ hb => .pure (forLoop hs ht hu hb)

theorem forEachTail (loop : LoopKind) {start : LoopStart} (hs : FitStart words start) (await : Bool) :
    Yields (Reader.forEachTail r c loop start await) (Stmt.Fit words) := by
  refine .after fun _ => ?_
  extract_lets tail
  have htail : ∀ right : Expr, right.Fit words → Yields (tail right) (Stmt.Fit words) := fun _ hright =>
    .after fun _ => (hr.statement c .clause).bind fun _ hb =>
      .pure (forEachLoop loop hs hright hb await)
  cases loop with
  | keys => exact (hr.expression c).bind htail
  | values => exact (hr.assign c true).bind htail

theorem loopVariables (kind : VariableKind) :
    Yields (Reader.loopVariables r c kind) (FitStart words) :=
  .after fun _ => (hr.declarators c).bind fun _ hds => .pure hds

theorem loopStart : Yields (Reader.loopStart r c) (FitStart words) := by
  refine .after fun _ => .ite (.pure trivial) (.after fun _ => .ite ?_ (.after fun _ => .ite ?_
    (.after fun _ => .ite ?_ (.after fun _ => .after fun _ => .ite ?_ ?_))))
  · exact hr.loopVariables _ .let
  · exact hr.loopVariables _ .const
  · exact hr.loopVariables _ .var
  · exact .after fun _ => .after fun _ => .after fun _ => .after fun _ => .after fun _ =>
      .pure trivial
  · exact (hr.expression _).bind fun _ he => .pure he

theorem forStatement : Yields (Reader.forStatement r c) (Stmt.Fit words) := by
  refine .after fun _ => .after fun await => .after fun _ => .after fun _ => .after fun _ =>
    (hr.loopStart c).bind fun start hs => .after fun _ => .ite ?_ (.after fun _ => .ite ?_ ?_)
  · exact .after fun _ => .after fun _ => hr.forEachTail c .keys hs false
  · exact .after fun _ => .after fun _ => hr.forEachTail c .values hs await
  · exact .after fun _ => hr.forTail c hs

/-! ## All statements -/

theorem letStatement (place : Place) : Yields (Reader.letStatement r c place) (Stmt.Fit words) := by
  refine .after fun cursor => ?_
  dsimp only
  split
  · exact .after fun _ => hr.variableStatement c .let
  · exact (hr.assign c true).bind fun _ he => .after fun _ => .pure (.expression he)
  · exact (hr.expression c).bind fun _ he => .pure (.expression he)
  · exact (hr.name c).bind fun _ hw => .after fun _ => .pure (.expression (.identifier hw))

theorem functionIn (place : Place) : Yields (Reader.functionIn r c place) (Stmt.Fit words) :=
  .after fun _ => .after fun _ => .after fun _ => hr.functionStatement c _ false

omit hr in
theorem nestedItem : Yields (Reader.nestedItem r c) (Stmt.Fit words) := by
  refine .after fun _ => .after fun item => ?_
  split
  · exact .pure (.unsupported _)
  · exact unsupportedSince _ _

omit hr in
theorem decoratedStatement (place : Place) :
    Yields (Reader.decoratedStatement r c place) (Stmt.Fit words) := by
  refine .after fun decorators => ?_
  cases decorators with
  | nil => exact .fail
  | cons text rest =>
    refine .after fun _ => .after fun _ => .ite ?_ ?_
    · exact .after fun _ => unsupportedSince _ _
    · exact .after fun _ => decoratedClass c text

theorem otherStatement (place : Place) : Yields (Reader.otherStatement r c place) (Stmt.Fit words) :=
  .after fun _ => .after fun _ => .ite (.after fun _ => usingStatement c) <|
    .after fun _ => .ite (hr.declaration _) (hr.expressionOrLabel c)

theorem wordStatement (place : Place) (w : String) (escaped : Bool) :
    Yields (Reader.wordStatement r c place w escaped) (Stmt.Fit words) := by
  unfold Reader.wordStatement
  split
  · exact hr.ifStatement c
  · exact hr.doStatement c
  · exact hr.whileStatement c
  · exact hr.forStatement c
  · exact withStatement c
  · exact hr.switchStatement c
  · exact hr.throwStatement c
  · exact hr.tryStatement c
  · exact (hr.jumpLabel c).bind fun _ hlabel => .pure (.break hlabel)
  · exact (hr.jumpLabel c).bind fun _ hlabel => .pure (.continue hlabel)
  · exact hr.returnStatement c
  · exact .after fun _ => .after fun _ => .pure .debugger
  · exact .after fun _ => hr.classStatement c
  · exact hr.functionIn c place
  · exact .after fun _ => .ite (hr.functionIn c place) (hr.otherStatement c place)
  · exact hr.variableStatement c .var
  · exact .after fun _ => .after fun _ => hr.bareDeclaration c []
  · exact .ite (hr.expressionOrLabel c) (hr.letStatement c place)
  · exact nestedItem c
  · exact .after fun _ => .ite (hr.expressionOrLabel c) (nestedItem c)
  · exact hr.otherStatement c place

theorem statementOf (place : Place) : Yields (Reader.statementOf r c place) (Stmt.Fit words) := by
  refine .after fun cursor => ?_
  split
  · exact (hr.block c).bind fun _ hss => .pure (.block hss)
  · exact .after fun _ => .pure .empty
  · exact decoratedStatement c place
  · exact hr.wordStatement c place _ _
  · exact hr.expressionOrLabel c

/-! ## Module items -/

theorem item? : Yields (Reader.item? r c) fun o => ∀ i ∈ o, i.Fit words := by
  refine .after fun _ => .ite .pure_none (.after fun _ => .ite ?_ (.after fun _ => .ite ?_ ?_))
  · exact (hr.moduleItem c).bind fun _ hi => .pure_some hi
  · exact (decoratedItem c).bind fun _ hi => .pure_some hi
  · exact (hr.statement c .list).bind fun _ hs => .pure_some (.statement hs)

theorem moduleItems (limit : Nat) :
    Yields (Reader.moduleItems r c limit) fun is => ∀ i ∈ is, i.Fit words := by
  induction limit with
  | zero => exact .fail
  | succ limit ih =>
    have hitems := (hr.item? c).many (r.limit + 1)
    refine .after fun cursor => ?_
    split
    · refine (hr.statement c .list).bind fun s hs => ?_
      split
      · exact ih.bind fun _ his =>
          .pure (List.forall_mem_cons.2 ⟨.statement (.directive (hr.covers.literal rfl) _), his⟩)
      · exact hitems.bind fun _ his => .pure (List.forall_mem_cons.2 ⟨.statement hs, his⟩)
    · exact hitems

/-! ## Rounds -/

/-- One more round of readers gives fit parts, if the round before does. -/
theorem next : r.next.Fit words where
  covers := hr.covers
  assign c allowReturnType := hr.assignExpression c allowReturnType
  binary c least := hr.binaryExpression c least
  unary c := hr.unaryExpression c
  chain c := hr.callChain c
  access c := hr.accessChain c
  binding c := hr.bindingPattern c
  statement c place := hr.statementOf c place

end Readers.Fit

/-- The readers of every round give fit parts. -/
theorem readers_fit {words : Lexicon} (h : words.Covers) (limit rounds : Nat) :
    (readers limit rounds).Fit words := by
  induction rounds with
  | zero => exact ⟨h, fun _ _ => .fail, fun _ _ => .fail, fun _ => .fail, fun _ => .fail,
      fun _ => .fail, fun _ => .fail, fun _ _ => .fail⟩
  | succ rounds ih => exact ih.next

/-- What is accepted of a text has every property that its reader yields. -/
theorem of_accepted {α : Type} {P : α → Prop} {r : Reader α} (hr : Yields r P) {place : GapPlace}
    {text rest : List Char} {a : α} (h : accepted place text r = some (a, rest)) : P a := by
  obtain ⟨⟨b, c⟩, hb, h⟩ := Option.bind_eq_some_iff.1 h
  dsimp only at h
  split at h
  · cases h
  · cases h
    exact hr _ _ _ hb

/-- Whatever is reported as lowered has every property that the lowering gives. -/
theorem of_reported {α : Type} {p : α → Bool} {l : Lowered α} (hl : Gives l p) {a : α}
    (h : reported l = .ok a) : p a = true := by
  cases l with
  | error u => cases h
  | ok b =>
    cases h
    exact hl a rfl

/-- The trees of a module that parses have a written form, with nothing in it that a script cannot
spell. -/
theorem parseModule_covered {words : Lexicon} (hwords : words.Covers) {text : List Char}
    {items : List Tree.Item} (h : parseModule text = .ok items) : items.all (Tree.Item.printable words) = true := by
  unfold parseModule at h
  dsimp only at h
  split at h
  case h_1 script rest haccepted =>
    have hfit := of_accepted ((readers_fit hwords _ _).moduleItems _ _) haccepted
    exact of_reported (gives_lowerItems hfit) h
  case h_2 => cases h

theorem parseModule_printable {text : List Char} {items : List Tree.Item} (h : parseModule text = .ok items) :
    items.all (Tree.Item.printable .all) = true :=
  parseModule_covered Lexicon.all_covers h

end CustomElement.Script
