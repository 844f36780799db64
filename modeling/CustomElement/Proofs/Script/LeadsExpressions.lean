import CustomElement.Proofs.Script.Leads
import CustomElement.Script.Expression

/-!
# Runs of the readers of expressions between places

The runs of names, primary expressions, accesses, calls and the operators around them, from the tokens
that the places show. Which tokens end what is read is told by conditions on tokens, from
`Token.endsAccess` to `Token.endsAssign`, each of which is stricter than the one before.
-/

namespace CustomElement.Script

open CustomElement.Tree (UnaryOp UpdateOp)

namespace Token

/-- Whether a token ends a chain of accesses. -/
def endsAccess : Token → Bool
  | .punct s => !([".", "[", "?.", "!", "<", "<<", "<<="].contains s)
  | .template .. => false
  | _ => true

/-- Whether a token ends a chain of accesses and calls. -/
def endsChain (t : Token) : Bool :=
  t.endsAccess && t != .punct "("

/-- The operator that steps a value, if a token is one. -/
def updateOp? : Token → Option UpdateOp
  | .punct s => UpdateOp.ofSymbol? s
  | _ => none

/-- Whether a token ends an operand that no operator follows. -/
def endsOperand (t : Token) : Bool :=
  t.endsChain && (Infix.ofToken? t).isNone && t.updateOp?.isNone

/-- Whether what a token follows on neither is assigned to nor is a condition or a parameter. -/
def endsValue (t : Token) : Bool :=
  (Reader.assignOp? t).isNone && t != .punct "?" && t != .punct "=>"

/-- Whether a token ends an expression that neither is assigned to nor is a condition. -/
def endsAssign (t : Token) : Bool :=
  t.endsOperand && t.endsValue

/-- Whether a token starts an operand without operators in front of it. -/
def startsOperand : Token → Bool
  | .punct s => ["(", "[", "\x7b"].contains s
  | .word w _ => w != "await" && (UnaryOp.ofSymbol? w).isNone
  | .string .. => true
  | .number _ => true
  | _ => false

/-- The property that a token names behind a dot. -/
def property? : Token → Option Expr
  | .word w _ => some (.identifier w)
  | .privateName w => some (.privateName w)
  | _ => none

variable {t : Token}

theorem endsAccess_of_endsChain (h : t.endsChain = true) : t.endsAccess = true :=
  (Bool.and_eq_true_iff.1 h).1

theorem endsChain_of_endsOperand (h : t.endsOperand = true) : t.endsChain = true := by
  simp only [endsOperand, Bool.and_eq_true] at h
  exact h.1.1

theorem endsOperand_of_endsAssign (h : t.endsAssign = true) : t.endsOperand = true :=
  (Bool.and_eq_true_iff.1 h).1

theorem no_operator_of_startsOperand (h : t.startsOperand = true) :
    Reader.unaryOp? t = none ∧ t.updateOp? = none := by
  cases t with
  | punct s =>
    simp only [startsOperand, List.contains_cons, List.contains_nil, Bool.or_false,
      Bool.or_eq_true, beq_iff_eq] at h
    rcases h with rfl | rfl | rfl <;> exact ⟨rfl, rfl⟩
  | word w escaped =>
    simp only [startsOperand, Bool.and_eq_true, Option.isNone_iff_eq_none] at h
    exact ⟨h.2, rfl⟩
  | _ => exact ⟨rfl, rfl⟩

theorem isWord_await_of_startsOperand (h : t.startsOperand = true) : t.isWord "await" = false := by
  cases t with
  | word w escaped =>
    simp only [startsOperand, Bool.and_eq_true, bne_iff_ne] at h
    exact beq_eq_false_iff_ne.2 h.1
  | _ => rfl

end Token

namespace Leads

variable {r : Readers} {c : Context} {P P₁ P₂ P₃ Q : Cursor → Prop} {t u : Token} {allowReturnType : Bool}

/-! ## Names -/

theorem name {w : String} (h : Passes P (.word w false) Q) (hw : isNameWord w = true)
    (hkeyword : c.takesAsKeyword w = false) : Leads P (Reader.name c) w Q := by
  refine .get fun cursor hc => ?_
  rw [h.shows cursor hc]
  exact .pos hw <| .bind (.faultIf hkeyword) <| .bind (.advance h) .pure

theorem propertyAfterDot {e : Expr} (h : Passes P t Q) (ht : t.property? = some e) :
    Leads P Reader.propertyAfterDot e Q := by
  refine .get fun cursor hc => ?_
  rw [h.shows cursor hc]
  cases t with
  | privateName w =>
    cases ht
    exact .bind (.advance h) .pure
  | word w escaped =>
    cases ht
    refine .bind (a := w) (.get fun cursor hc => ?_) .pure
    rw [h.shows cursor hc]
    exact .bind (.advance h) .pure
  | _ => cases ht

/-! ## Arrow functions told by their first tokens -/

theorem atWordLike_not (h : Shows P t) (ht : ∀ w escaped, t ≠ .word w escaped)
    (condition : String → Bool) : Leads P (Reader.atWordLike condition) false P := by
  refine .get fun cursor hc => ?_
  rw [h cursor hc]
  cases t with
  | word w escaped => exact absurd rfl (ht w escaped)
  | _ => exact .pure

theorem arrow?_none (h : Shows P t) (hasync : t.isWord "async" = false)
    (hparen : t.isPunct "(" = false) (hangle : t.isPunct "<" = false) :
    Leads P (Reader.arrow? r c allowReturnType) none P := by
  have hguess : Leads P Reader.guessArrow .no P :=
    .bind (.lookahead <| .bind (.eatWord_not h hasync) <| .neg rfl <| .bind (.eat_not h hparen) <|
      .neg rfl <| .bind (.eat_not h hangle) <| .neg rfl .pure) .pure
  have hsimple : Leads P Reader.atAsyncArrow false P :=
    .looksLike_not (.bind (.expectWord h hasync))
  exact hguess.bind <| hsimple.bind <| .neg rfl .pure

theorem atAsyncArrow_none (h : Passes P (.word "async" false) P₁)
    (hname : Leads P₁ Reader.atName false P₁) : Leads P Reader.atAsyncArrow false P :=
  .looksLike_not <| .after (.expectWord h rfl rfl) <| .anyNewLine fun newline => .after hname <|
    .pos (Bool.or_true newline) <| .bind .fail

/-- The word `async` in front of what opens no parameters. -/
theorem arrow?_async (h : Passes P (.word "async" false) P₁) (hu : Shows P₁ u)
    (hsimple : Leads P Reader.atAsyncArrow false P) (hparen : u.isPunct "(" = false)
    (hangle : u.isPunct "<" = false) : Leads P (Reader.arrow? r c allowReturnType) none P := by
  have hguess : Leads P Reader.guessArrow .no P := by
    -- What is found depends on the cursor: on a new line, the search fails.
    intro cursor hc
    have hpass : Passes (· = cursor) (.word "async" false) (· = cursor.next) :=
      ⟨by rintro _ rfl; exact h.shows _ hc, by rintro _ rfl; rfl⟩
    have hshow : Shows (· = cursor.next) u := by
      rintro _ rfl
      exact hu _ (h.next _ hc)
    have hline : Leads (· = cursor.next) Reader.onNewLine cursor.next.newline (· = cursor.next) := by
      rintro _ rfl
      exact ⟨_, rfl, rfl⟩
    have hhere : Leads (· = cursor) Reader.guessArrow .no (· = cursor) := by
      cases hnewline : cursor.next.newline with
      | true =>
        rw [hnewline] at hline
        exact .bind (.lookahead_none <| .after (.eatWord hpass rfl rfl) <| .pos rfl <| .after hline <|
          .pos rfl <| .bind .fail) .pure
      | false =>
        rw [hnewline] at hline
        exact .bind (.lookahead <| .bind (.eatWord hpass rfl rfl) <| .pos rfl <| .bind hline <|
          .neg rfl <| .bind (.eat_not hshow hparen) <| .neg rfl <| .bind (.eat_not hshow hangle) <|
          .neg rfl .pure) .pure
    obtain ⟨_, hr, rfl⟩ := hhere cursor rfl
    exact ⟨_, hr, hc⟩
  exact hguess.bind <| hsimple.bind <| .neg rfl .pure

/-! ## Lists of expressions -/

/-- An expression without a comma after it. -/
theorem expression {e : Expr} (h : Leads P (r.assign { c with inDecorator := false } true) e Q)
    (hq : Shows Q t) (hcomma : t.isPunct "," = false) : Leads P (Reader.expression r c) e Q := by
  have hothers : Leads Q (Reader.anotherExpression r { c with inDecorator := false }) none Q :=
    .bind (.eat_not hq hcomma) <| .neg rfl .pure
  exact h.bind <| (many_nil hothers r.limit).bind <| .pos rfl .pure

theorem spreadOrAssign {e : Expr} (hp : Shows P t) (ht : t.isPunct "..." = false)
    (h : Leads P (r.assign c true) e Q) : Leads P (Reader.spreadOrAssign r c) e Q :=
  .bind (.eat_not hp ht) <| .neg rfl h

theorem arguments {es : List Expr} {trailing : Bool} (hopen : Passes P (.punct "(") P₁)
    (h : Leads P₁ (Reader.separated ")" "," (Reader.spreadOrAssign r c) (r.limit + 1))
      (es, trailing) P₂) (hclose : Passes P₂ (.punct ")") Q) :
    Leads P (Reader.arguments r c) es Q :=
  .bind (.expect hopen rfl) <| h.bind <| .bind (.expect hclose rfl) .pure

theorem templateLiteral_whole {raw : String} {cooked : Option String}
    (h : Passes P (.template raw cooked true) Q) :
    Leads P (Reader.templateLiteral r c) ([⟨true, raw, cooked⟩], []) Q := by
  refine .get fun cursor hc => ?_
  rw [h.shows cursor hc]
  exact .bind (.advance h) <| .pos rfl .pure

theorem templateLiteral_parts {raw : String} {cooked : Option String} {es : List Expr}
    {pieces : List Tree.TemplateElement} (h : Passes P (.template raw cooked false) P₁)
    (hparts : Leads P₁ (Reader.templateParts (Reader.expression r c.withIn) (r.limit + 1))
      (es, pieces) Q) :
    Leads P (Reader.templateLiteral r c) (⟨false, raw, cooked⟩ :: pieces, es) Q := by
  refine .get fun cursor hc => ?_
  rw [h.shows cursor hc]
  exact .bind (.advance h) <| .neg rfl <| hparts.bind .pure

/-! ## Primary expressions -/

theorem primary_this (h : Passes P (.word "this" false) Q) :
    Leads P (Reader.primary r c) .thisRef Q := by
  refine .get fun cursor hc => ?_
  rw [h.shows cursor hc]
  exact .bind (.bump h rfl) .pure

theorem primary_number {x : Double} (h : Passes P (.number x) Q) :
    Leads P (Reader.primary r c) (.literal ⟨.number x, none, none⟩) Q := by
  refine .get fun cursor hc => ?_
  rw [h.shows cursor hc]
  exact .bind (.advance h) .pure

theorem primary_parens {e : Expr} (hopen : Passes P (.punct "(") P₁)
    (h : Leads P₁ (Reader.expression r c.enclosed) e P₂) (hclose : Passes P₂ (.punct ")") Q) :
    Leads P (Reader.primary r c) (.wrapped .parens e) Q := by
  refine .get fun cursor hc => ?_
  rw [hopen.shows cursor hc]
  exact .bind (.expect hopen rfl) <| h.bind <| .bind (.expect hclose rfl) .pure

/-- A name that is no `async` in front of `function`. -/
theorem primary_name_of {w : String} (h : Passes P (.word w false) Q)
    (hfunction : Leads P Reader.beforeFunction false P) (hw : isNameWord w = true)
    (hkeyword : c.takesAsKeyword w = false) : Leads P (Reader.primary r c) (.identifier w) Q := by
  have hname : Leads P (Reader.name c >>= fun w => Pure.pure (Expr.identifier w)) (.identifier w) Q :=
    .bind (.name h hw hkeyword) .pure
  refine .get fun cursor hc => ?_
  rw [h.shows cursor hc]
  change Leads P (Reader.wordPrimary r c w) _ _
  unfold Reader.wordPrimary
  split
  case h_10 => exact hfunction.bind <| .neg rfl hname
  case h_11 => exact hname
  all_goals cases hw

/-- A name in front of anything but `function`. -/
theorem primary_name {w : String} (h : Passes P (.word w false) Q) (hq : Shows Q t)
    (ht : t.isWord "function" = false) (hw : isNameWord w = true)
    (hkeyword : c.takesAsKeyword w = false) : Leads P (Reader.primary r c) (.identifier w) Q := by
  refine primary_name_of h ?_ hw hkeyword
  refine .looksLike (Q := Q) (.bind (.advance h) <| .bind (.atWord hq _) <| .anyNewLine fun newline => ?_)
  rw [ht]
  exact .pure

theorem primary_import {e : Expr} (h : Passes P (.word "import" false) P₁)
    (hopen : Passes P₁ (.punct "(") P₂) (hsource : Leads P₂ (r.assign c.withIn true) e P₃)
    (hclose : Passes P₃ (.punct ")") Q) : Leads P (Reader.primary r c) (.importCall e) Q := by
  refine .get fun cursor hc => ?_
  rw [h.shows cursor hc]
  refine .get fun cursor hc => ?_
  exact .bind (.bump h rfl) <| .bind (.eat_not hopen.shows rfl) <| .neg rfl <|
    .bind (.expect hopen rfl) <| hsource.bind <| .bind (.eat_not hclose.shows rfl) <| .neg rfl <|
      .bind .pure <| .bind (.expect hclose rfl) <| .neg rfl .pure

/-- A `new` with its arguments behind a callee that is no call of `import`. -/
theorem primary_new {callee : Expr} {es : List Expr} (h : Passes P (.word "new" false) P₁)
    (hp : Shows P₁ t) (hdot : t.isPunct "." = false) (hcallee : Leads P₁ (r.access c) (callee, false) P₂)
    (hopen : Shows P₂ (.punct "(")) (himport : Reader.isImportCall callee = false)
    (hwrapped : ∀ inner, callee ≠ .wrapped .instantiation inner)
    (hargs : Leads P₂ (Reader.arguments r c.withIn) es Q) :
    Leads P (Reader.primary r c) (.new callee es) Q := by
  have hnew : Leads P₁ (Reader.newCallee r c) callee P₂ := by
    refine .bind (.atWord hp "import") <| hcallee.bind <| .bind (.atPunct hopen "?.") <|
      .bind (.faultIf (by rw [himport, Bool.and_false]; rfl)) ?_
    split
    · exact absurd rfl (hwrapped _)
    · exact .pure
  refine .get fun cursor hc => ?_
  rw [h.shows cursor hc]
  exact .bind (.bump h rfl) <| .bind (.eat_not hp hdot) <| .neg rfl <| hnew.bind <|
    .bind (.bind (.atPunct hopen "(") (.pos rfl hargs)) .pure

/-! ## Accesses -/

theorem accessStep_end (h : Shows P t) (ht : t.endsAccess = true) (link : Reader.Link) :
    Leads P (Reader.accessStep r c link) none P := by
  obtain ⟨e, optional⟩ := link
  refine .get fun cursor hc => ?_
  rw [h cursor hc]
  split
  case h_6 s =>
    refine .neg ?_ .pure
    simp only [Token.endsAccess, List.contains_cons, Bool.not_eq_true', Bool.or_eq_false_iff] at ht
    simp [ht]
  case h_7 => exact .pure
  all_goals cases ht

/-- An access by a name. -/
theorem accessStep_dot {p : Expr} (h : Passes P (.punct ".") P₁) (hname : Passes P₁ t Q)
    (ht : t.property? = some p) (e : Expr) (o : Bool) :
    Leads P (Reader.accessStep r c (e, o)) (some (.member e p false false, o)) Q := by
  refine .get fun cursor hc => ?_
  rw [h.shows cursor hc]
  exact .bind (.advance h) <| .bind (.propertyAfterDot hname ht) .pure

theorem computedAccess {key : Expr} (h : Passes P (.punct "[") P₁)
    (hkey : Leads P₁ (Reader.expression r c.withIn) key P₂) (hclose : Passes P₂ (.punct "]") Q)
    (e : Expr) (o : Bool) : Leads P (Reader.computedAccess r c e o) (.member e key true o) Q :=
  .bind (.expect h rfl) <| hkey.bind <| .bind (.expect hclose rfl) .pure

/-- An access by an expression in brackets, outside of decorators. -/
theorem accessStep_index {key : Expr} (hplain : c.inDecorator = false) (h : Passes P (.punct "[") P₁)
    (hkey : Leads P₁ (Reader.expression r c.withIn) key P₂) (hclose : Passes P₂ (.punct "]") Q)
    (e : Expr) (o : Bool) :
    Leads P (Reader.accessStep r c (e, o)) (some (.member e key true false, o)) Q := by
  refine .get fun cursor hc => ?_
  rw [h.shows cursor hc]
  exact .neg hplain <| .bind (.computedAccess h hkey hclose e false) .pure

theorem accessStep_template {quasis : List Tree.TemplateElement} {es : List Expr} {raw : String}
    {cooked : Option String} {tail : Bool} (hp : Shows P (.template raw cooked tail)) {e : Expr}
    (he : ∀ inner, e ≠ .wrapped .instantiation inner)
    (h : Leads P (Reader.templateLiteral r c) (quasis, es) Q) :
    Leads P (Reader.accessStep r c (e, false)) (some (.tagged e quasis es, false)) Q := by
  have htagged : Leads P (Reader.taggedTemplate r c e) (.tagged e quasis es) Q := by
    refine h.bind ?_
    dsimp only
    split
    · exact absurd rfl (he _)
    · exact .pure
  refine .get fun cursor hc => ?_
  rw [hp cursor hc]
  exact .bind (.faultIf rfl) <| htagged.bind .pure

/-- An optional access by a name. -/
theorem accessStep_optionalDot {p : Expr} (h : Passes P (.punct "?.") P₁) (hname : Passes P₁ t Q)
    (ht : t.property? = some p) (e : Expr) (o : Bool) :
    Leads P (Reader.accessStep r c (e, o)) (some (.member e p false true, true)) Q := by
  have hbefore : Leads P (Reader.beforeOptionalMember c) true P := by
    refine .looksLike (Q := P₁) (.bind (.advance h) (.get fun cursor hc => ?_))
    rw [hname.shows cursor hc]
    cases t with
    | word _ _ => exact .pure
    | privateName _ => exact .pure
    | _ => cases ht
  have hbracket : t.isPunct "[" = false := by
    cases t with
    | punct _ => cases ht
    | _ => rfl
  have hmember : Leads P (Reader.optionalMember r c e) (.member e p false true) Q :=
    .bind (.advance h) <| .bind (.atPunct hname.shows "[") <| .neg hbracket <|
      .bind (.propertyAfterDot hname ht) .pure
  refine .get fun cursor hc => ?_
  rw [h.shows cursor hc]
  exact hbefore.bind <| .pos rfl <| hmember.bind .pure

/-- An optional access by an expression in brackets. -/
theorem accessStep_optionalIndex {key : Expr} (hplain : c.inDecorator = false)
    (h : Passes P (.punct "?.") P₁) (hopen : Passes P₁ (.punct "[") P₂)
    (hkey : Leads P₂ (Reader.expression r c.withIn) key P₃) (hclose : Passes P₃ (.punct "]") Q)
    (e : Expr) (o : Bool) :
    Leads P (Reader.accessStep r c (e, o)) (some (.member e key true true, true)) Q := by
  have hbefore : Leads P (Reader.beforeOptionalMember c) true P := by
    refine .looksLike (Q := P₁) (.bind (.advance h) (.get fun cursor hc => ?_))
    rw [hopen.shows cursor hc]
    dsimp only
    rw [hplain]
    exact .pure
  have hmember : Leads P (Reader.optionalMember r c e) (.member e key true true) Q :=
    .bind (.advance h) <| .bind (.atPunct hopen.shows "[") <| .pos rfl <|
      .computedAccess hopen hkey hclose e true
  refine .get fun cursor hc => ?_
  rw [h.shows cursor hc]
  exact hbefore.bind <| .pos rfl <| hmember.bind .pure

/-- An optional call is no access. -/
theorem accessStep_optionalCall (h : Passes P (.punct "?.") P₁) (hopen : Shows P₁ (.punct "("))
    (link : Reader.Link) : Leads P (Reader.accessStep r c link) none P := by
  have hbefore : Leads P (Reader.beforeOptionalMember c) false P := by
    refine .looksLike (Q := P₁) (.bind (.advance h) (.get fun cursor hc => ?_))
    rw [hopen cursor hc]
    exact .pure
  obtain ⟨e, o⟩ := link
  refine .get fun cursor hc => ?_
  rw [h.shows cursor hc]
  exact hbefore.bind <| .neg rfl .pure

theorem accessSteps_nil {link : Reader.Link} (h : Leads P (Reader.accessStep r c link) none P)
    (limit : Nat) : Leads P (Reader.accessSteps r c (limit + 1) link) link P :=
  h.bind .pure

/-! ## Calls -/

theorem callStep {callee : Expr} {es : List Expr}
    (hcallee : ∀ inner, callee ≠ .wrapped .instantiation inner)
    (h : Leads P (Reader.arguments r c.enclosed) es Q) (o : Bool) :
    Leads P (Reader.callStep r c callee o) (.call callee es o) Q := by
  refine h.bind ?_
  split
  · exact absurd rfl (hcallee _)
  · exact .pure

theorem optionalCall {callee : Expr} {es : List Expr} (h : Passes P (.punct "?.") P₁)
    (hopen : Shows P₁ (.punct "(")) (hcallee : ∀ inner, callee ≠ .wrapped .instantiation inner)
    (hargs : Leads P₁ (Reader.arguments r c.enclosed) es Q) :
    Leads P (Reader.optionalCall r c callee) (.call callee es true) Q := by
  refine .bind (.advance h) <| .bind (.atAnyPunct hopen _) <| .neg rfl (.get fun cursor hc => ?_)
  rw [hopen cursor hc]
  exact .callStep hcallee hargs true

/-! ## Operators and assignments -/

theorem infixAbove?_none (h : Shows P t) (ht : Infix.ofToken? t = none) (least : Nat) :
    Leads P (Reader.infixAbove? c least) none P := by
  have hangle : Leads P Reader.joinRightAngle () P := by
    refine .get fun cursor hc => ?_
    rw [h cursor hc]
    split
    · cases ht
    · exact .pure
  refine hangle.bind (.get fun cursor hc => ?_)
  rw [h cursor hc, ht]
  exact .pure

theorem updateExpression {e : Expr} (hp : Shows P t) (ht : t.updateOp? = none)
    (h : Leads P (Reader.callChain r c) e Q) (hq : Shows Q u) (hu : u.updateOp? = none) :
    Leads P (Reader.updateExpression r c) e Q := by
  refine .get fun cursor hc => ?_
  rw [hp cursor hc]
  split
  case h_1 op hop => cases hop.symm.trans ht
  case h_2 =>
    refine h.bind (.get fun cursor hc => ?_)
    rw [hq cursor hc]
    split
    case h_1 op hop => cases hop.symm.trans hu
    case h_2 => exact .pure

/-- A chain is read as an operand that no operator follows. -/
theorem binaryExpression {e : Expr} (hp : Shows P t) (ht : t.startsOperand = true)
    (h : Leads P (Reader.callChain r c) e Q) (hq : Shows Q u) (hu : u.updateOp? = none)
    (hoperator : Leads Q (Reader.infixAbove? c 0) none Q) :
    Leads P (Reader.binaryExpression r c 0) e Q := by
  obtain ⟨hunary, hupdate⟩ := Token.no_operator_of_startsOperand ht
  have hawait : Leads P (Reader.atAwait c) false P :=
    .bind (.atWord hp "await") <| .neg (Token.isWord_await_of_startsOperand ht) .pure
  have hoperand : Leads P (Reader.unaryExpression r c) e Q := by
    refine .get fun cursor hc => ?_
    rw [hp cursor hc, hunary]
    exact .bind (.atPunct hp "<") <| .neg (Token.isPunct_eq_false ht rfl) <|
      hawait.bind <| .neg rfl <| .updateExpression hp hupdate h hq hu
  have hfirst : Leads P (Reader.firstOperand r c 0) e Q := by
    refine .get fun cursor hc => ?_
    rw [hp cursor hc]
    split
    · cases ht
    · exact hoperand
  exact .bind (.atPunct hp "(") <| hfirst.bind <| hoperator.bind .pure

/-- A chain that is neither assigned to nor a condition. -/
theorem assignTail_end {e : Expr} (h : Shows P t) (ht : t.endsValue = true) (allowReturnType : Bool) :
    Leads P (Reader.assignTail r c allowReturnType e) e P := by
  have hmark : t.isPunct "?" = false := Token.isPunct_eq_false ht rfl
  simp only [Token.endsValue, Bool.and_eq_true, Option.isNone_iff_eq_none, bne_iff_ne] at ht
  refine .get fun cursor hc => ?_
  rw [h cursor hc]
  dsimp only
  rw [ht.1.1]
  split
  case h_1 => exact absurd rfl ht.2
  case h_2 op _ hop => cases hop
  case h_3 => exact .bind (.eat_not h hmark) <| .neg rfl .pure

/-- A chain is read as an expression where no operator follows. -/
theorem assignExpression_of_operand {e : Expr} (hp : Shows P t)
    (ht : t.startsOperand = true) (hyield : Leads P (Reader.atYield c) false P)
    (harrow : Leads P (Reader.arrow? r c allowReturnType) none P)
    (h : Leads P (Reader.callChain r c) e Q) (hq : Shows Q u) (hu : u.updateOp? = none)
    (hoperator : Leads Q (Reader.infixAbove? c 0) none Q) (hvalue : u.endsValue = true) :
    Leads P (Reader.assignExpression r c allowReturnType) e Q :=
  hyield.bind <| .neg rfl <| harrow.bind <| (binaryExpression hp ht h hq hu hoperator).bind <|
    .assignTail_end hq hvalue allowReturnType

theorem assignExpression {e : Expr} (hp : Shows P t)
    (ht : t.startsOperand = true) (hyield : Leads P (Reader.atYield c) false P)
    (harrow : Leads P (Reader.arrow? r c allowReturnType) none P)
    (h : Leads P (Reader.callChain r c) e Q) (hq : Shows Q u) (hu : u.endsAssign = true) :
    Leads P (Reader.assignExpression r c allowReturnType) e Q := by
  obtain ⟨hoperand, hvalue⟩ := Bool.and_eq_true_iff.1 hu
  simp only [Token.endsOperand, Bool.and_eq_true, Option.isNone_iff_eq_none] at hoperand
  exact assignExpression_of_operand hp ht hyield harrow h hq hoperand.2
    (infixAbove?_none hq hoperand.1.2 0) hvalue

end Leads

end CustomElement.Script
