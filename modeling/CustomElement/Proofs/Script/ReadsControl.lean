import CustomElement.Proofs.Script.LeadsExpressions
import CustomElement.Proofs.Script.Reads

/-!
# Runs of the readers of loops, conditionals and labels

Names, strings and lists of one name are read as statements, and statements around other ones from what
their parts are read as. An `else` behind a conditional is always read as part of it, so that a
conditional without one ends in front of other lexemes only (`Reads.statement_if`).
-/

namespace CustomElement.Script

open CustomElement.Grammar

/-! ## Names -/

/-- Whether a word is an identifier that is a name wherever a statement may start. The words `await`,
`let`, `static` and `yield` are keywords of modules, and `global` may start a declaration. -/
def isStatementName (w : String) : Bool :=
  Text.isIdentifierName w.toList && isNameWord w &&
    !(["await", "global", "let", "static", "yield"].contains w)

/-- Whether an operator takes a type, which it only does on the same line. -/
def Infix.isOnType (op : Infix) : Bool :=
  op == .asType || op == .satisfies

section Names

variable {w : String} (hw : isStatementName w = true)

include hw

theorem isNameWord_of_isStatementName : isNameWord w = true := by
  simp only [isStatementName, Bool.and_eq_true] at hw
  exact hw.1.2

theorem ne_of_isStatementName (v : String) (hv : isStatementName v = false) : w ≠ v := by
  rintro rfl
  cases hw.symm.trans hv

theorem takesAsKeyword_of_isStatementName (c : Context) : c.takesAsKeyword w = false := by
  simp [Context.takesAsKeyword, ne_of_isStatementName hw "await" rfl,
    ne_of_isStatementName hw "yield" rfl]

/-- A name is the symbol of no operator. -/
theorem find?_symbol_name {α : Type} {symbol : α → String} {all : List α}
    (hall : (all.all fun a => !isStatementName (symbol a)) = true) : all.find? (symbol · == w) = none := by
  refine List.find?_eq_none.2 fun a ha heq => ?_
  obtain rfl := eq_of_beq heq
  cases hw.symm.trans ((Bool.not_eq_true' _).mp (List.all_eq_true.1 hall a ha))

theorem startsOperand_of_isStatementName : (Token.word w false).startsOperand = true := by
  have hunary : Tree.UnaryOp.ofSymbol? w = none := find?_symbol_name hw (by decide)
  simp [Token.startsOperand, ne_of_isStatementName hw "await" rfl, hunary]

/-- A name is no operator, unless one that takes a type. -/
theorem isOnType_of_isStatementName : (Infix.ofSymbol? w).all Infix.isOnType = true := by
  have hbinary : Tree.BinaryOp.ofSymbol? w = none := find?_symbol_name hw (by decide)
  have hlogical : Tree.LogicalOp.ofSymbol? w = none := find?_symbol_name hw (by decide)
  rw [Infix.ofSymbol?, hbinary, hlogical]
  dsimp only
  split
  · rfl
  · split <;> rfl

end Names

/-! ## What ends operands -/

/-- The punctuators in front of which an operand ends. -/
def operandEnds : List String :=
  [")", "]", ";", ":", "\x7d", "\x7b"]

/-- Whether an operand by itself may end in front of a token. -/
def Token.endsItself : Token → Bool
  | .eof | .string .. | .word .. => true
  | .punct p => operandEnds.contains p
  | _ => false

/-- Whether no operator follows an operand by itself, and no name or string on its line: words are no
operators on a new line, nor is the word `in` where it separates the parts of a loop. -/
def noneHere (allowIn : Bool) : List Lexeme → Bool
  | ⟨.word w _, newline⟩ :: _ =>
    newline && (Infix.ofSymbol? w).all Infix.isOnType || !allowIn && w == "in"
  | ⟨.string .., newline⟩ :: _ => newline
  | _ => true

/-- Whether an operand by itself ends in front of lexemes. -/
def endsItself (allowIn : Bool) (ts : List Lexeme) : Bool :=
  (front ts).endsItself && noneHere allowIn ts

/-- Whether a statement without a semicolon ends in front of lexemes, whichever statement it is. -/
def endsLine (ts : List Lexeme) : Bool :=
  endsItself true ts && endsHere ts && !(front ts).isAnyPunct [";", ":"]

/-- A statement ends with the lexemes `last` in front of others: with a semicolon, or where a line ends. -/
inductive Stops : List Lexeme → List Lexeme → Prop
  | semicolon (n : Bool) (ts : List Lexeme) : Stops [.punct ";" n] ts
  | line {ts : List Lexeme} (h : endsLine ts = true) : Stops [] ts

/-- The lexemes that end a statement. -/
def stop (semicolons : Bool) : List Lexeme :=
  if semicolons then [.punct ";" false] else []

/-- A name in parentheses in front of lexemes. -/
def inParens (w : String) (ts : List Lexeme) : List Lexeme :=
  .punct "(" false :: .word w false :: .punct ")" false :: ts

/-- The lexemes of a name that may be left out. -/
def optionalName (w : Option String) : List Lexeme :=
  (w.map fun w => .word w false).toList

theorem endsLine_iff {ts : List Lexeme} : endsLine ts = true ↔
    (endsItself true ts = true ∧ endsHere ts = true) ∧ (front ts).isAnyPunct [";", ":"] = false := by
  simp only [endsLine, Bool.and_eq_true, Bool.not_eq_true']

/-- A name on a new line ends the statement before it. -/
theorem endsLine_name {w : String} (hw : isStatementName w = true) {ts : List Lexeme} :
    endsLine (.word w true :: ts) = true := by
  refine endsLine_iff.2 ⟨⟨Bool.and_eq_true_iff.2 ⟨rfl, ?_⟩, rfl⟩, rfl⟩
  simp [noneHere, isOnType_of_isStatementName hw]

namespace Token

theorem isPunct_of_not_isAnyPunct {t : Token} {symbol : String} {symbols : List String}
    (h : t.isAnyPunct symbols = false) (hs : symbol ∈ symbols) : t.isPunct symbol = false := by
  cases t with
  | punct p =>
    refine beq_eq_false_iff_ne.2 ?_
    rintro rfl
    exact Bool.eq_false_iff.1 h (List.contains_iff_mem.2 hs)
  | _ => rfl

theorem isWord_of_ne {t : Token} (h : ∀ v escaped, t ≠ .word v escaped) (w : String) :
    t.isWord w = false := by
  cases t with
  | word v escaped => exact absurd rfl (h v escaped)
  | _ => rfl

/-- What ends an operand by itself continues no chain and no value. -/
theorem ends_of_endsItself {t : Token} (h : t.endsItself = true) :
    t.endsChain = true ∧ t.updateOp? = none ∧ t.endsValue = true := by
  cases t with
  | punct p =>
    have hall : ∀ p ∈ operandEnds, (punct p).endsChain = true ∧ (punct p).updateOp? = none ∧
        (punct p).endsValue = true := by decide
    exact hall p (List.contains_iff_mem.1 h)
  | eof | string | word => exact ⟨rfl, rfl, rfl⟩
  | _ => cases h

end Token

/-- What ends a statement ends its last operand, and it is no colon. -/
theorem Stops.ends {last ts : List Lexeme} (h : Stops last ts) :
    endsItself true (last ++ ts) = true ∧ (front (last ++ ts)).isPunct ":" = false := by
  cases h with
  | semicolon => exact ⟨rfl, rfl⟩
  | line h =>
    obtain ⟨⟨hends, -⟩, hstop⟩ := endsLine_iff.1 h
    exact ⟨hends, Token.isPunct_of_not_isAnyPunct hstop (by decide)⟩

theorem Stops.endsIn {c : Context} {last ts : List Lexeme} (h : Stops last ts) (hc : c.allowIn = true) :
    endsItself c.allowIn (last ++ ts) = true :=
  hc ▸ h.ends.1

namespace Reads

variable {r : Readers} {c : Context} {n m : Bool} {place : Place} {last ts us vs : List Lexeme} {w : String}
  {e : Expr} {st st' : Stmt}

theorem atName (v : String) (escaped : Bool) :
    Sees Reader.atName (⟨.word v escaped, n⟩ :: ts) (isNameWord v) := by
  refine .get fun cursor hc => ?_
  rw [hc.token]
  exact .pure

/-- What ends an operand by itself is no name on its line. -/
theorem endsItself_cases {allowIn : Bool} (h : endsItself allowIn ts = true) :
    (∀ v escaped, front ts ≠ .word v escaped) ∨
      (∃ v escaped us, ts = ⟨.word v escaped, true⟩ :: us) ∨
      allowIn = false ∧ ∃ escaped newline us, ts = ⟨.word "in" escaped, newline⟩ :: us := by
  have hnone := (Bool.and_eq_true_iff.1 h).2
  obtain _ | ⟨⟨t, newline⟩, us⟩ := ts
  · exact .inl fun v escaped heq => by cases heq
  cases t with
  | word v escaped =>
    simp only [noneHere, Bool.or_eq_true, Bool.and_eq_true, Bool.not_eq_true', beq_iff_eq] at hnone
    obtain ⟨rfl, -⟩ | ⟨hin, rfl⟩ := hnone
    · exact .inr <| .inl ⟨v, escaped, us, rfl⟩
    · exact .inr <| .inr ⟨hin, escaped, newline, us, rfl⟩
  | _ => exact .inl fun v escaped heq => by cases heq

/-- What ends an operand by itself is no operator. -/
theorem infixAbove?_none (h : endsItself c.allowIn ts = true) : Sees (Reader.infixAbove? c 0) ts none := by
  obtain ⟨htoken, hnone⟩ := Bool.and_eq_true_iff.1 h
  obtain _ | ⟨⟨t, newline⟩, ts⟩ := ts
  · exact Leads.infixAbove?_none (stands_shows []) rfl 0
  cases t with
  | eof | string => exact Leads.infixAbove?_none (stands_shows (⟨_, newline⟩ :: ts)) rfl 0
  | punct p =>
    have hall : ∀ p ∈ operandEnds, Infix.ofSymbol? p = none := by decide
    exact Leads.infixAbove?_none (stands_shows (.punct p newline :: ts))
      (hall p (List.contains_iff_mem.1 htoken)) 0
  | word w escaped =>
    have hangle : Sees Reader.joinRightAngle (⟨.word w escaped, newline⟩ :: ts) () := by
      refine .get fun cursor hc => ?_
      rw [hc.token]
      exact .pure
    refine hangle.bind <| .get fun cursor hc => ?_
    rw [hc.token, hc.newline _ rfl, front, Infix.ofToken?]
    cases hop : Infix.ofSymbol? w with
    | none => exact .pure
    | some op =>
      simp only [noneHere, hop, Option.all_some, Bool.or_eq_true, Bool.and_eq_true,
        Bool.not_eq_true', beq_iff_eq] at hnone
      refine .ite (fun _ => .pure) fun _ => .ite (fun _ => .pure) fun hin => ?_
      obtain ⟨rfl, hon⟩ | ⟨hallow, rfl⟩ := hnone
      · exact .pos (by rw [Bool.and_true]; exact hon) .pure
      · cases hop
        rw [hallow] at hin
        exact absurd rfl hin
  | _ => cases htoken

theorem beforeFunction_not {allowIn : Bool} (h : endsItself allowIn ts = true) :
    Sees Reader.beforeFunction (.word w n :: ts) false := by
  refine Leads.looksLike (Q := Stands ts) <| Leads.bind Reads.advance ?_
  refine .bind (Reads.atWord ts "function") ?_
  obtain hword | ⟨v, escaped, us, rfl⟩ | ⟨-, escaped, newline, us, rfl⟩ := endsItself_cases h
  · rw [Token.isWord_of_ne hword]
    exact .anyNewLine fun _ => .pure
  · refine .bind Reads.onNewLine ?_
    rw [Bool.not_true, Bool.and_false]
    exact .pure
  · exact .anyNewLine fun _ => .pure

/-! ## Operands by themselves -/

/-- An operand by itself, from what it is read as. -/
theorem assign_of_primary (hstart : (front ts).startsOperand = true)
    (hyield : (front ts).isWord "yield" = false) {allowReturnType : Bool}
    (harrow : Sees (Reader.arrow? r c allowReturnType) ts none)
    (hprimary : Reads (Reader.primary r c) ts e us) (h : endsItself c.allowIn us = true) :
    Reads (Reader.assignExpression r c allowReturnType) ts e us := by
  obtain ⟨hchain, hupdate, hvalue⟩ := Token.ends_of_endsItself (Bool.and_eq_true_iff.1 h).1
  have haccess : Sees (Reader.accessSteps r c (r.limit + 1) (e, false)) us (e, false) :=
    Leads.accessSteps_nil
      (.accessStep_end (stands_shows us) (Token.endsAccess_of_endsChain hchain) _) _
  have hcalls : Reads (Reader.callChain r c) ts e us :=
    hprimary.bind <| .bind (.bind haccess <| .bind (.atPunct us "?.") <|
      .neg (Token.isPunct_eq_false hchain rfl) <| .bind (.atPunct us "(") <|
        .neg (Token.isPunct_eq_false hchain rfl) .pure) .pure
  have hno : Sees (Reader.atYield c) ts false := .bind (.atWord ts "yield") <| .neg hyield .pure
  exact Leads.assignExpression_of_operand (stands_shows ts) hstart hno harrow hcalls (stands_shows us)
    hupdate (infixAbove?_none h) hvalue

theorem expression_of_assign (h : Reads (r.assign { c with inDecorator := false } true) ts e us)
    (hends : (front us).endsItself = true) : Reads (Reader.expression r c) ts e us :=
  Leads.expression h (stands_shows us) (Token.isPunct_eq_false hends rfl)

section Name

variable (hw : isStatementName w = true)

include hw

/-- A name by itself starts no arrow function. -/
theorem arrow?_name (h : endsItself c.allowIn ts = true) (allowReturnType : Bool) :
    Sees (Reader.arrow? r c allowReturnType) (.word w n :: ts) none := by
  by_cases hasync : w = "async"
  · subst hasync
    have htoken := (Bool.and_eq_true_iff.1 h).1
    have hsimple : Sees Reader.atAsyncArrow (.word "async" n :: ts) false := by
      refine Leads.looksLike_not <| .after (Reads.expectWord rfl rfl) ?_
      obtain hword | ⟨v, escaped, us, rfl⟩ | ⟨-, escaped, newline, us, rfl⟩ := endsItself_cases h
      · exact .anyNewLine fun newline => .after (Leads.atWordLike_not (stands_shows ts) hword _) <|
          .pos (Bool.or_true newline) <| .bind .fail
      · exact .after Reads.onNewLine <| .after (Reads.atName _ _) <| .pos rfl <| .bind .fail
      · exact .anyNewLine fun newline => .after (Reads.atName _ _) <|
          .pos (Bool.or_true newline) <| .bind .fail
    exact Leads.arrow?_async (stands_passes _) (stands_shows ts) hsimple
      (Token.isPunct_eq_false htoken rfl) (Token.isPunct_eq_false htoken rfl)
  · exact Leads.arrow?_none (stands_shows (.word w n :: ts)) (beq_eq_false_iff_ne.2 hasync) rfl rfl

/-- A name by itself. -/
theorem assign_name (h : endsItself c.allowIn ts = true) (allowReturnType : Bool) :
    Reads (Reader.assignExpression r c allowReturnType) (.word w n :: ts) (.identifier w) ts := by
  have hstart : (front (.word w n :: ts)).startsOperand = true := startsOperand_of_isStatementName hw
  exact assign_of_primary hstart
    (beq_eq_false_iff_ne.2 (ne_of_isStatementName hw "yield" rfl)) (arrow?_name hw h allowReturnType)
    (Leads.primary_name_of (stands_passes _) (beforeFunction_not h) (isNameWord_of_isStatementName hw)
      (takesAsKeyword_of_isStatementName hw c)) h

theorem expression_name (h : endsItself c.allowIn ts = true) :
    Reads (Reader.expression r.next c) (.word w n :: ts) (.identifier w) ts :=
  expression_of_assign (assign_name (c := { c with inDecorator := false }) hw h true)
    (Bool.and_eq_true_iff.1 h).1

/-- A list of one name. -/
theorem expression_list (h : endsItself c.allowIn ts = true) :
    Reads (Reader.expression r.next.next c)
      (.punct "[" n :: .word w false :: .punct "]" false :: ts) (.array [some (.identifier w)] false)
      ts := by
  have helement : ∀ c : Context, Reads (Reader.arrayElement r.next c.withIn)
      (.word w false :: .punct "]" false :: ts) (some (.identifier w)) (.punct "]" false :: ts) :=
    fun c => .bind (.atPunct _ ",") <| .neg rfl <|
      .bind (.spreadOrAssign (stands_shows _) rfl (assign_name hw rfl true)) .pure
  have hprimary : ∀ c : Context, Reads (Reader.primary r.next c)
      (.punct "[" n :: .word w false :: .punct "]" false :: ts)
      (.array [some (.identifier w)] false) ts := by
    intro c
    refine .get fun cursor hc => ?_
    rw [hc.token]
    exact .bind (.expect rfl) <| .bind (Leads.separated_one (stands_shows _) rfl (helement c)
      (stands_shows _) rfl r.next.limit) <| .bind (.expect rfl) .pure
  exact expression_of_assign (assign_of_primary rfl rfl (Leads.arrow?_none (stands_shows _) rfl rfl rfl)
    (hprimary _) h) (Bool.and_eq_true_iff.1 h).1

end Name

/-! ## Names at the start of statements -/

/-- What ends an operand by itself is no name on its line. -/
theorem nameHere_not (h : endsItself true ts = true) :
    Sees (do return (← Reader.atName) && !(← Reader.onNewLine)) ts false := by
  obtain hword | ⟨v, escaped, us, rfl⟩ | ⟨hin, -⟩ := endsItself_cases h
  · exact Leads.bind (.atWordLike_not (stands_shows ts) hword _) <| .anyNewLine fun _ => .pure
  · refine .bind (.atName v escaped) <| .bind .onNewLine ?_
    rw [Bool.not_true, Bool.and_false]
    exact .pure
  · cases hin

theorem beforeNameOrString_not (h : endsItself true ts = true) :
    Sees Reader.beforeNameOrString (.word w n :: ts) false := by
  refine Leads.looksLike (Q := Stands ts) <| Leads.bind Reads.advance ?_
  have hnone := (Bool.and_eq_true_iff.1 h).2
  obtain _ | ⟨⟨t, newline⟩, us⟩ := ts
  · refine .anyNewLine fun _ => .ite (fun _ => .pure) fun _ => .get fun cursor hc => ?_
    rw [hc.token]
    exact .pure
  refine .bind Reads.onNewLine <| .ite (fun _ => .pure) fun hline => .get fun cursor hc => ?_
  rw [hc.token]
  cases t with
  | word v escaped =>
    simp only [noneHere, Bool.not_true, Bool.false_and, Bool.or_false, Bool.and_eq_true] at hnone
    exact absurd hnone.1 hline
  | string value raw => exact absurd hnone hline
  | _ => exact .pure

theorem isDeclaration_none (h : ∀ v escaped, front ts ≠ .word v escaped) (limit : Nat) :
    Sees (Reader.isDeclaration limit) ts false := by
  cases limit with
  | zero => exact .pure
  | succ limit =>
    refine .get fun cursor hc => ?_
    rw [hc.token]
    split
    · exact absurd ‹_› (h _ _)
    · exact .pure

/-- A name by itself starts no declaration, not even if it is a modifier of declarations elsewhere. -/
theorem isDeclaration_name (hw : isStatementName w = true) (h : endsItself true ts = true) (limit : Nat) :
    Leads (Stands (.word w n :: ts)) (Reader.isDeclaration limit) false fun _ => True := by
  have hne := ne_of_isStatementName hw
  cases limit with
  | zero => exact Leads.pure.forget
  | succ limit =>
    refine .get fun cursor hc => ?_
    rw [hc.token]
    have hreserved : ["var", "let", "const", "function", "class", "enum"].contains w = false := by
      simp [hne "var" rfl, hne "let" rfl, hne "const" rfl, hne "function" rfl, hne "class" rfl,
        hne "enum" rfl]
    refine .neg hreserved <| .ite (fun _ => ?_) fun _ =>
      .ite (fun _ => (beforeNameOrString_not h).forget) fun _ => .ite (fun _ => ?_) fun _ =>
      .neg (beq_eq_false_iff_ne.2 (hne "global" rfl)) <|
      .neg (beq_eq_false_iff_ne.2 (hne "import" rfl)) <|
      .neg (beq_eq_false_iff_ne.2 (hne "static" rfl)) Leads.pure.forget
    · have hbefore : Sees Reader.beforeName (.word w n :: ts) false :=
        Leads.looksLike (Leads.bind Reads.advance (nameHere_not h))
      exact hbefore.forget
    · refine .bind Reads.advance ?_
      obtain hword | ⟨v, escaped, us, rfl⟩ | ⟨hin, -⟩ := endsItself_cases h
      · refine .anyNewLine fun _ => .ite (fun _ => Leads.pure.forget) fun _ => ?_
        refine .bind (Reads.atWord ts "type") ?_
        rw [Token.isWord_of_ne hword, Bool.and_false]
        exact .neg rfl (isDeclaration_none hword limit).forget
      · exact .bind Reads.onNewLine <| .pos rfl Leads.pure.forget
      · cases hin

/-- A statement that starts with a word. -/
theorem statement_keyword (h : Reads (Reader.wordStatement r c place w false) (.word w n :: ts) st us) :
    Reads (Reader.statementOf r c place) (.word w n :: ts) st us := by
  refine .get fun cursor hc => ?_
  rw [hc.token]
  exact h

/-- A statement that starts with a name by itself is one, or has it as its label. -/
theorem statement_word (hw : isStatementName w = true) (hts : endsItself true ts = true)
    (h : Reads (Reader.expressionOrLabel r c) (.word w n :: ts) st us) :
    Reads (Reader.statementOf r c place) (.word w n :: ts) st us := by
  have husing : Sees Reader.atUsing (.word w n :: ts) false := by
    by_cases hword : w = "using"
    · subst hword
      exact Leads.looksLike (Leads.bind (Reads.expectWord rfl rfl) (nameHere_not hts))
    · exact Leads.looksLike_not <| .bind <|
        .expectWord (stands_shows (.word w n :: ts)) (beq_eq_false_iff_ne.2 hword)
  have hawait : Sees Reader.atAwaitUsing (.word w n :: ts) false :=
    Leads.looksLike_not <| .bind <| .expectWord (stands_shows (.word w n :: ts))
      (beq_eq_false_iff_ne.2 (ne_of_isStatementName hw "await" rfl))
  have hdeclaration : Sees (Reader.atDeclaration r) (.word w n :: ts) false :=
    Leads.looksLike (isDeclaration_name hw hts _)
  have hother : Reads (Reader.otherStatement r c place) (.word w n :: ts) st us :=
    husing.bind <| hawait.bind <| .neg rfl <| hdeclaration.bind <| .neg rfl h
  refine statement_keyword ?_
  unfold Reader.wordStatement
  split
  case h_15 =>
    exact (beforeFunction_not hts).bind <| .neg rfl hother
  case h_21 => exact hother
  all_goals cases hw

/-! ## Statements -/

theorem endStatement_stops (h : Stops last ts) : Reads Reader.endStatement (last ++ ts) () ts := by
  cases h with
  | semicolon => exact .endStatement rfl
  | line h =>
    obtain ⟨⟨-, hhere⟩, hstop⟩ := endsLine_iff.1 h
    exact .endStatement_here (Token.isPunct_of_not_isAnyPunct hstop (by decide)) hhere

/-- A name as a statement. -/
theorem statement_name (hc : c.allowIn = true) (hw : isStatementName w = true) (h : Stops last ts) :
    Reads (Reader.statementOf r.next c place) (.word w n :: (last ++ ts))
      (.expression (.identifier w)) ts :=
  statement_word hw h.ends.1 <| (expression_name hw (h.endsIn hc)).bind <| .bind (.eat_not h.ends.2) <|
    .neg rfl <| (endStatement_stops h).bind .pure

/-- A label and its statement. -/
theorem statement_label (hw : isStatementName w = true)
    (h : Reads (r.next.statement c .label) ts st us) :
    Reads (Reader.statementOf r.next c place) (.word w n :: .punct ":" m :: ts)
      (.labeled w st) us :=
  statement_word hw rfl <| (expression_name hw rfl).bind <| .bind (.eat rfl) <| .pos rfl <| h.bind .pure

theorem statement_list (hc : c.allowIn = true) (hw : isStatementName w = true) (h : Stops last ts) :
    Reads (Reader.statementOf r.next.next c place)
      (.punct "[" n :: .word w false :: .punct "]" false :: (last ++ ts))
      (.expression (.array [some (.identifier w)] false)) ts := by
  refine .get fun cursor hcursor => ?_
  rw [hcursor.token]
  exact (expression_list hw (h.endsIn hc)).bind <| (endStatement_stops h).bind .pure

theorem statement_string {value raw : String} (hc : c.allowIn = true) (h : Stops last ts) :
    Reads (Reader.statementOf r.next c place) (⟨.string value raw, n⟩ :: (last ++ ts))
      (.expression (.literal ⟨.string value, none, none⟩)) ts := by
  have hprimary : ∀ c : Context, Reads (Reader.primary r c) (⟨.string value raw, n⟩ :: (last ++ ts))
      (.literal ⟨.string value, none, none⟩) (last ++ ts) := by
    intro c
    refine .get fun cursor hcursor => ?_
    rw [hcursor.token]
    exact .bind .advance .pure
  have hread : Reads (Reader.expression r.next c) (⟨.string value raw, n⟩ :: (last ++ ts))
      (.literal ⟨.string value, none, none⟩) (last ++ ts) :=
    expression_of_assign (assign_of_primary rfl rfl (Leads.arrow?_none (stands_shows _) rfl rfl rfl)
      (hprimary _) (h.endsIn hc)) (Bool.and_eq_true_iff.1 h.ends.1).1
  refine .get fun cursor hcursor => ?_
  rw [hcursor.token]
  exact hread.bind <| (endStatement_stops h).bind .pure

theorem statement_empty : Reads (Reader.statementOf r c place) (.punct ";" n :: ts) .empty ts := by
  refine .get fun cursor hc => ?_
  rw [hc.token]
  exact .bind .advance .pure

theorem statement_block {sts : List Stmt} (h : Reads (Reader.statements r c) ts sts
      (.punct "\x7d" m :: us)) :
    Reads (Reader.statementOf r c place) (.punct "\x7b" n :: ts) (.block sts) us := by
  have hblock : Reads (Reader.block r c) (.punct "\x7b" n :: ts) sts us :=
    .bind (.expect rfl) <| h.bind <| .bind (.expect rfl) .pure
  refine .get fun cursor hc => ?_
  rw [hc.token]
  exact hblock.bind .pure

theorem condition (hw : isStatementName w = true) :
    Reads (Reader.condition r.next c) (inParens w ts) (.identifier w) ts :=
  .bind (.expect rfl) <| (expression_name hw rfl).bind <| .bind (.expect rfl) .pure

/-- A conditional without `else`, which none may follow. -/
theorem statement_if (hw : isStatementName w = true) (h : Reads (r.next.statement c .clause) ts st us)
    (helse : (front us).isWord "else" = false) :
    Reads (Reader.statementOf r.next c place) (.word "if" n :: inParens w ts)
      (.if (.identifier w) st) us :=
  statement_keyword <| .bind (.bump rfl) <| (condition hw).bind <| h.bind <|
    .bind (.eatWord_not helse) <| .neg rfl .pure

theorem statement_ifElse (hw : isStatementName w = true)
    (h : Reads (r.next.statement c .clause) ts st (.word "else" m :: us))
    (h' : Reads (r.next.statement c .clause) us st' vs) :
    Reads (Reader.statementOf r.next c place) (.word "if" n :: inParens w ts)
      (.ifElse (.identifier w) st st') vs :=
  statement_keyword <| .bind (.bump rfl) <| (condition hw).bind <| h.bind <| .bind (.eatWord rfl rfl) <|
    .pos rfl <| h'.bind .pure

theorem statement_while (hw : isStatementName w = true)
    (h : Reads (r.next.statement c .clause) ts st us) :
    Reads (Reader.statementOf r.next c place) (.word "while" n :: inParens w ts)
      (.while (.identifier w) st) us :=
  statement_keyword <| .bind (.bump rfl) <| (condition hw).bind <| h.bind .pure

theorem statement_do (hw : isStatementName w = true)
    (h : Reads (r.next.statement c .clause) ts st (.word "while" m :: inParens w (last ++ us)))
    (hend : Stops last us) :
    Reads (Reader.statementOf r.next c place) (.word "do" n :: ts) (.doWhile (.identifier w) st) us := by
  have htest : ∃ b, Reads (Reader.eat ";") (last ++ us) b us := by
    cases hend with
    | semicolon => exact ⟨true, .eat rfl⟩
    | line hline =>
      exact ⟨false, .eat_not (Token.isPunct_of_not_isAnyPunct (endsLine_iff.1 hline).2 (by decide))⟩
  obtain ⟨b, htest⟩ := htest
  exact statement_keyword <| .bind (.bump rfl) <| h.bind <| .bind (.expectWord rfl rfl) <|
    (condition hw).bind <| htest.bind .pure

/-- A function without parameters. -/
theorem statement_function {sts : List Stmt} (hw : isStatementName w = true)
    (h : Reads (Reader.bodyStatements r { c.ofFunction false false with inFunction := true } (r.limit + 1))
      ts sts (.punct "\x7d" m :: us)) :
    Reads (Reader.statementOf r c place) (.word "function" n :: .word w false :: .punct "(" false ::
        .punct ")" false :: .punct "\x7b" false :: ts)
      (.function ⟨some w, [], sts, false, false⟩) us := by
  have hspecial : ∀ vs, Sees Reader.atSpecialFunction (.word "function" n :: .word w false :: vs) false :=
    fun vs => Leads.looksLike <| Leads.bind (Reads.atWord _ "async") <| .neg rfl <|
      .bind (Reads.expectWord rfl rfl) (Reads.atPunct _ "*")
  have hname : ∀ vs, Reads (some <$> Reader.name c) (.word w false :: vs) (some w) vs := fun vs => by
    rw [map_eq_pure_bind]
    exact Leads.bind (.name (stands_passes _) (isNameWord_of_isStatementName hw)
      (takesAsKeyword_of_isStatementName hw c)) .pure
  have hbody : Reads (Reader.functionBody r (c.ofFunction false false)) (.punct "\x7b" false :: ts) sts us :=
    .bind (.expect rfl) <| h.bind <| .bind (.expect rfl) .pure
  have hparams : ∀ vs, Reads (Reader.parameters r (c.ofFunction false false) .function)
      (.punct "(" false :: .punct ")" false :: vs) [] vs := fun vs =>
    .bind (.expect rfl) <| .bind (.bind (.eatWord_not rfl) <| .neg rfl .pure) <|
      .bind (Leads.faultIf rfl) <| .bind (Leads.separated_nil (stands_shows _) rfl r.limit) <|
      .bind (.expect rfl) <| .bind (Leads.faultIf rfl) .pure
  have hrest : Reads (Reader.functionTail r c false false) (.punct "(" false :: .punct ")" false ::
      .punct "\x7b" false :: ts) ([], some sts) us :=
    .bind (.bind (.eat_not rfl) <| .neg rfl .pure) <| (hparams _).bind <| .bind (.atPunct _ ":") <|
      .bind (Leads.faultIf rfl) <| .bind (.bind (.eat_not rfl) <| .neg rfl .pure) <|
      .bind (.atPunct _ "\x7b") <| .pos rfl <| hbody.bind .pure
  have hdeclaration : Reads (Reader.functionDeclaration r c false false) (.word "function" n ::
      .word w false :: .punct "(" false :: .punct ")" false :: .punct "\x7b" false :: ts)
      (some ⟨some w, [], sts, false, false⟩) us :=
    .bind (.expectWord rfl rfl) <| .bind (.eat_not rfl) <| .bind (.atName w false) <|
      .pos (Bool.or_true _) <| (hname _).bind <| hrest.bind .pure
  exact statement_keyword <| (hspecial _).bind <| .bind (Leads.faultIf rfl) <|
    .bind (.eatWord_not rfl) <| hdeclaration.bind <| .bind (Leads.faultIf rfl) .pure

/-! ## Lists of statements -/

theorem listStatement (heof : (front ts == .eof) = false)
    (hclose : (front ts).isPunct "\x7d" = false) (h : Reads (r.statement c .list) ts st us) :
    Reads (Reader.listStatement r c) ts (some st) us := by
  have hopen : Sees Reader.atListEnd ts false := by
    refine .get fun cursor hc => ?_
    rw [hc.token]
    split
    case h_1 heq =>
      rw [heq] at heof
      cases heof
    case h_2 symbol heq =>
      rw [heq] at hclose
      rw [show (symbol == "\x7d") = false from hclose]
      exact .pure
    case h_3 => exact .pure
  exact hopen.bind <| .neg rfl <| h.bind .pure

theorem listStatement_end : Sees (Reader.listStatement r c) (.punct "\x7d" n :: ts) none := by
  have hclose : Sees Reader.atListEnd (.punct "\x7d" n :: ts) true := by
    refine .get fun cursor hc => ?_
    rw [hc.token]
    exact .pure
  exact hclose.bind <| .pos rfl .pure

/-- A body without a string at its start. -/
theorem bodyStatements_statements {sts : List Stmt} {limit : Nat}
    (hstring : ∀ value raw, front ts ≠ .string value raw) (h : Reads (Reader.statements r c) ts sts us) :
    Reads (Reader.bodyStatements r c (limit + 1)) ts sts us := by
  refine .get fun cursor hc => ?_
  rw [hc.token]
  split
  · exact absurd ‹_› (hstring _ _)
  · exact h

/-- A string at the start of a body is a directive. -/
theorem bodyStatements_string {sts : List Stmt} {limit : Nat} {value raw : String}
    {literal : Tree.Literal}
    (h : Reads (r.statement c .list) (⟨.string value raw, n⟩ :: ts) (.expression (.literal literal)) us)
    (hsts : Reads (Reader.bodyStatements r c limit) us sts vs) :
    Reads (Reader.bodyStatements r c (limit + 1)) (⟨.string value raw, n⟩ :: ts)
      (.directive value raw :: sts) vs := by
  refine .get fun cursor hc => ?_
  rw [hc.token]
  exact h.bind <| hsts.bind .pure

/-! ## Heads of loops -/

/-- Whether a lexeme ends what a loop starts with. -/
def endsStart (l : Lexeme) : Prop :=
  l = .punct ";" false ∨ l = .word "in" false

/-- What a loop starts with may be a name. -/
theorem loopStart_name {l : Lexeme} (hw : isStatementName w = true) (hl : endsStart l) :
    Reads (Reader.loopStart r.next c) (.word w n :: l :: ts)
      (.expression (.identifier w)) (l :: ts) := by
  have hne : ∀ v, isStatementName v = false → (front (.word w n :: l :: ts)).isWord v = false :=
    fun v hv => beq_eq_false_iff_ne.2 (ne_of_isStatementName hw v hv)
  have hlet : Sees Reader.atLoopLet (.word w n :: l :: ts) false := by
    refine Leads.looksLike_not <| .get fun cursor hc => ?_
    rw [hc.token]
    split
    case h_1 heq => exact absurd (Token.word.inj heq).1 (ne_of_isStatementName hw "let" rfl)
    case h_2 => exact .bind .fail
  have husing : Sees Reader.atLoopUsing (.word w n :: l :: ts) false := by
    by_cases hu : w = "using"
    · subst hu
      refine Leads.looksLike (Q := Stands (l :: ts)) <| Leads.bind (Reads.expectWord rfl rfl) ?_
      obtain rfl | rfl := hl
      · exact Reads.bind .onNewLine <| .neg rfl <| .bind (.atWord _ "of") <| .neg rfl <|
          Leads.atWordLike_not (stands_shows _) (fun v escaped heq => by cases heq) _
      · exact Reads.bind .onNewLine <| .neg rfl <| .bind (.atWord _ "of") <| .neg rfl <|
          .atName "in" false
    · exact Leads.looksLike_not <| .bind <|
        .expectWord (stands_shows (.word w n :: l :: ts)) (beq_eq_false_iff_ne.2 hu)
  have hawait : Sees Reader.atLoopAwaitUsing (.word w n :: l :: ts) false :=
    Leads.looksLike_not <| .bind <| .expectWord (stands_shows (.word w n :: l :: ts))
      (hne "await" rfl)
  have hends : endsItself false (l :: ts) = true := by
    obtain rfl | rfl := hl <;> rfl
  exact .bind (.atPunct _ ";") <| .neg rfl <| hlet.bind <| .neg rfl <|
    .bind (.atWord _ "const") <| .neg (hne "const" rfl) <| .bind (.atWord _ "var") <|
    .neg (hne "var" rfl) <| husing.bind <| hawait.bind <| .neg rfl <|
    (expression_name hw hends).bind .pure

theorem atAsyncOf_name {l : Lexeme} (hl : endsStart l) :
    Sees Reader.atAsyncOf (.word w n :: l :: ts) false := by
  by_cases hw : w = "async"
  · subst hw
    have hno : Sees (Reader.atWord "of") (l :: ts) false := by
      obtain rfl | rfl := hl <;> exact .atWord _ "of"
    refine Leads.looksLike (Q := Stands (l :: ts)) <| .get fun cursor hc => ?_
    rw [hc.token]
    exact Leads.bind Reads.advance hno
  · refine Leads.looksLike_not <| .get fun cursor hc => ?_
    rw [hc.token]
    split
    case h_1 heq => exact absurd (Token.word.inj heq).1 hw
    case h_2 => exact .bind .fail

theorem statement_forIn {v : String} (hw : isStatementName w = true) (hv : isStatementName v = true)
    (h : Reads (r.next.statement c .clause) ts st us) :
    Reads (Reader.statementOf r.next c place) (.word "for" n :: .punct "(" false ::
        .word w false :: .word "in" false :: .word v false :: .punct ")" false :: ts)
      (.forEach .keys (.identifier w) (.identifier v) st false) us := by
  have htarget : ∀ vs, Sees (Reader.asTarget (.identifier w)) vs () := by
    intro vs c hc
    refine ⟨{ c with pending := c.pending - 0 }, rfl, hc.token, hc.newline, hc.sound, ?_, hc.rest⟩
    rw [hc.settled]
  have htail : Reads (Reader.forEachTail r.next c .keys (.expression (.identifier w)) false)
      (.word "in" false :: .word v false :: .punct ")" false :: ts)
      (.forEach .keys (.identifier w) (.identifier v) st false) us :=
    .bind (.bump rfl) <| (expression_name hv rfl).bind <| .bind (.expect rfl) <| h.bind .pure
  exact statement_keyword <| .bind (.bump rfl) <| .bind (.eatWord_not rfl) <|
    .bind (Leads.faultIf rfl) <| .bind (.expect rfl) <| (atAsyncOf_name (.inr rfl)).bind <|
    (loopStart_name hw (.inr rfl)).bind <| .bind (.atWord _ "in") <| .pos rfl <|
    .bind (Leads.faultIf rfl) <| (htarget _).bind htail

theorem optionalExpression {w : Option String} {close : String}
    (hw : ∀ v ∈ w, isStatementName v = true) (hclose : endsItself true (.punct close n :: ts) = true) :
    Reads (Reader.optionalExpression r.next c close) (optionalName w ++ .punct close n :: ts)
      (w.map Expr.identifier) (.punct close n :: ts) := by
  cases w with
  | none => exact .bind (.atPunct _ close) <| .pos (beq_self_eq_true close) .pure
  | some v =>
    exact .bind (.atPunct _ close) <| .neg rfl <| (expression_name (hw v rfl) hclose).bind .pure

theorem statement_for {init test update : Option String} (hi : ∀ v ∈ init, isStatementName v = true)
    (ht : ∀ v ∈ test, isStatementName v = true) (hu : ∀ v ∈ update, isStatementName v = true)
    (h : Reads (r.next.statement c .clause) ts st us) :
    Reads (Reader.statementOf r.next c place) (.word "for" n :: .punct "(" false ::
        (optionalName init ++ .punct ";" false :: (optionalName test ++ .punct ";" false ::
          (optionalName update ++ .punct ")" false :: ts))))
      (.for (init.map .identifier) (test.map .identifier) (update.map .identifier) st) us := by
  have htail : ∀ start : Reader.LoopStart, start.check c = Pure.pure () →
      Reads (Reader.forTail r.next c start)
        (.punct ";" false :: (optionalName test ++ .punct ";" false ::
          (optionalName update ++ .punct ")" false :: ts)))
        (Reader.forLoop start (test.map .identifier) (update.map .identifier) st) us := by
    intro start hcheck
    unfold Reader.forTail
    rw [hcheck]
    exact Reads.pure.bind <| .bind (.expect rfl) <| (optionalExpression ht rfl).bind <|
      .bind (.expect rfl) <| (optionalExpression hu rfl).bind <| .bind (.expect rfl) <| h.bind .pure
  refine statement_keyword <| .bind (.bump rfl) <| .bind (.eatWord_not rfl) <|
    .bind (Leads.faultIf rfl) <| .bind (.expect rfl) ?_
  cases init with
  | none =>
    have hasync : ∀ vs, Sees Reader.atAsyncOf (.punct ";" false :: vs) false := by
      refine fun vs => Leads.looksLike_not <| .get fun cursor hc => ?_
      rw [hc.token]
      exact .bind .fail
    exact (hasync _).bind <| .bind (.bind (.atPunct _ ";") <| .pos rfl .pure) <|
      .bind (.atWord _ "in") <| .neg rfl <| .bind (.atWord _ "of") <| .neg rfl <|
      .bind (Leads.faultIf rfl) (htail .nothing rfl)
  | some v =>
    exact (atAsyncOf_name (.inl rfl)).bind <| (loopStart_name (hi v rfl) (.inl rfl)).bind <|
      .bind (.atWord _ "in") <| .neg rfl <| .bind (.atWord _ "of") <| .neg rfl <|
      .bind (Leads.faultIf rfl) (htail (.expression (.identifier v)) rfl)

end Reads

end CustomElement.Script
