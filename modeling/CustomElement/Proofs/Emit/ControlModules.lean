import CustomElement.Proofs.Emit.Control

/-!
# Conditionals, loops and functions read back

A statement is printed as the lexemes of `Control.printed` (`isSet`), so that a module of such statements
is read back as what they are in `printedAll`. Strings at the start of the module or of a function are read
as directives, whatever they were before.
-/

namespace CustomElement.Emit.Control

open CustomElement.Text CustomElement.Grammar
open CustomElement.Script (Reads Reader stop inParens optionalName isStatementName front)

variable {o : Options} {n : Bool} {level : Nat}

/-! ## Printing -/

/-- The lexemes of a statement with the semicolon at its end. -/
abbrev stopped (o : Options) (newline : Bool) (s : Control) : List Lexeme :=
  s.lexemes o newline ++ stopOf o s.endsBare

theorem isToken_name (w : Name) : (Sign.word w.word).isToken = true := by
  have h := w.isName
  simp only [isStatementName, Bool.and_eq_true] at h
  exact h.1.1

/-- An expression is printed as it is if neither its start is ambiguous nor it continues a line. -/
theorem expressionStmtDoc_plain {d : Doc} (hstart : isAmbiguousStart d.chars = false) {follows : Bool}
    (hline : (follows && continuesLine d.chars) = false) (directive : Bool) :
    expressionStmtDoc follows directive d = d ++ [.stop] := by
  simp [expressionStmtDoc, hstart, hline]

theorem continuesLine_name (w : Name) : continuesLine w.word.toList = false := by
  obtain ⟨c, more, hcons, hc⟩ := head_of_identifierName (isToken_name w)
  have hnone : ∀ c ∈ ['(', '[', '`', '+', '-', '/'], isIdentifierStart c = false :=
    List.all_iff_forall_prop.1 (by decide)
  rw [hcons]
  refine Bool.eq_false_iff.2 fun hmem => ?_
  cases (hnone c (List.contains_iff_mem.1 hmem)).symm.trans hc

@[simp] theorem enclose_name (w : String) (noIn : Bool) (d : Doc) :
    enclose noIn Precedence.sequence (.identifier w) d = d := by
  cases noIn <;> rfl

/-- The head of a conditional or loop with a test. -/
theorem sets_head (keyword : String) (hkeyword : (Sign.word keyword).isToken = true) (test : Name)
    (gap : Gap) : Sets AnyText o (gap.doc ++ (word keyword ++ word " (" ++ word test.word ++ word ")"))
      (.word keyword gap.isLine :: inParens test.word []) := by
  refine .closed [⟨gap, .word keyword⟩, ⟨.blank, .punct "("⟩, ⟨.none, .word test.word⟩,
    ⟨.none, .punct ")"⟩] (by simp) ?_ rfl
  simp only [isApart, hkeyword, isToken_name]
  rfl

/-- The part of a conditional or loop behind its head. -/
theorem sets_clause {s : Control} {d : Doc} (level : Nat)
    (h : ∀ gap : Gap, Sets WordEnds o (gap.doc ++ d) ((s.printed o.quote).stopped o gap.isLine)) :
    Sets WordEnds o (clauseDoc level s.tree d) ((s.printed o.quote).stopped o (s.printed o.quote).onLine) := by
  cases s with
  | block body => exact h .blank
  | empty =>
    exact (Sets.closed [⟨.none, .punct ";"⟩] (by simp [clauseDoc, tree]) rfl rfl).mono fun _ _ => trivial
  | _ => exact h (.line (level + 1))

/-- The end of a statement. -/
theorem sets_stop {d : Doc} {ls : List Lexeme} (h : Sets WordEnds o d ls) :
    Sets WordEnds o (d ++ [.stop]) (ls ++ stop o.semicolons) := by
  cases hsemicolons : o.semicolons with
  | false =>
    have hnone : Sets WordEnds o [.stop] [] := Sets.nil.congr (by simp [render_stop, hsemicolons])
    refine h.append hnone fun rest hrest => ?_
    simpa [render_stop, hsemicolons] using hrest
  | true =>
    have hstop : Sets AnyText o [.stop] [.punct ";" false] :=
      .closed [⟨.none, .punct ";"⟩] (by simp [render_stop, hsemicolons]) rfl rfl
    refine (h.append hstop fun rest _ => ?_).mono fun _ _ => trivial
    rw [render_stop, hsemicolons]
    rintro c ⟨⟩
    decide

theorem guardOf_true (body : List Control) : guardOf (o.semicolons || !false) body = [] := by
  rw [Bool.not_false, Bool.or_true]
  unfold guardOf
  split <;> rfl

/-- A statement is printed as the lexemes of `printed`, behind any gap. -/
def IsSet (o : Options) (s : Control) : Prop :=
  ∀ level, Gives (stmtDoc level false false s.tree) fun d =>
    ∀ gap : Gap, Sets WordEnds o (gap.doc ++ d) ((s.printed o.quote).stopped o gap.isLine)

/-- A document has each statement of a list on a line of its own, and what stands on the first line is set
in lexemes behind any gap, or behind one with a line if the statements follow others. -/
def SetsLines (o : Options) (level : Nat) (follows isNil : Bool) (ls : Bool → List Lexeme) (d : Doc) : Prop :=
  isNil = true ∧ d = [] ∧ (∀ n, ls n = []) ∨ isNil = false ∧ ∃ d', d = .line level :: d' ∧
    ∀ gap : Gap, (follows = true → gap.isLine = true) → Sets WordEnds o (gap.doc ++ d') (ls gap.isLine)

/-- The lexemes of a body as it is printed. -/
abbrev printedLexemes (o : Options) (newline : Bool) (strings : List Directive) (body : List Control) :
    List Lexeme :=
  bodyLexemes o newline (spelled o.quote strings) (printedAll o.quote body)

/-- The semicolon in front of a body behind another statement, if it starts with a list. -/
def bodyGuard (o : Options) (follows : Bool) (strings : List Directive) (body : List Control) : List Lexeme :=
  guardBehind (guardOf (o.semicolons || !follows) (printedAll o.quote body)) (spelled o.quote strings)

/-- The strings and statements of a body are printed as the lexemes of `printedAll`. -/
def AreSet (o : Options) (strings : List Directive) (body : List Control) : Prop :=
  ∀ level follows, Gives (stmtDocs level false follows (stringTrees strings ++ trees body))
    (SetsLines o level follows ((spelled o.quote strings).isEmpty && (printedAll o.quote body).isEmpty) fun n =>
      bodyGuard o follows strings body ++
        printedLexemes o (n && (bodyGuard o follows strings body).isEmpty) strings body)

/-- Statements behind another one. -/
theorem SetsLines.behind {isNil : Bool} {d ds : Doc} {ls : List Lexeme} {ls' : Bool → List Lexeme}
    (h : Sets WordEnds o d ls) (h' : SetsLines o level true isNil ls' ds) :
    Sets WordEnds o (d ++ ds) (ls ++ ls' true) := by
  obtain ⟨-, rfl, hnil⟩ | ⟨-, ds', rfl, hset⟩ := h'
  · rw [hnil, List.append_nil, List.append_nil]
    exact h
  · exact h.line (hset (.line level) fun _ => rfl)

/-- The braces around statements. -/
theorem SetsLines.block {isNil : Bool} {d : Doc} {ls : Bool → List Lexeme}
    (h : SetsLines o (level + 1) false isNil ls d) (gap : Gap) :
    Sets AnyText o (gap.doc ++ blockDoc level d)
      (.punct "\x7b" gap.isLine :: (ls true ++ [.punct "\x7d" (!isNil)])) := by
  obtain ⟨rfl, rfl, hnil⟩ | ⟨rfl, d', rfl, hset⟩ := h
  · rw [hnil]
    exact .closed [⟨gap, .punct "\x7b"⟩, ⟨.none, .punct "\x7d"⟩] (by simp [blockDoc]) rfl rfl
  · have hopen : Sets AnyText o (gap.doc ++ word "\x7b") [.punct "\x7b" gap.isLine] :=
      .closed [⟨gap, .punct "\x7b"⟩] (by simp) rfl rfl
    have hclose : Sets AnyText o (.line level :: word "\x7d") [.punct "\x7d" true] :=
      .closed [⟨.line level, .punct "\x7d"⟩] (by simp) rfl rfl
    have hbody : Sets WordEnds o (.line (level + 1) :: d') (ls true) :=
      hset (.line (level + 1)) fun _ => rfl
    exact (hopen.before (hbody.line hclose)).congr (by simp [blockDoc])

theorem sets_name (w : Name) (level : Nat) (follows : Bool) :
    Gives (stmtDoc level false follows (name w).tree) fun d => ∀ gap : Gap,
      Sets WordEnds o (gap.doc ++ d) ((name w).stopped o gap.isLine) := by
  refine (Gives.pure (P := (· = word w.word)) rfl).last fun d hd gap => ?_
  subst hd
  have hword : Sets WordEnds o (gap.doc ++ word w.word) [.word w.word gap.isLine] :=
    .word [⟨gap, .word w.word⟩] (by simp) (by simp only [isApart, isToken_name]; rfl) rfl
  have hchars : (word w.word).chars = w.word.toList := by simp [Doc.chars]
  rw [enclose_name, expressionStmtDoc_plain (hchars ▸ w.isClear)
    (by rw [hchars, continuesLine_name, Bool.and_false]), ← List.append_assoc]
  exact sets_stop hword

/-- The document of a list of one name. -/
def listDoc (item : Name) : Doc :=
  word "[" ++ word item.word ++ word "]"

theorem sets_listDoc (item : Name) (gap : Gap) :
    Sets WordEnds o (gap.doc ++ (listDoc item ++ [.stop]))
      ((list item).stopped o gap.isLine) := by
  have hlist : Sets AnyText o (gap.doc ++ listDoc item)
      [.punct "[" gap.isLine, .word item.word false, .punct "]" false] :=
    .closed [⟨gap, .punct "["⟩, ⟨.none, .word item.word⟩, ⟨.none, .punct "]"⟩] (by simp [listDoc])
      (by simp only [isApart, isToken_name]; rfl) rfl
  rw [← List.append_assoc]
  exact sets_stop (hlist.mono fun _ _ => trivial)

theorem IsSet.list (item : Name) : IsSet o (.list item) :=
  fun _ => .pure fun gap => sets_listDoc item gap

/-- A statement in a list, with the semicolon in front of a list behind another statement. -/
theorem IsSet.behind {s : Control} (h : IsSet o s) (rest : List Control) (level : Nat) (follows : Bool) :
    Gives (stmtDoc level false follows s.tree) fun d => ∀ gap : Gap, (follows = true → gap.isLine = true) →
      Sets WordEnds o (gap.doc ++ d) (guardOf (o.semicolons || !follows) (s.printed o.quote :: rest) ++
        (s.printed o.quote).stopped o
          (gap.isLine && (guardOf (o.semicolons || !follows) (s.printed o.quote :: rest)).isEmpty)) := by
  cases s with
  | list item =>
    cases follows with
    | false =>
      refine .pure fun gap _ => ?_
      rw [guardOf_true, List.isEmpty_nil, Bool.and_true]
      exact sets_listDoc item gap
    | true =>
      refine .pure fun gap hgap => ?_
      rw [Bool.not_true, Bool.or_false, hgap rfl, Bool.true_and]
      change Sets WordEnds o (gap.doc ++ .guard :: (listDoc item ++ [.stop]))
        (guardOf o.semicolons (.list item :: rest) ++ (Control.list item).stopped o _)
      cases hsemicolons : o.semicolons with
      | true =>
        have hset := sets_listDoc (o := o) item gap
        rw [hgap rfl] at hset
        exact hset.congr (by simp [render_guard, hsemicolons])
      | false =>
        have hguard : Sets AnyText o (gap.doc ++ [.guard]) [.punct ";" gap.isLine] :=
          .closed [⟨gap, .punct ";"⟩] (by simp [render_guard, hsemicolons]) rfl rfl
        have hset := hguard.before (sets_listDoc item .none)
        rw [hgap rfl] at hset
        exact hset.congr (by simp [render_guard])
  | name w => exact (sets_name w level follows).mono fun d hd gap _ => (Bool.and_true _).symm ▸ hd gap
  | _ => exact (h level).mono fun d hd gap _ => (Bool.and_true _).symm ▸ hd gap

theorem bodyGuard_false (strings : List Directive) (body : List Control) :
    bodyGuard o false strings body = [] := by
  cases strings with
  | nil => exact guardOf_true _
  | cons s strings => rfl

/-- The braces around a body. -/
theorem AreSet.block {strings : List Directive} {body : List Control} (h : AreSet o strings body) (level : Nat) :
    Gives (stmtDocs (level + 1) false false (stringTrees strings ++ trees body)) fun d => ∀ gap : Gap,
      Sets AnyText o (gap.doc ++ blockDoc level d) (.punct "\x7b" gap.isLine ::
        (printedLexemes o true strings body ++
          [.punct "\x7d" (!((spelled o.quote strings).isEmpty && (printedAll o.quote body).isEmpty))])) := by
  refine (h (level + 1) false).mono fun d hd gap => ?_
  have hset := hd.block gap
  rwa [bodyGuard_false] at hset

theorem IsSet.block {body : List Control} (h : AreSet o [] body) : IsSet o (.block body) := by
  refine fun level => (h.block level).last fun d hd gap => ?_
  have hset : Sets WordEnds o _ _ := (hd gap).mono fun _ _ => trivial
  simpa [stopped, printed, lexemes, stopOf, endsBare, spelled, printedLexemes, bodyLexemes, withStrings]
    using hset

theorem IsSet.function {body : List Control} (f : Name) (strings : List Directive)
    (h : AreSet o strings body) : IsSet o (.function f strings body) := by
  intro level
  have htail : Gives (functionTailDoc level false ⟨some f.word, [], stringTrees strings ++ trees body, false,
      false⟩) fun t => ∀ gap : Gap, Sets WordEnds o (gap.doc ++ (word "function" ++ (word " " ++ word f.word) ++ t))
        (((Control.function f strings body).printed o.quote).stopped o gap.isLine) := by
    refine (Gives.pure (P := (· = [])) rfl).bind fun ps hps => (h.block level).last fun d hd gap => ?_
    subst hps
    have hhead : Sets AnyText o (gap.doc ++ (word "function " ++ word f.word ++ word "()"))
        [.word "function" gap.isLine, .word f.word false, .punct "(" false, .punct ")" false] := by
      refine .closed [⟨gap, .word "function"⟩, ⟨.blank, .word f.word⟩, ⟨.none, .punct "("⟩,
        ⟨.none, .punct ")"⟩] (by simp) ?_ rfl
      simp only [isApart, isToken_name]
      rfl
    have hset : Sets WordEnds o _ _ := (hhead.before (hd .blank)).mono fun _ _ => trivial
    simp only [stopped, printed, lexemes, stopOf, endsBare, List.append_nil]
    exact hset.congr (by simp [parens, commaSeparated])
  exact htail.last fun _ hd => hd

theorem AreSet.cons {s : Control} {body : List Control} (hs : IsSet o s) (h : AreSet o [] body) :
    AreSet o [] (s :: body) := by
  refine fun level follows => (hs.behind (printedAll o.quote body) level follows).bind fun d hd =>
    (h level true).last fun ds hds => .inr ⟨rfl, d ++ ds, rfl, fun gap hgap => ?_⟩
  have hset := SetsLines.behind (hd gap hgap) hds
  simpa [bodyGuard, guardBehind, printedLexemes, bodyLexemes, withStrings, printedAll, lexemesAll, spelled]
    using hset

/-- Strings in front of statements. -/
theorem AreSet.strings {body : List Control} (h : AreSet o [] body) (strings : List Directive) :
    AreSet o strings body := by
  induction strings with
  | nil => exact h
  | cons s rest ih =>
    intro level follows
    have hdoc : Gives (stmtDoc level false follows (.expression (.string s.1) s.2))
        (· = [.string s.1, .stop]) :=
      .pure (expressionStmtDoc_plain rfl (Bool.and_false _) _)
    refine hdoc.bind fun d hd => (ih level true).last fun ds hds => .inr ⟨rfl, d ++ ds, rfl, fun gap _ => ?_⟩
    subst hd
    have hstring : Sets AnyText o (gap.doc ++ [.string s.1])
        [⟨.string s.1 (spelling o.quote s.1), gap.isLine⟩] :=
      .closed [⟨gap, .string s.1⟩] (by simp) rfl rfl
    have hset := SetsLines.behind (sets_stop (hstring.mono fun _ _ => trivial)) hds
    simpa [bodyGuard, guardBehind, printedLexemes, bodyLexemes, withStrings, spelled, stopOf] using hset

theorem IsSet.labeled {body : Control} (label : Name) (h : IsSet o body) : IsSet o (.labeled label body) := by
  refine fun level => (h level).last fun d hd gap => ?_
  have hlabel : Sets AnyText o (gap.doc ++ (word label.word ++ word ":"))
      [.word label.word gap.isLine, .punct ":" false] :=
    .closed [⟨gap, .word label.word⟩, ⟨.none, .punct ":"⟩] (by simp)
      (by simp only [isApart, isToken_name]; rfl) rfl
  exact (hlabel.before (hd .blank)).congr (by simp)

theorem IsSet.if {body : Control} (test : Name) (h : IsSet o body) : IsSet o (.if test body) := by
  refine fun level => (h _).last fun d hd gap => ?_
  exact ((sets_head "if" rfl test gap).before (sets_clause level hd)).congr (by simp)

theorem IsSet.while {body : Control} (test : Name) (h : IsSet o body) : IsSet o (.while test body) := by
  refine fun level => (h _).last fun d hd gap => ?_
  exact ((sets_head "while" rfl test gap).before (sets_clause level hd)).congr (by simp)

theorem wordEnds_clause (level : Nat) (s : Control) (d : Doc) (rest : List Char) :
    WordEnds ((clauseDoc level s.tree d).render o ++ rest) := by
  cases s <;> (rintro c ⟨⟩; decide)

/-- What stands between a statement and the word behind it in a conditional or loop. -/
def gapBehind (level : Nat) (s : Control) : Gap :=
  if s.isBlock then .blank else .line level

theorem isLine_gapBehind (level : Nat) (s : Control) :
    (gapBehind level s).isLine = !(s.printed o.quote).isBlock := by
  cases s <;> rfl

theorem wordEnds_gapBehind (level : Nat) (s : Control) (rest : List Char) :
    WordEnds ((gapBehind level s).render o ++ rest) := by
  cases s <;> (rintro c ⟨⟩; decide)

theorem IsSet.doWhile {body : Control} (test : Name) (h : IsSet o body) : IsSet o (.doWhile test body) := by
  refine fun level => (h _).last fun d hd gap => ?_
  have hdo : Sets WordEnds o (gap.doc ++ word "do") [.word "do" gap.isLine] :=
    .word [⟨gap, .word "do"⟩] (by simp) rfl rfl
  have htest := sets_stop ((sets_head (o := o) "while" rfl test (gapBehind level body)).mono
    fun _ _ => trivial)
  rw [isLine_gapBehind] at htest
  have hclause := (sets_clause level hd).append htest fun rest _ => by
    simpa using wordEnds_gapBehind level body _
  have hset := hdo.append hclause fun rest _ => by simpa using wordEnds_clause level body d _
  simp only [stopped, List.append_assoc] at hset
  simp only [stopped, printed, lexemes, List.cons_append, List.append_assoc]
  refine hset.congr ?_
  cases body <;> simp [gapBehind, isBlock, Emit.isBlock, tree, Gap.doc]

/-- The first branch of a conditional and the `else` behind it. -/
theorem sets_branch {s : Control} {d : Doc} (level : Nat)
    (h : ∀ gap : Gap, Sets WordEnds o (gap.doc ++ d) ((s.printed o.quote).stopped o gap.isLine)) :
    Sets WordEnds o (branchDoc level s.tree d ++ word "else")
      ((s.printed o.quote).inBraces.stopped o (s.printed o.quote).inBraces.onLine ++
        [.word "else" (!(s.printed o.quote).inBraces.isBlock)]) := by
  have helse : ∀ gap : Gap, Sets WordEnds o (gap.doc ++ word "else")
      [.word "else" gap.isLine] :=
    fun gap => .word [⟨gap, .word "else"⟩] (by simp) rfl rfl
  have hbehind := (sets_clause level h).append (helse (gapBehind level s)) fun rest _ => by
    simpa using wordEnds_gapBehind level s _
  cases s with
  | «if» test body =>
    have hopen : Sets AnyText o (word " \x7b") [.punct "\x7b" false] :=
      .closed [⟨.blank, .punct "\x7b"⟩] (by simp) rfl rfl
    have hclose : Sets AnyText o (.line level :: word "\x7d") [.punct "\x7d" true] :=
      .closed [⟨.line level, .punct "\x7d"⟩] (by simp) rfl rfl
    have hset := (hopen.before ((h (.line (level + 1))).line hclose)).before (helse .blank)
    have hlist : ((Control.if test body).printed o.quote).inBraces.stopped o false =
        .punct "\x7b" false :: (((Control.if test body).printed o.quote).stopped o true ++
          [.punct "\x7d" true]) := by
      simp [stopped, printed, inBraces, lexemes, lexemesAll, guardOf, stopOf, endsBare]
    change Sets WordEnds o _ (((Control.if test body).printed o.quote).inBraces.stopped o false ++ _)
    rw [hlist]
    exact hset.congr (by simp [branchDoc, tree, blockDoc, Gap.doc])
  | _ => exact hbehind.congr (by simp [branchDoc, tree, gapBehind, isBlock, Gap.doc, clauseDoc])

theorem sets_else {s : Control} {d : Doc} (level : Nat)
    (h : ∀ gap : Gap, Sets WordEnds o (gap.doc ++ d) ((s.printed o.quote).stopped o gap.isLine)) :
    Sets WordEnds o (elseDoc level s.tree d)
      ((s.printed o.quote).stopped o (!(s.printed o.quote).isIf && (s.printed o.quote).onLine)) := by
  cases s with
  | «if» | ifElse => exact h .blank
  | _ => exact sets_clause level h

theorem wordEnds_else (level : Nat) (s : Control) (d : Doc) (rest : List Char) :
    WordEnds ((elseDoc level s.tree d).render o ++ rest) := by
  cases s <;> (rintro c ⟨⟩; decide)

theorem IsSet.ifElse {body alternate : Control} (test : Name) (h : IsSet o body)
    (h' : IsSet o alternate) : IsSet o (.ifElse test body alternate) := by
  refine fun level => (h _).bind fun d hd => (h' _).last fun d' hd' gap => ?_
  have hbranches := (sets_branch level hd).append (sets_else level hd')
    fun rest _ => wordEnds_else level alternate d' rest
  have hset := (sets_head "if" rfl test gap).before hbranches
  simp only [stopped, List.append_assoc] at hset
  simp only [stopped, printed, lexemes, inParens, List.cons_append, List.append_assoc]
  exact hset.congr (by simp)

theorem IsSet.forIn {body : Control} (left right : Name) (h : IsSet o body) :
    IsSet o (.forIn left right body) := by
  refine fun level => (h _).last fun d hd gap => ?_
  have hhead : Sets AnyText o (gap.doc ++ (word "for (" ++ word left.word ++ word " in " ++
      word right.word ++ word ")")) [.word "for" gap.isLine, .punct "(" false,
        .word left.word false, .word "in" false, .word right.word false,
        .punct ")" false] := by
    refine .closed [⟨gap, .word "for"⟩, ⟨.blank, .punct "("⟩, ⟨.none, .word left.word⟩,
      ⟨.blank, .word "in"⟩, ⟨.blank, .word right.word⟩, ⟨.none, .punct ")"⟩] (by simp) ?_ rfl
    simp only [isApart, isToken_name]
    rfl
  exact (hhead.before (sets_clause level hd)).congr (by simp [modifier, loopWord, loopPrecedence])

/-- A name that may be left out, in front of a separator. -/
theorem sets_optionalName (separator : String) (gap : Gap) (hgap : gap.isLine = false)
    (hsep : (Sign.punct separator).isToken = true) (hclosed : (Sign.punct separator).isClosed = true)
    (w : Option Name) :
    Sets AnyText o ((w.map (gap.doc ++ word ·.word)).getD [] ++ word separator)
      (optionalName (w.map (·.word)) ++ [.punct separator false]) := by
  cases w with
  | none =>
    refine .closed [⟨.none, .punct separator⟩] (by simp) ?_ hclosed
    simp only [isApart, hsep]
    rfl
  | some w =>
    have hword : optionalName (some w.word) = [.word w.word gap.isLine] := by rw [hgap]; rfl
    rw [Option.map_some, Option.map_some, hword]
    refine .closed [⟨gap, .word w.word⟩, ⟨.none, .punct separator⟩] (by simp) ?_ hclosed
    simp only [isApart, hsep, isToken_name]
    rfl

theorem IsSet.for {body : Control} (init test update : Option Name) (h : IsSet o body) :
    IsSet o (.for init test update body) := by
  intro level
  have hinit : Gives (forInitDoc level (init.map (.identifier ·.word)))
      (· = (init.map (Gap.none.doc ++ word ·.word)).getD []) := by
    cases init with
    | none => exact .pure rfl
    | some w => exact .pure (enclose_name ..)
  have hoption : ∀ w : Option Name, Gives (optionDoc level false Precedence.sequence
      (w.map (.identifier ·.word))) (· = (w.map (Gap.blank.doc ++ word ·.word)).getD []) := by
    rintro (_ | w)
    · exact .pure rfl
    · exact .pure (congrArg (word " " ++ ·) (enclose_name ..))
  refine hinit.bind fun i hi => (hoption test).bind fun t ht => (hoption update).bind fun u hu =>
    (h _).last fun d hd gap => ?_
  have hfor : Sets AnyText o (gap.doc ++ word "for (")
      [.word "for" gap.isLine, .punct "(" false] :=
    .closed [⟨gap, .word "for"⟩, ⟨.blank, .punct "("⟩] (by simp) rfl rfl
  have hhead := ((hfor.before (sets_optionalName ";" .none rfl rfl rfl init)).before
    (sets_optionalName ";" .blank rfl rfl rfl test)).before
      (sets_optionalName ")" .blank rfl rfl rfl update)
  have hset := hhead.before (sets_clause level hd)
  simp only [stopped, List.append_assoc] at hset
  simp only [stopped, printed, lexemes, List.cons_append, List.append_assoc]
  exact hset.congr (by simp [hi, ht, hu])

theorem IsSet.empty : IsSet o .empty :=
  fun _ => .pure fun gap =>
    (Sets.closed [⟨gap, .punct ";"⟩] (by simp) rfl rfl).mono fun _ _ => trivial

mutual

theorem isSet : ∀ s : Control, IsSet o s
  | name w => fun level => sets_name w level false
  | list item => .list item
  | empty => .empty
  | block body => .block (areSet body)
  | function f strings body => .function f strings (.strings (areSet body) strings)
  | labeled label body => .labeled label (isSet body)
  | .if test body => .if test (isSet body)
  | ifElse test body alternate => .ifElse test (isSet body) (isSet alternate)
  | .while test body => .while test (isSet body)
  | doWhile test body => .doWhile test (isSet body)
  | .for init test update body => .for init test update (isSet body)
  | forIn left right body => .forIn left right (isSet body)

theorem areSet : ∀ body : List Control, AreSet o [] body
  | [] => fun _ _ => .pure (.inl ⟨rfl, rfl, fun _ => rfl⟩)
  | s :: rest => .cons (isSet s) (areSet rest)

end

/-! ## Modules -/

/-- The items of a module are printed as the statements of a list, with a line behind each one instead of
in front of it. -/
theorem itemDocs_statements {sts : List Tree.Stmt} {follows : Bool} {P : Doc → Prop}
    (h : Gives (stmtDocs 0 false follows sts) P) :
    Gives (itemDocs follows (sts.map .statement)) fun d => ∃ d', P d' ∧ .line 0 :: d = d' ++ [.line 0] := by
  induction sts generalizing follows P with
  | nil =>
    obtain ⟨_, ⟨⟩, hP⟩ := h
    exact .pure ⟨[], hP, rfl⟩
  | cons s rest ih =>
    obtain ⟨a, ha, hP⟩ := h
    have hdocs : (stmtDoc 0 false follows s >>= fun d => stmtDocs 0 false true rest >>= fun ds =>
        pure (.line 0 :: d ++ ds)) = Except.ok a := ha
    cases hs : stmtDoc 0 false follows s with
    | error e =>
      rw [hs] at hdocs
      cases hdocs
    | ok d =>
      cases hrest : stmtDocs 0 false true rest with
      | error e =>
        rw [hs, hrest] at hdocs
        cases hdocs
      | ok ds =>
        rw [hs, hrest] at hdocs
        obtain rfl := Except.ok.inj hdocs
        have hitem : Gives (itemDoc follows (.statement s)) (· = d) := ⟨d, hs, rfl⟩
        refine hitem.bind fun _ hd => (ih (P := (· = ds)) ⟨ds, hrest, rfl⟩).last fun ds' hds => ⟨_, hP, ?_⟩
        obtain ⟨_, rfl, hline⟩ := hds
        subst hd
        simp [hline]

/-- A module of strings and statements is printed as its lexemes. -/
theorem cuts_items (strings : List Directive) (body : List Control) (o : Options) :
    Gives (itemDocs false (items strings body)) fun d =>
      Script.Cuts (d.render o) (printedLexemes o false strings body) ∧
        (printedLexemes o false strings body).length ≤ (d.render o).length := by
  have hitems := itemDocs_statements ((areSet (o := o) body).strings strings 0 false)
  refine hitems.mono fun d hd => ?_
  obtain ⟨d', hlines, hline⟩ := hd
  rw [bodyGuard_false] at hlines
  obtain ⟨-, rfl, hnil⟩ | ⟨-, d', rfl, hset⟩ := hlines
  · obtain rfl : d = [] := by simpa using hline
    rw [show printedLexemes o false strings body = [] from hnil false]
    exact ⟨.done rfl, Nat.zero_le _⟩
  · obtain rfl : d = d' ++ [.line 0] := by simpa using hline
    have hset : Sets WordEnds o d' (printedLexemes o false strings body) := hset .none fun h => by cases h
    have hline : Script.skipGap .blank false (Gap.render o (.line 0) ++ []) = some (true, []) :=
      skipGap_gap rfl o (.line 0)
    have hcuts := hset.cuts _ [] (by rintro c ⟨⟩; decide) (.done hline)
    have hlength := hset.length
    rw [render_append, List.length_append]
    exact ⟨by simpa using hcuts, by omega⟩

theorem lower_items (strings : List Directive) (body : List Control) (o : Options) :
    Gives (Script.lowerItems ((stringsParsed o (spelled o.quote strings) ++
      parsedAll o (printedAll o.quote body)).map .statement))
      (· = items (spelled o.quote strings) (printedAll o.quote body)) := by
  induction strings with
  | nil =>
    induction body with
    | nil => exact .pure rfl
    | cons s rest ih =>
      have hitem : Gives (Script.Item.statement ((s.printed o.quote).parsed o)).lower
          (· = some (.statement (s.printed o.quote).tree)) :=
        (lower_printed s).last fun _ hs => hs ▸ rfl
      exact hitem.bind fun _ hs => ih.last fun _ his => hs ▸ his ▸ rfl
  | cons s rest ih => exact (Gives.pure rfl).bind fun _ hs => ih.last fun _ his => hs ▸ his ▸ rfl

/-- The statements of a module are read. -/
theorem reads_items {text : List Char} {body : List Control} (hkept : areKept o.semicolons body = true)
    (hlength : (lexemesAll o n body).length ≤ text.length) :
    Reads (Reader.many (Reader.item? (Script.readersFor text) .module) (text.length + 2))
      (lexemesAll o n body ++ []) ((parsedAll o body).map .statement) [] := by
  have hcount := length_le_lexemesAll body o n
  have hmem : ∀ s ∈ body, ∀ m, (s.lexemes o m).length ≤ (lexemesAll o n body).length :=
    fun s hs m => lexemes_le_lexemesAll hs o m n
  rw [parsedAll_eq_map, List.map_map]
  refine reads_list (fun s hs n last us hs' hend => ?_) .item_end rfl rfl hkept (by omega)
  have hlexemes := hmem s hs n
  have hfront := startsStatement_lexemes s o n (last ++ us)
  exact .item_statement (ne_eof_of_startsStatement hfront) (isWord_of_startsStatement hfront rfl)
    (isWord_of_startsStatement hfront rfl) (Script.Token.isPunct_eq_false hfront rfl)
    ((isRead s).part rfl hs' hend (by omega) (by omega))

/-- The strings of a module are read as directives, and the statements behind them. -/
theorem reads_module {text : List Char} {strings : List Directive} {body : List Control}
    (hkeeps : keepsStrings o.semicolons strings body = true) (hkept : areKept o.semicolons body = true)
    (hlength : (bodyLexemes o n strings body).length ≤ text.length) :
    Reads (Reader.moduleItems (Script.readersFor text) .module (text.length + 1))
      (bodyLexemes o n strings body) ((stringsParsed o strings ++ parsedAll o body).map .statement) [] := by
  have hbody := length_bodyLexemes strings body o n
  have hread : Reads (Reader.moduleItems (Script.readersFor text) .module (text.length + 1))
      (bodyLexemes o n strings body ++ []) ((stringsParsed o strings).map .statement ++
        (parsedAll o body).map .statement) [] := by
    refine reads_strings (fun _ m => ?_)
      (fun _ _ _ _ _ _ hstops hitems => .moduleItems_string (.statement_string rfl hstops) hitems) rfl hkeeps ?_
    · have := hbody m
      exact .moduleItems_items (front_lexemesAll (P := fun t => ∀ value raw, t ≠ .string value raw)
        (fun _ => ne_string_of_startsStatement) (fun _ _ heq => by cases heq) o m body)
        (reads_items hkept (by omega))
    · have := hbody n
      omega
  rwa [List.append_nil, ← List.map_append] at hread

/-- A module of strings and statements is read back, with the strings as directives. -/
theorem parse_module (strings : List Directive) (body : List Control) (o : Options)
    (hkeeps : keepsStrings o.semicolons (spelled o.quote strings) (printedAll o.quote body) = true)
    (hkept : areKept o.semicolons (printedAll o.quote body) = true) :
    ∃ code, program ⟨.module, items strings body⟩ o = .ok code ∧
      Script.parseModule code.toList = .ok (items (spelled o.quote strings) (printedAll o.quote body)) := by
  obtain ⟨d, hd, hcuts, hlength⟩ := cuts_items strings body o
  obtain ⟨trees, hlower, rfl⟩ := lower_items strings body o
  refine ⟨d.text o, ?_, ?_⟩
  · rw [program, programDoc, hd]
    rfl
  · rw [Doc.text, String.toList_ofList]
    exact Script.parseModule_of_reads hcuts (reads_module hkeeps hkept hlength) hlower

/-- A module of conditionals, loops, labels and functions is read back, with the blocks that the printer puts
around first branches, if no first branch would take the `else` behind it. -/
theorem program_read_back (body : List Control) (o : Options)
    (hkept : areKept o.semicolons (printedAll o.quote body) = true) :
    ∃ code, program ⟨.module, items [] body⟩ o = .ok code ∧
      Script.parseModule code.toList = .ok (items [] (printedAll o.quote body)) :=
  parse_module [] body o rfl hkept

theorem program_read_back_nested :
    ∃ code, program ⟨.module, items [] [.function ⟨"f", rfl, rfl⟩ []
        [.ifElse ⟨"a", rfl, rfl⟩ (.if ⟨"b", rfl, rfl⟩ .empty) (.name ⟨"b", rfl, rfl⟩)]]⟩ {} = .ok code ∧
      Script.parseModule code.toList = .ok (items [] [.function ⟨"f", rfl, rfl⟩ []
        [.ifElse ⟨"a", rfl, rfl⟩ (.block [.if ⟨"b", rfl, rfl⟩ .empty]) (.name ⟨"b", rfl, rfl⟩)]]) :=
  program_read_back _ {} rfl

/-- A module is read as the same items whether its statements are printed with or without semicolons, if
without them each one that is printed stays where it is. -/
theorem semicolons_read_alike (strings : List Directive) (body : List Control) (o : Options)
    (hkeeps : keepsStrings false (spelled o.quote strings) (printedAll o.quote body) = true)
    (hkept : areKept false (printedAll o.quote body) = true) :
    ∃ code code', program ⟨.module, items strings body⟩ { o with semicolons := false } = .ok code ∧
      program ⟨.module, items strings body⟩ { o with semicolons := true } = .ok code' ∧
      Script.parseModule code.toList = .ok (items (spelled o.quote strings) (printedAll o.quote body)) ∧
      Script.parseModule code'.toList = Script.parseModule code.toList := by
  obtain ⟨code, hcode, hread⟩ := parse_module strings body { o with semicolons := false } hkeeps hkept
  obtain ⟨code', hcode', hread'⟩ := parse_module strings body { o with semicolons := true }
    (keepsStrings_semicolons hkeeps true) (areKept_semicolons _ hkept true)
  exact ⟨code, code', hcode, hcode', hread, hread'.trans hread.symm⟩

theorem semicolons_read_alike_guarded :
    ∃ code code', program ⟨.module, items [("a", none)] [.list ⟨"b", rfl, rfl⟩]⟩
        { ({} : Options) with semicolons := false } = .ok code ∧
      program ⟨.module, items [("a", none)] [.list ⟨"b", rfl, rfl⟩]⟩
        { ({} : Options) with semicolons := true } = .ok code' ∧
      Script.parseModule code.toList = .ok (items [("a", some "a")] [.list ⟨"b", rfl, rfl⟩]) ∧
      Script.parseModule code'.toList = Script.parseModule code.toList :=
  semicolons_read_alike [("a", none)] [.list ⟨"b", rfl, rfl⟩] {} rfl rfl

/-! ## Directives -/

mutual

/-- The strings at the start of the functions in a statement. -/
def stringsIn : Control → List Directive
  | name _ | list _ | empty => []
  | block body => stringsOf [] body
  | function _ strings body => stringsOf strings body
  | ifElse _ consequent alternate => consequent.stringsIn ++ alternate.stringsIn
  | .if _ body | labeled _ body | .while _ body | doWhile _ body | .for _ _ _ body | forIn _ _ body =>
    body.stringsIn

/-- The strings at the start of a body and of the functions in it. -/
def stringsOf (strings : List Directive) : List Control → List Directive
  | [] => strings
  | s :: rest => s.stringsIn ++ stringsOf strings rest

end

theorem stringsIn_inBraces (s : Control) : s.inBraces.stringsIn = s.stringsIn := by
  cases s with
  | «if» test body => simp [inBraces, stringsIn, stringsOf]
  | _ => rfl

mutual

theorem stringsIn_printed (quote : Char) : ∀ s : Control,
    (s.printed quote).stringsIn = spelled quote s.stringsIn
  | name _ | list _ | empty => rfl
  | block body => stringsOf_printedAll quote [] body
  | function _ strings body => stringsOf_printedAll quote strings body
  | ifElse _ consequent alternate => by
    simp only [printed, stringsIn, stringsIn_inBraces, stringsIn_printed quote consequent,
      stringsIn_printed quote alternate, spelled, List.map_append]
  | .if _ body | labeled _ body | .while _ body | doWhile _ body | .for _ _ _ body | forIn _ _ body =>
    stringsIn_printed quote body

theorem stringsOf_printedAll (quote : Char) (strings : List Directive) : ∀ body : List Control,
    stringsOf (spelled quote strings) (printedAll quote body) = spelled quote (stringsOf strings body)
  | [] => rfl
  | s :: rest => by
    simp only [printedAll, stringsOf, stringsIn_printed quote s, stringsOf_printedAll quote strings rest]
    simp only [spelled, List.map_append]

end

theorem spelled_eq_self {quote : Char} (strings : List Directive) :
    spelled quote strings = strings ↔ ∀ s ∈ strings, s.2 = some (spelling quote s.1) := by
  induction strings with
  | nil => simp [spelled]
  | cons s rest ih =>
    simp only [spelled, List.map_cons, List.cons.injEq, List.forall_mem_cons] at ih ⊢
    rw [ih, Prod.ext_iff]
    simp [eq_comm]

/-- The strings at the start of a module and of its functions are read back as directives, whatever they
were, and the other statements as they are. The directives are kept exactly if each is spelled as its value
is printed. -/
theorem directives_read_back (strings : List Directive) (body : List Control) (o : Options)
    (hkeeps : keepsStrings o.semicolons (spelled o.quote strings) (printedAll o.quote body) = true)
    (hkept : areKept o.semicolons (printedAll o.quote body) = true) :
    ∃ code, program ⟨.module, items strings body⟩ o = .ok code ∧
      Script.parseModule code.toList = .ok (items (spelled o.quote strings) (printedAll o.quote body)) ∧
      (stringsOf (spelled o.quote strings) (printedAll o.quote body) = stringsOf strings body ↔
        ∀ s ∈ stringsOf strings body, s.2 = some (spelling o.quote s.1)) := by
  obtain ⟨code, hcode, hread⟩ := parse_module strings body o hkeeps hkept
  refine ⟨code, hcode, hread, ?_⟩
  rw [stringsOf_printedAll]
  exact spelled_eq_self _

theorem directives_read_back_escaped :
    ∃ code, program ⟨.module, items [("use strict", some "use\\x20strict")]
        [.function ⟨"f", rfl, rfl⟩ [("a", none)] [.name ⟨"b", rfl, rfl⟩]]⟩ {} = .ok code ∧
      Script.parseModule code.toList = .ok (items [("use strict", some "use strict")]
        [.function ⟨"f", rfl, rfl⟩ [("a", some "a")] [.name ⟨"b", rfl, rfl⟩]]) := by
  obtain ⟨code, hcode, hread, -⟩ := directives_read_back [("use strict", some "use\\x20strict")]
    [.function ⟨"f", rfl, rfl⟩ [("a", none)] [.name ⟨"b", rfl, rfl⟩]] {} rfl rfl
  exact ⟨code, hcode, hread⟩

end CustomElement.Emit.Control
