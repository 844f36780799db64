import CustomElement.Proofs.Emit.Laid
import CustomElement.Proofs.Emit.Printable

/-!
# Printed trees are laid

A tree whose names and literals can be spelled is printed, and the terminals of its document do not depend
on the layout (`exprDoc_lays`, `patternDoc_lays`, `stmtDoc_lays`). The proof is by induction on the tree.
An expression is put together with what follows it by the last of its tokens, and with an operator in
front of it by how it starts (`Lays`). In front of a dot only an expression that binds tightly may stand,
and no number that is written in digits alone.
-/

namespace CustomElement.Emit

open CustomElement.Text CustomElement.Grammar CustomElement.Tree
open CustomElement.Script (NumberEnds)

/-! ## Expressions in their places -/

/-- Whether an expression stands in front of a dot without parentheses. -/
def isTight : Expr → Bool
  | .chain _ => false
  | e => Precedence.call ≤ precedence e

/-- The document of an expression is laid, and starts with something that no operator runs into. In front
of a dot it is laid if it may stand there. -/
structure Lays (b : Bool) (e : Expr) (d : Doc) : Prop where
  laid : Laid b Breaks d
  lead : isLead d = true
  dotted : isTight e = true → swallowsDot e d = false → Laid b WordEnds d

variable {b noIn : Bool} {e : Expr} {d d' : Doc} {ends : List Char → Prop} {level least : Nat}

namespace Lays

theorem tight (h : Laid b WordEnds d) (hd : isLead d = true) : Lays b e d :=
  ⟨h.broken, hd, fun _ _ => h⟩

theorem loose (he : isTight e = false) (h : Laid b Breaks d) (hd : isLead d = true) : Lays b e d :=
  ⟨h, hd, fun htight => Bool.noConfusion (he.symm.trans htight)⟩

theorem enclose (h : Lays b e d) (noIn : Bool) (least : Nat) : Laid b Breaks (enclose noIn least e d) := by
  unfold Emit.enclose
  split
  · exact h.laid.parens.any
  · exact h.laid

theorem lead_enclose (h : Lays b e d) (noIn : Bool) (least : Nat) : isLead (Emit.enclose noIn least e d) = true := by
  unfold Emit.enclose
  split
  · rfl
  · exact h.lead

theorem callee (h : Lays b e d) (noIn : Bool) : Laid b Breaks (encloseCallee noIn e d) := by
  unfold encloseCallee
  split
  · exact h.laid.parens.any
  · exact h.enclose noIn Precedence.call

theorem lead_callee (h : Lays b e d) (noIn : Bool) : isLead (encloseCallee noIn e d) = true := by
  unfold encloseCallee
  split
  · rfl
  · exact h.lead_enclose noIn Precedence.call

/-- An expression that is not in parentheses as a callee is tight. -/
theorem encloseCallee_cases (noIn : Bool) (e : Expr) (d : Doc) :
    encloseCallee noIn e d = parens d ∨ (encloseCallee noIn e d = d ∧ isTight e = true) := by
  unfold encloseCallee
  split
  · exact .inl rfl
  · rename_i hchain
    unfold Emit.enclose
    split
    · exact .inl rfl
    · rename_i hopen
      refine .inr ⟨rfl, ?_⟩
      simp only [Bool.or_eq_true, decide_eq_true_eq, not_or, Nat.not_lt] at hopen
      rw [isTight]
      · exact decide_eq_true hopen.2
      · exact hchain

/-- The object of an access in brackets. -/
theorem bracketed (h : Lays b e d) (noIn : Bool) : Laid b Breaks (objectDoc noIn true e d) :=
  h.callee noIn

/-- The object of an access by a name. -/
theorem object (h : Lays b e d) (noIn : Bool) : Laid b WordEnds (objectDoc noIn false e d) := by
  simp only [objectDoc, Bool.not_false, Bool.true_and]
  split
  · exact (h.callee noIn).parens.any
  · rename_i hdot
    rcases encloseCallee_cases noIn e d with hparens | ⟨hsame, htight⟩
    · rw [hparens]
      exact h.laid.parens.any
    · rw [hsame] at hdot ⊢
      exact h.dotted htight (Bool.eq_false_iff.2 hdot)

theorem lead_object (h : Lays b e d) (noIn computed : Bool) : isLead (objectDoc noIn computed e d) = true := by
  unfold objectDoc
  dsimp only
  split
  · rfl
  · exact h.lead_callee noIn

end Lays

/-- The documents of a list of expressions. -/
structure LaysAll (b : Bool) (count : Nat) (ds : List Doc) : Prop where
  laid : ∀ d ∈ ds, Laid b Breaks d
  lead : ∀ d ∈ ds, isLead d = true
  length : ds.length = count

namespace LaysAll

theorem nil : LaysAll b 0 [] :=
  ⟨List.forall_mem_nil _, List.forall_mem_nil _, rfl⟩

theorem cons {count : Nat} {ds : List Doc} (hd : Laid b Breaks d) (hlead : isLead d = true)
    (h : LaysAll b count ds) : LaysAll b (count + 1) (d :: ds) :=
  ⟨List.forall_mem_cons.2 ⟨hd, h.laid⟩, List.forall_mem_cons.2 ⟨hlead, h.lead⟩, congrArg (· + 1) h.length⟩

theorem ne_nil {count : Nat} {ds : List Doc} (h : LaysAll b count ds) (hcount : count ≠ 0) : ds ≠ [] := by
  rintro rfl
  exact hcount h.length.symm

end LaysAll

/-! ## Names, keys and accesses -/

theorem laid_nameDoc {name : Option String} (h : Lexicon.script.name name = true) : Follows b Breaks (nameDoc name) := by
  cases name with
  | none => exact .nil
  | some w => exact (Follows.fixed " " (by decide) (by decide)).before (Laid.name h).broken

theorem laid_modifier (flag : Bool) (s : String) (hs : isFixed s = true) : Laid b AnyText (modifier flag s) := by
  cases flag with
  | true => exact .fixed s hs
  | false => exact .nil

/-- A dot, in front of what is no number and no dot. -/
theorem laid_dot (optional : Bool) (h : Laid b ends d)
    (hd : ∀ o rest, ends rest → ∀ c ∈ (Doc.render o d ++ rest).head?, isAsciiDigit c = false ∧ c ≠ '.') :
    Laid b ends (word (if optional then "?." else ".") ++ d) := by
  obtain ⟨f, hf⟩ := h
  cases optional with
  | true =>
    refine ⟨fun ts => ⟨.plain, .punct "?.", false⟩ :: f ts, fun o ho rest ts hrest hts => ?_⟩
    exact .optionalDot (fun c hc => (hd o rest hrest c hc).1) (hf o ho rest ts hrest hts)
  | false =>
    refine ⟨fun ts => ⟨.plain, .punct ".", false⟩ :: f ts, fun o ho rest ts hrest hts => ?_⟩
    exact .dot (hd o rest hrest) (hf o ho rest ts hrest hts)

/-- What may follow any part may also follow the mark of an optional access. -/
theorem follows_optional (h : Follows b ends d) (optional : Bool) : Follows b ends (modifier optional "?." ++ d) := by
  cases optional with
  | false => exact h
  | true =>
    refine ⟨laid_dot true h.laid fun o rest hrest c hc => ?_, fun o rest _ => breaks_cons (by decide) _⟩
    obtain ⟨hdigit, -, hdot⟩ := (h.starts o rest hrest).numberEnds c hc
    exact ⟨hdigit, hdot⟩

/-- An access by a name, behind its object. -/
theorem laid_access (h : Laid b WordEnds d) (optional : Bool) (hd' : Laid b WordEnds d')
    (hstart : ∀ o rest, ∀ c ∈ (Doc.render o d' ++ rest).head?, isAsciiDigit c = false ∧ c ≠ '.') :
    Laid b WordEnds (d ++ word (if optional then "?." else ".") ++ d') := by
  rw [List.append_assoc]
  refine h.append (laid_dot optional hd' fun o rest _ => hstart o rest) fun o rest _ => ?_
  cases optional <;> rintro _ ⟨⟩ <;> decide

theorem head_name {w : String} (hw : isIdentifierName w.toList = true) (o : Options) (rest : List Char) :
    ∀ c ∈ (Doc.render o (word w) ++ rest).head?, isAsciiDigit c = false ∧ c ≠ '.' := by
  obtain ⟨c, more, hcons, hc⟩ := head_of_identifierName hw
  rw [render_word, hcons]
  rintro _ ⟨⟩
  refine ⟨Bool.eq_false_iff.2 fun hdigit => ?_, ?_⟩
  · cases (isIdentifierStart_of_digit hdigit).symm.trans hc
  · rintro rfl
    cases hc

/-- An access to a property. -/
theorem access_lays {object property : Expr} {o : Doc} {p : Printed Doc} {computed : Bool} (optional : Bool)
    (ho : Lays b object o) (hp : property.printable .script = true → Gives p (Lays b property))
    (h : (if computed then property.printable .script
      else property.isDotName && property.printable .script) = true) :
    Gives (accessDoc noIn object o property p computed optional) fun d => Laid b WordEnds d ∧ isLead d = true := by
  have hlead := ho.lead_object noIn
  cases computed with
  | true =>
    refine (hp h).last fun d hd => ⟨?_, ?_⟩
    · have hopen : Follows b AnyText (modifier optional "?." ++ word "[") :=
        follows_optional (.fixed "[" (by decide) (by decide)) optional
      rw [List.append_assoc (objectDoc noIn true object o)]
      exact ((((ho.bracketed noIn).followed hopen).before (hd.enclose noIn _)).followed
        (.fixed "]" (by decide) (by decide))).any
    · exact isLead_append (isLead_append (isLead_append (isLead_append (hlead true) _) _) _) _
  | false =>
    simp only [Bool.false_eq_true, if_false, Bool.and_eq_true] at h
    cases property with
    | identifier name =>
      exact .pure ⟨laid_access (ho.object noIn) optional (.name h.2) (head_name h.2),
        isLead_append (isLead_append (hlead false) _) _⟩
    | privateName name =>
      refine .pure ⟨?_, isLead_append (isLead_append (isLead_append (hlead false) _) _) _⟩
      rw [List.append_assoc]
      refine laid_access (ho.object noIn) optional (.privateName h.2) fun o rest => ?_
      rintro _ ⟨⟩
      decide
    | _ => cases h.1

theorem Lays.key (h : Lays b e d) (noIn computed : Bool) :
    Laid b Breaks (keyDoc noIn computed e d) ∧ isLead (keyDoc noIn computed e d) = true := by
  have hbracketed : Laid b Breaks (word "[" ++ Emit.enclose noIn Precedence.assignment e d ++ word "]") :=
    (((Laid.fixed "[" (by decide)).before (h.enclose noIn _)).followed (.fixed "]" (by decide) (by decide))).any
  unfold keyDoc
  dsimp only
  split
  · cases computed with
    | true => exact ⟨hbracketed, rfl⟩
    | false => exact ⟨h.laid, h.lead⟩
  · cases computed with
    | true => exact ⟨hbracketed, rfl⟩
    | false => exact ⟨h.laid, h.lead⟩
  · cases computed with
    | true => exact ⟨hbracketed, rfl⟩
    | false => exact ⟨h.laid, h.lead⟩
  · exact ⟨hbracketed, rfl⟩

/-! ## Literals -/

theorem isLead_digits {w : String} {c : Char} {more : List Char} (hcons : w.toList = c :: more)
    (hc : isAsciiDigit c = true) : isLead (word w) = true := by
  simp only [isLead, word, hcons, List.head?_cons, Option.any_some, Bool.and_eq_true, bne_iff_ne]
  constructor <;> rintro rfl <;> cases hc

theorem isLead_number {x : Double} (hpos : x.negative = false) : isLead (word x.render) = true := by
  cases hfinite : x.isFinite with
  | true =>
    obtain ⟨c, more, hcons, hc⟩ := Script.head_render hfinite hpos
    exact isLead_digits hcons hc
  | false =>
    rcases render_of_infinite hfinite hpos with hname | hname <;> rw [hname] <;> rfl

theorem literalDoc_lays {l : Literal} (hl : l.isSpelled = true) : Lays b (.literal l) (literalDoc l) := by
  obtain ⟨value, regex, bigint⟩ := l
  cases regex with
  | some r => exact .tight (.regex hl) rfl
  | none =>
    cases bigint with
    | some digits =>
      have hdigits : digits = toString (decimalNumber digits.toList) := beq_iff_eq.1 hl
      obtain ⟨c, more, hcons, hc⟩ := Script.head_toString (decimalNumber digits.toList)
      rw [← hdigits] at hcons
      refine .tight ?_ (isLead_append (isLead_digits hcons hc) _)
      have hlaid := @Laid.bigint b (decimalNumber digits.toList)
      rwa [← hdigits] at hlaid
    | none =>
      cases value with
      | null => exact .tight (.ending "null" (by decide)) rfl
      | boolean x => cases x with
        | true => exact .tight (.ending "true" (by decide)) rfl
        | false => exact .tight (.ending "false" (by decide)) rfl
      | number x =>
        have hpos : x.negative = false := by simpa [Literal.isSpelled] using hl
        refine ⟨.number hpos (fun _ h => h.wordEnds) (fun _ _ h => h.numberEnds), isLead_number hpos,
          fun _ hdot => .number hpos (fun _ h => h) fun hwhole => ?_⟩
        have hchars : (word x.render).chars.all isAsciiDigit = true := by rwa [Doc.chars, render_word]
        exact Bool.noConfusion (hdot.symm.trans hchars)
      | string s => exact .tight (Laid.string s).any rfl

/-! ## Parts of functions, classes and statements -/

/-- A star may stand behind a word. -/
theorem laid_wordStar (h : Laid b WordEnds d) (flag : Bool) : Laid b Breaks (d ++ modifier flag "*") := by
  cases flag with
  | false => exact h.broken.followed .nil
  | true =>
    refine (h.append (.starred "*" (by decide) (by decide)) fun o rest _ => ?_).mono fun _ h => h.starEnds
    rintro _ ⟨⟩
    decide

theorem laid_functionHead {f : Func} (h : Lexicon.script.name f.name = true) :
    Laid b Breaks (functionHead f) ∧ isLead (functionHead f) = true := by
  have hword : Laid b WordEnds (modifier f.async "async " ++ word "function") :=
    (laid_modifier f.async "async " (by decide)).before (.ending "function" (by decide))
  have hlead : isLead (modifier f.async "async " ++ word "function") = true := by cases f.async <;> rfl
  exact ⟨(laid_wordStar hword f.generator).followed (laid_nameDoc h), isLead_append (isLead_append hlead _) _⟩

theorem name_of_printable {f : Func} (h : f.printable .script = true) : Lexicon.script.name f.name = true := by
  cases f
  exact Bool.and_elim_left h

theorem follows_holeComma {α : Type} (elements : List (Option α)) : Follows b Breaks (holeComma elements) := by
  unfold holeComma
  split
  · exact (Follows.fixed "," (by decide) (by decide)).any
  · exact .nil

/-- A list in brackets. -/
theorem laid_array {α : Type} {ds : List Doc} (h : ∀ d ∈ ds, Laid b Breaks d) (elements : List (Option α)) :
    Laid b AnyText (word "[" ++ commaSeparated ds ++ holeComma elements ++ word "]") :=
  (((Laid.fixed "[" (by decide)).before (.commaSeparated h)).followed (follows_holeComma elements)).followed
    (.fixed "]" (by decide) (by decide))

theorem laid_conciseBody (h : Laid b Breaks d) : Laid b Breaks (conciseBodyDoc d) := by
  unfold conciseBodyDoc
  split
  · exact h.parens.any
  · exact h

theorem laid_guarded (follows : Bool) (h : Laid b Breaks d) :
    Laid b Breaks (if follows && continuesLine d.chars then .guard :: d else d) := by
  split
  · exact h.guard
  · exact h

theorem laid_expressionStmt (follows directive : Bool) (h : Laid b Breaks d) :
    Laid b Breaks (expressionStmtDoc follows directive d) := by
  have hclosed : Laid b Breaks (if !directive && isAmbiguousStart d.chars then parens d else d) := by
    split
    · exact h.parens.any
    · exact h
  exact (laid_guarded follows hclosed).followed .stop

theorem follows_clause (body : Stmt) (h : Laid b Breaks d) : Follows b Breaks (clauseDoc level body d) := by
  unfold clauseDoc
  split
  · exact (Follows.fixed " " (by decide) (by decide)).before h
  · exact (Follows.fixed ";" (by decide) (by decide)).any
  · exact .line h

theorem follows_branch (body : Stmt) (h : Laid b Breaks d) : Follows b AnyText (branchDoc level body d) := by
  have hblank : Follows b AnyText (word " ") := .fixed " " (by decide) (by decide)
  unfold branchDoc
  split
  · exact (hblank.before h).append hblank
  · exact (hblank.before (Laid.block (.line h)).any).append hblank
  · exact (follows_clause body h).append (.line .nil)

theorem follows_else (body : Stmt) (h : Laid b Breaks d) : Follows b Breaks (elseDoc level body d) := by
  unfold elseDoc
  split
  · exact (Follows.fixed " " (by decide) (by decide)).before h
  · exact follows_clause body h

theorem laid_variables (kind : VariableKind) {ds : List Doc} (h : ∀ d ∈ ds, Laid b Breaks d) :
    Laid b Breaks (variablesDoc kind ds) := by
  have hkeyword : Laid b Breaks (word kind.keyword) := by
    cases kind <;> exact (Laid.ending _ (by decide)).broken
  exact (hkeyword.followed (.fixed " " (by decide) (by decide))).before (.commaSeparated h)

theorem follows_fieldStop (needed : Bool) : Follows b Breaks (fieldStop needed) := by
  cases needed with
  | true => exact (Follows.fixed ";" (by decide) (by decide)).any
  | false => exact .stop

/-- The words in front of a key. A star must not run into the key. -/
theorem laid_starred (h : Laid b AnyText d) (generator : Bool) (hd' : Laid b ends d') (hlead : isLead d' = true) :
    Laid b ends (d ++ modifier generator "*" ++ d') := by
  cases generator with
  | false => exact (h.before (.nil : Laid b AnyText [])).before hd'
  | true =>
    exact (h.before (.starred "*" (by decide) (by decide))).append hd' fun o rest _ =>
      starEnds_of_isLead hlead o rest

theorem laid_methodKind (kind : MethodKind) : Laid b AnyText (methodKindDoc kind) := by
  cases kind with
  | get => exact .fixed "get " (by decide)
  | set => exact .fixed "set " (by decide)
  | constructor | method => exact .nil

/-- The words in front of the key of a method of an object. -/
theorem methodStart_lays {value : Expr} (h : value.printableMethod .script = true) (kind : PropertyKind) :
    Gives (methodStart kind value) fun start =>
      ∀ d, Laid b Breaks d → isLead d = true → Laid b Breaks (start ++ d) := by
  cases value with
  | function f =>
    cases kind with
    | init => exact .pure fun d hd hlead => laid_starred (laid_modifier f.async "async " (by decide)) f.generator hd hlead
    | get => exact .pure fun d hd _ => (Laid.fixed "get " (by decide)).before hd
    | set => exact .pure fun d hd _ => (Laid.fixed "set " (by decide)).before hd
  | _ => cases h

/-! ## Operators -/

theorem isSymbol_loopWord (loop : LoopKind) : IsSymbol (loopWord loop) := by
  cases loop <;> decide

theorem isSymbol_binary (op : BinaryOp) : IsSymbol op.symbol := by
  cases op <;> decide

theorem isSymbol_logical (op : LogicalOp) : IsSymbol op.symbol := by
  cases op <;> decide

theorem isSymbol_assign (op : AssignOp) : IsSymbol op.symbol := by
  cases op <;> decide

theorem isTight_binary (op : BinaryOp) (left right : Expr) : isTight (.binary op left right) = false := by
  cases op <;> rfl

theorem isTight_logical (op : LogicalOp) (left right : Expr) : isTight (.logical op left right) = false := by
  cases op <;> rfl

theorem isTight_update (op : UpdateOp) (before : Bool) (argument : Expr) :
    isTight (.update op before argument) = false := by
  cases before <;> rfl

theorem laid_update (op : UpdateOp) : Follows b AnyText (word op.symbol) := by
  cases op <;> exact .fixed _ (by decide) (by decide)

/-! ## Loops -/

variable {test update clause : Doc}

theorem laid_for (h : Laid b Breaks d) (htest : Follows b Breaks test) (hupdate : Follows b Breaks update)
    (hclause : Follows b Breaks clause) :
    Laid b Breaks (word "for (" ++ d ++ word ";" ++ test ++ word ";" ++ update ++ word ")" ++ clause) :=
  (((((((Laid.fixed "for (" (by decide)).before h).followed (.fixed ";" (by decide) (by decide))).before
    htest.laid).followed (.fixed ";" (by decide) (by decide))).before hupdate.laid).followed
    (.fixed ")" (by decide) (by decide))).before hclause.laid

theorem laid_forEach (await : Bool) (loop : LoopKind) (h : Laid b Breaks d) (h' : Laid b Breaks d')
    (hclause : Follows b Breaks clause) :
    Laid b Breaks (word "for " ++ modifier await "await " ++ word "(" ++ d ++ word " " ++ word (loopWord loop) ++
      word " " ++ d' ++ word ")" ++ clause) := by
  have hleft : Laid b Breaks (word "for " ++ modifier await "await " ++ word "(" ++ d) :=
    (((Laid.fixed "for " (by decide)).before (laid_modifier await "await " (by decide))).before
      (.fixed "(" (by decide))).before h
  exact ((hleft.between (isSymbol_loopWord loop) h').followed (.fixed ")" (by decide) (by decide))).before
    hclause.laid

/-! ## Trees -/

mutual
theorem exprDoc_lays (level : Nat) (noIn : Bool) :
    ∀ e : Expr, e.printable .script = true → Gives (exprDoc level noIn e) (Lays b e)
  | .identifier _, h => .pure (.tight (.name h) (isLead_name h))
  | .privateName _, h => .pure (.tight (.privateName h) rfl)
  | .literal _, h => .pure (literalDoc_lays h)
  | .thisRef, _ => .pure (.tight (.ending "this" (by decide)) rfl)
  | .superRef, _ => .pure (.tight (.ending "super" (by decide)) rfl)
  | .array elements, h =>
    (elementDocs_lays level noIn elements h).last fun _ hds => .tight (laid_array hds elements).any rfl
  | .object members, h =>
    (memberDocs_lays (level + 1) noIn members h).last fun _ hds =>
      .tight (Laid.block hds).any (isLead_block level _)
  | .function f, h =>
    (functionTailDoc_lays level noIn f h).last fun _ ht =>
      .tight ((laid_functionHead (name_of_printable h)).1.followed ht).any
        (isLead_append (laid_functionHead (b := b) (name_of_printable h)).2 _)
  | .arrow params body _ async, h =>
    (patternDocs_lays level noIn params (Bool.and_elim_left h)).bind fun _ hps =>
      (exprDoc_lays level noIn body (Bool.and_elim_right h)).last fun _ hb =>
        .loose rfl
          ((((laid_modifier async "async " (by decide)).before (Laid.commaSeparated hps).parens).before
            (.fixed " => " (by decide))).before (laid_conciseBody (hb.enclose noIn _)))
          (by cases async <;> rfl)
  | .arrowBlock params body _ async, h =>
    (patternDocs_lays level noIn params (Bool.and_elim_left h)).bind fun _ hps =>
      (stmtDocs_lays (level + 1) noIn false body (Bool.and_elim_right h)).last fun _ hb =>
        .loose rfl
          ((((laid_modifier async "async " (by decide)).before (Laid.commaSeparated hps).parens).before
            (.fixed " => " (by decide))).before (Laid.block hb).any)
          (by cases async <;> rfl)
  | .classDef c, h => (classDoc_lays level noIn c h).mono fun _ hd => .tight hd.1.any hd.2
  | .template quasis expressions, h =>
    (templateDoc_lays level noIn quasis expressions (Bool.and_elim_left h) (Bool.and_elim_right h)).last
      fun _ hparts => .tight (by rw [List.append_assoc]; exact (hparts "`" (by decide)).any) rfl
  | .tagged tag quasis expressions, h =>
    (exprDoc_lays level noIn tag (Bool.and_elim_left h)).bind fun _ ht =>
      (templateDoc_lays level noIn quasis expressions (Bool.and_elim_left (Bool.and_elim_right h))
        (Bool.and_elim_right (Bool.and_elim_right h))).last fun parts hparts =>
          have htemplate : Follows b AnyText (word "`" ++ (parts ++ word "`")) :=
            ⟨hparts "`" (by decide), fun _ _ _ => breaks_cons (by decide) _⟩
          .tight (by rw [List.append_assoc, List.append_assoc]; exact ((ht.callee noIn).followed htemplate).any)
            (isLead_append (isLead_append (isLead_append (ht.lead_callee noIn) _) _) _)
  | .unary op _ argument, h =>
    (exprDoc_lays level noIn argument h).last fun _ hd =>
      .loose rfl ((hd.enclose noIn _).unary (opens_of_isLead (hd.lead_enclose noIn _)) op)
        (by cases op <;> rfl)
  | .update op before argument, h =>
    (exprDoc_lays level noIn argument h).bind fun _ hd => by
      cases before with
      | true =>
        exact .pure (.loose rfl ((laid_update op).laid.before (hd.enclose noIn _)) (by cases op <;> rfl))
      | false =>
        exact .pure (.loose rfl ((hd.enclose noIn _).followed (laid_update op)).any
          (isLead_append (hd.lead_enclose noIn _) _))
  | .binary op left right, h =>
    (exprDoc_lays level noIn left (Bool.and_elim_left h)).bind fun _ hl =>
      (exprDoc_lays level noIn right (Bool.and_elim_right h)).last fun _ hr =>
        .loose (isTight_binary op left right)
          ((hl.enclose noIn _).between (isSymbol_binary op) (hr.enclose noIn _))
          (isLead_append (isLead_append (isLead_append (isLead_append (hl.lead_enclose noIn _) _) _) _) _)
  | .logical op left right, h =>
    (exprDoc_lays level noIn left (Bool.and_elim_left h)).bind fun _ hl =>
      (exprDoc_lays level noIn right (Bool.and_elim_right h)).last fun _ hr =>
        .loose (isTight_logical op left right)
          ((hl.enclose noIn _).between (isSymbol_logical op) (hr.enclose noIn _))
          (isLead_append (isLead_append (isLead_append (isLead_append (hl.lead_enclose noIn _) _) _) _) _)
  | .assign op left right, h =>
    (patternDoc_lays level noIn left (Bool.and_elim_left h)).bind fun _ hl =>
      (exprDoc_lays level noIn right (Bool.and_elim_right h)).last fun _ hr =>
        .loose rfl (hl.1.between (isSymbol_assign op) (hr.enclose noIn _))
          (isLead_append (isLead_append (isLead_append (isLead_append hl.2 _) _) _) _)
  | .conditional test consequent alternate, h =>
    (exprDoc_lays level noIn test (Bool.and_elim_left h)).bind fun _ ht =>
      (exprDoc_lays level noIn consequent (Bool.and_elim_left (Bool.and_elim_right h))).bind fun _ hc =>
        (exprDoc_lays level noIn alternate (Bool.and_elim_right (Bool.and_elim_right h))).last fun _ ha =>
          .loose rfl
            (((((ht.enclose noIn _).followed (.fixed " ? " (by decide) (by decide))).before
              (hc.enclose noIn _)).followed (.fixed " : " (by decide) (by decide))).before (ha.enclose noIn _))
            (isLead_append (isLead_append (isLead_append (isLead_append (ht.lead_enclose noIn _) _) _) _) _)
  | .member object property _ optional, h =>
    (exprDoc_lays level noIn object (Bool.and_elim_left h)).bind fun _ ho =>
      (access_lays optional ho (exprDoc_lays level noIn property) (Bool.and_elim_right h)).mono fun _ hd =>
        .tight hd.1 hd.2
  | .call callee arguments optional, h =>
    (exprDoc_lays level noIn callee (Bool.and_elim_left h)).bind fun _ hc =>
      (exprDocs_lays level noIn arguments (Bool.and_elim_right h)).last fun _ has =>
        .tight (by
          rw [List.append_assoc]
          exact ((hc.callee noIn).followed (follows_optional (.parens (.commaSeparated has.laid)) optional)).any)
          (isLead_append (isLead_append (hc.lead_callee noIn) _) _)
  | .new callee arguments, h =>
    (exprDoc_lays level noIn callee (Bool.and_elim_left h)).bind fun c hc =>
      (exprDocs_lays level noIn arguments (Bool.and_elim_right h)).last fun _ has =>
        have hclosed : Laid b Breaks (if hasCall callee || precedence callee < Precedence.member then parens c else c) := by
          split
          · exact hc.laid.parens.any
          · exact hc.laid
        .tight (((Laid.fixed "new " (by decide)).before hclosed).followed (.parens (.commaSeparated has.laid))).any rfl
  | .sequence expressions, h =>
    (exprDocs_lays level noIn expressions (Bool.and_elim_right h)).last fun _ hds =>
      .loose rfl (.commaSeparated hds.laid) (isLead_commaSeparated (hds.ne_nil (bne_iff_ne.1 (Bool.and_elim_left h))) hds.lead)
  | .spread argument, h =>
    (exprDoc_lays level noIn argument h).last fun _ hd =>
      .loose rfl ((Laid.fixed "..." (by decide)).before (hd.enclose noIn _)) rfl
  | .await argument, h =>
    (exprDoc_lays level noIn argument h).last fun _ hd =>
      .loose rfl ((Laid.fixed "await " (by decide)).before (hd.enclose noIn _)) rfl
  | .yield argument delegate, h =>
    (optionDoc_lays level noIn _ argument h).last fun _ hd =>
      .loose rfl ((laid_wordStar (.ending "yield" (by decide)) delegate).followed hd) rfl
  | .chain expression, h =>
    (exprDoc_lays level noIn expression h).mono fun _ hd => .loose rfl hd.laid hd.lead
  | .importCall source, h =>
    (exprDoc_lays level noIn source h).last fun _ hd =>
      .tight (((Laid.fixed "import(" (by decide)).before (hd.enclose noIn _)).followed
        (.fixed ")" (by decide) (by decide))).any rfl
  | .metaProperty _ _, h =>
    .pure (.tight (laid_access (.name (Bool.and_elim_left h)) false (.name (Bool.and_elim_right h))
      (head_name (Bool.and_elim_right h))) (isLead_append (isLead_append (isLead_name (Bool.and_elim_left h)) _) _))

theorem optionDoc_lays (level : Nat) (noIn : Bool) (least : Nat) :
    ∀ e : Option Expr, printableOption .script e = true →
      Gives (optionDoc level noIn least e) (Follows b Breaks)
  | none, _ => .pure .nil
  | some e, h =>
    (exprDoc_lays level noIn e h).last fun _ hd =>
      (Follows.fixed " " (by decide) (by decide)).before (hd.enclose noIn _)

theorem exprDocs_lays (level : Nat) (noIn : Bool) :
    ∀ es : List Expr, printableExprs .script es = true → Gives (exprDocs level noIn es) (LaysAll b es.length)
  | [], _ => .pure .nil
  | e :: rest, h =>
    (exprDoc_lays level noIn e (Bool.and_elim_left h)).bind fun _ hd =>
      (exprDocs_lays level noIn rest (Bool.and_elim_right h)).last fun _ hds =>
        .cons (hd.enclose noIn _) (hd.lead_enclose noIn _) hds

theorem elementDoc_lays (level : Nat) (noIn : Bool) :
    ∀ e : Option Expr, printableOption .script e = true → Gives (elementDoc level noIn e) (Laid b Breaks)
  | none, _ => .pure .nil
  | some e, h => (exprDoc_lays level noIn e h).last fun _ hd => hd.enclose noIn _

theorem elementDocs_lays (level : Nat) (noIn : Bool) :
    ∀ es : List (Option Expr), printableElements .script es = true →
      Gives (elementDocs level noIn es) fun ds => ∀ d ∈ ds, Laid b Breaks d
  | [], _ => .pure (List.forall_mem_nil _)
  | e :: rest, h =>
    (elementDoc_lays level noIn e (Bool.and_elim_left h)).bind fun _ hd =>
      (elementDocs_lays level noIn rest (Bool.and_elim_right h)).last fun _ hds =>
        List.forall_mem_cons.2 ⟨hd, hds⟩

theorem templateDoc_lays (level : Nat) (noIn : Bool) :
    ∀ (quasis : List TemplateElement) (expressions : List Expr),
      areQuasis quasis expressions.length = true → printableTemplate .script quasis expressions = true →
        Gives (templateDoc level noIn quasis expressions) fun parts =>
          ∀ opening ∈ ["`", "\x7d"], Laid b AnyText (word opening ++ (parts ++ word "`"))
  | [], [], hq, _ => by cases hq
  | [q], [], hq, _ => by
    rw [templateDoc]
    refine .pure fun opening hopening => ?_
    have hpiece := Laid.piece (b := b) (Bool.and_elim_right hq) hopening
    rw [Bool.and_elim_left hq] at hpiece
    exact hpiece
  | _ :: _ :: _, [], hq, _ => by cases hq
  | [], _ :: _, hq, _ => by cases hq
  | q :: quasis, e :: expressions, hq, h => by
    rw [List.length_cons, areQuasis_cons, Bool.and_eq_true, Bool.and_eq_true, Bool.not_eq_true'] at hq
    refine (exprDoc_lays level noIn e (Bool.and_elim_left h)).bind fun d hd =>
      (templateDoc_lays level noIn quasis expressions hq.2.2 (Bool.and_elim_right h)).last
        fun rest hrest opening hopening => ?_
    have hpiece := Laid.piece (b := b) hq.2.1 hopening
    rw [hq.1] at hpiece
    have hmore : Follows b AnyText (word "\x7d" ++ (rest ++ word "`")) :=
      ⟨hrest "\x7d" (by decide), fun _ _ _ => breaks_cons (by decide) _⟩
    have hall := hpiece.before ((hd.enclose noIn Precedence.sequence).followed hmore)
    simp only [List.append_assoc] at hall ⊢
    exact hall

theorem memberDocs_lays (level : Nat) (noIn : Bool) :
    ∀ ms : List ObjectMember, printableMembers .script ms = true →
      Gives (memberDocs level noIn ms) (Follows b Breaks)
  | [], _ => .pure .nil
  | [m], h => (objectMemberDoc_lays level noIn m (Bool.and_elim_left h)).last fun _ hd => .line hd
  | m :: next :: rest, h =>
    (objectMemberDoc_lays level noIn m (Bool.and_elim_left h)).bind fun _ hd =>
      (memberDocs_lays level noIn (next :: rest) (Bool.and_elim_right h)).last fun _ hds =>
        ((Follows.line hd).append (.fixed "," (by decide) (by decide))).before hds.laid

theorem objectMemberDoc_lays (level : Nat) (noIn : Bool) :
    ∀ m : ObjectMember, m.printable .script = true → Gives (objectMemberDoc level noIn m) (Laid b Breaks)
  | .spread argument, h =>
    (exprDoc_lays level noIn argument h).last fun _ hd =>
      (Laid.fixed "..." (by decide)).before (hd.enclose noIn _)
  | .property key value kind method computed shorthand, h => by
    rw [ObjectMember.printable] at h
    rw [objectMemberDoc]
    split
    · rename_i hmethod
      rw [if_pos hmethod] at h
      exact (methodStart_lays (Bool.and_elim_right h) kind).bind fun _ hstart =>
        (exprDoc_lays level noIn key (Bool.and_elim_left h)).bind fun _ hk =>
          (methodTailDoc_lays level noIn value (Bool.and_elim_right h)).last fun _ ht =>
            ((hstart _ (hk.key noIn computed).1 (hk.key noIn computed).2).followed ht).any
    rename_i hmethod
    rw [if_neg hmethod] at h
    split
    · rename_i hshort
      rw [if_pos hshort] at h
      exact (exprDoc_lays level noIn key h).mono fun _ hk => hk.laid
    · rename_i hshort
      rw [if_neg hshort] at h
      exact (exprDoc_lays level noIn key (Bool.and_elim_left h)).bind fun _ hk =>
        (exprDoc_lays level noIn value (Bool.and_elim_right h)).last fun _ hv =>
          ((hk.key noIn computed).1.followed (.fixed ": " (by decide) (by decide))).before (hv.enclose noIn _)

theorem methodTailDoc_lays (level : Nat) (noIn : Bool) (value : Expr)
    (h : value.printableMethod .script = true) : Gives (methodTailDoc level noIn value) (Follows b AnyText) := by
  cases value with
  | function f => exact functionTailDoc_lays level noIn f h
  | _ => cases h

theorem functionTailDoc_lays (level : Nat) (noIn : Bool) :
    ∀ f : Func, f.printable .script = true → Gives (functionTailDoc level noIn f) (Follows b AnyText)
  | ⟨_, params, body, _, _⟩, h =>
    (patternDocs_lays level noIn params (Bool.and_elim_left (Bool.and_elim_right h))).bind fun _ hps =>
      (stmtDocs_lays (level + 1) noIn false body (Bool.and_elim_right (Bool.and_elim_right h))).last fun _ hb =>
        ((Follows.parens (.commaSeparated hps)).before (.fixed " " (by decide))).before (.block hb)

theorem classDoc_lays (level : Nat) (noIn : Bool) :
    ∀ c : ClassDef, c.printable .script = true →
      Gives (classDoc level noIn c) fun d => Laid b AnyText d ∧ isLead d = true
  | ⟨_, superclass, members⟩, h =>
    (superclassDoc_lays level noIn superclass (Bool.and_elim_left (Bool.and_elim_right h))).bind fun _ hs =>
      (classMemberDocs_lays (level + 1) noIn members (Bool.and_elim_right (Bool.and_elim_right h))).last fun _ hms =>
        ⟨((((Laid.ending "class" (by decide)).broken.followed (laid_nameDoc (Bool.and_elim_left h))).followed
          hs).followed (.fixed " " (by decide) (by decide))).before (.block hms), rfl⟩

theorem superclassDoc_lays (level : Nat) (noIn : Bool) :
    ∀ e : Option Expr, printableOption .script e = true → Gives (superclassDoc level noIn e) (Follows b Breaks)
  | none, _ => .pure .nil
  | some e, h =>
    (exprDoc_lays level noIn e h).last fun _ hd =>
      (Follows.fixed " extends " (by decide) (by decide)).before (hd.callee noIn)

theorem classMemberDocs_lays (level : Nat) (noIn : Bool) :
    ∀ ms : List ClassMember, printableClassMembers .script ms = true →
      Gives (classMemberDocs level noIn ms) (Follows b Breaks)
  | [], _ => .pure .nil
  | m :: rest, h =>
    (classMemberDoc_lays level noIn rest.head? m (Bool.and_elim_left h)).bind fun _ hd =>
      (classMemberDocs_lays level noIn rest (Bool.and_elim_right h)).last fun _ hds => (Follows.line hd).append hds

theorem classMemberDoc_lays (level : Nat) (noIn : Bool) (next : Option ClassMember) :
    ∀ m : ClassMember, m.printable .script = true → Gives (classMemberDoc level noIn next m) (Laid b Breaks)
  | .method key value kind computed isStatic, h =>
    (exprDoc_lays level noIn key (Bool.and_elim_left h)).bind fun _ hk =>
      (functionTailDoc_lays level noIn value (Bool.and_elim_right h)).last fun _ ht =>
        have hwords : Laid b AnyText
            (modifier isStatic "static " ++ methodKindDoc kind ++ modifier value.async "async ") :=
          ((laid_modifier isStatic "static " (by decide)).before (laid_methodKind kind)).before
            (laid_modifier value.async "async " (by decide))
        ((laid_starred hwords value.generator (hk.key noIn computed).1 (hk.key noIn computed).2).followed ht).any
  | .field key value computed isStatic, h =>
    (exprDoc_lays level noIn key (Bool.and_elim_left h)).bind fun _ hk =>
      (initDoc_lays level noIn value (Bool.and_elim_right h)).last fun _ hv =>
        (((laid_modifier isStatic "static " (by decide)).before (hk.key noIn computed).1).followed hv).followed
          (follows_fieldStop _)
  | .staticBlock body, h =>
    (stmtDocs_lays (level + 1) noIn false body h).last fun _ hb =>
      (Laid.fixed "static " (by decide)).before (Laid.block hb).any

theorem initDoc_lays (level : Nat) (noIn : Bool) :
    ∀ e : Option Expr, printableOption .script e = true → Gives (initDoc level noIn e) (Follows b Breaks)
  | none, _ => .pure .nil
  | some e, h =>
    (exprDoc_lays level noIn e h).last fun _ hd =>
      (Follows.fixed " = " (by decide) (by decide)).before (hd.enclose noIn _)

theorem patternDoc_lays (level : Nat) (noIn : Bool) :
    ∀ p : Pattern, p.printable .script = true →
      Gives (patternDoc level noIn p) fun d => Laid b Breaks d ∧ isLead d = true
  | .identifier _, h => .pure ⟨(Laid.name h).broken, isLead_name h⟩
  | .object members, h =>
    (patternMemberDocs_lays level noIn members h).bind fun _ hds => by
      split
      · exact .pure ⟨(Laid.fixed "\x7b\x7d" (by decide)).any, rfl⟩
      · exact .pure ⟨(((Laid.fixed "\x7b " (by decide)).before (.commaSeparated hds)).followed
          (.fixed " \x7d" (by decide) (by decide))).any, rfl⟩
  | .array elements, h =>
    (patternElementDocs_lays level noIn elements h).last fun _ hds => ⟨(laid_array hds elements).any, rfl⟩
  | .rest argument, h =>
    (patternDoc_lays level noIn argument h).last fun _ hd => ⟨(Laid.fixed "..." (by decide)).before hd.1, rfl⟩
  | .withDefault left right, h =>
    (patternDoc_lays level noIn left (Bool.and_elim_left h)).bind fun _ hl =>
      (exprDoc_lays level noIn right (Bool.and_elim_right h)).last fun _ hr =>
        ⟨(hl.1.followed (.fixed " = " (by decide) (by decide))).before (hr.enclose noIn _),
          isLead_append (isLead_append hl.2 _) _⟩
  | .member object property _ optional, h =>
    (exprDoc_lays level noIn object (Bool.and_elim_left h)).bind fun _ ho =>
      (access_lays optional ho (exprDoc_lays level noIn property) (Bool.and_elim_right h)).mono fun _ hd =>
        ⟨hd.1.broken, hd.2⟩

theorem patternDocs_lays (level : Nat) (noIn : Bool) :
    ∀ ps : List Pattern, printablePatterns .script ps = true →
      Gives (patternDocs level noIn ps) fun ds => ∀ d ∈ ds, Laid b Breaks d
  | [], _ => .pure (List.forall_mem_nil _)
  | p :: rest, h =>
    (patternDoc_lays level noIn p (Bool.and_elim_left h)).bind fun _ hd =>
      (patternDocs_lays level noIn rest (Bool.and_elim_right h)).last fun _ hds =>
        List.forall_mem_cons.2 ⟨hd.1, hds⟩

theorem patternElementDoc_lays (level : Nat) (noIn : Bool) :
    ∀ p : Option Pattern, printablePatternOption .script p = true →
      Gives (patternElementDoc level noIn p) (Laid b Breaks)
  | none, _ => .pure .nil
  | some p, h => (patternDoc_lays level noIn p h).mono fun _ hd => hd.1

theorem patternElementDocs_lays (level : Nat) (noIn : Bool) :
    ∀ ps : List (Option Pattern), printablePatternElements .script ps = true →
      Gives (patternElementDocs level noIn ps) fun ds => ∀ d ∈ ds, Laid b Breaks d
  | [], _ => .pure (List.forall_mem_nil _)
  | p :: rest, h =>
    (patternElementDoc_lays level noIn p (Bool.and_elim_left h)).bind fun _ hd =>
      (patternElementDocs_lays level noIn rest (Bool.and_elim_right h)).last fun _ hds =>
        List.forall_mem_cons.2 ⟨hd, hds⟩

theorem patternMemberDocs_lays (level : Nat) (noIn : Bool) :
    ∀ ms : List PatternMember, printablePatternMembers .script ms = true →
      Gives (patternMemberDocs level noIn ms) fun ds => ∀ d ∈ ds, Laid b Breaks d
  | [], _ => .pure (List.forall_mem_nil _)
  | m :: rest, h =>
    (patternMemberDoc_lays level noIn m (Bool.and_elim_left h)).bind fun _ hd =>
      (patternMemberDocs_lays level noIn rest (Bool.and_elim_right h)).last fun _ hds =>
        List.forall_mem_cons.2 ⟨hd, hds⟩

theorem patternMemberDoc_lays (level : Nat) (noIn : Bool) :
    ∀ m : PatternMember, m.printable .script = true → Gives (patternMemberDoc level noIn m) (Laid b Breaks)
  | .property key value computed shorthand, h => by
    rw [PatternMember.printable] at h
    rw [patternMemberDoc]
    split
    · rename_i hshort
      rw [if_pos hshort] at h
      exact (patternDoc_lays level noIn value h).mono fun _ hd => hd.1
    · rename_i hshort
      rw [if_neg hshort] at h
      exact (exprDoc_lays level noIn key (Bool.and_elim_left h)).bind fun _ hk =>
        (patternDoc_lays level noIn value (Bool.and_elim_right h)).last fun _ hv =>
          ((hk.key noIn computed).1.followed (.fixed ": " (by decide) (by decide))).before hv.1
  | .rest argument, h =>
    (patternDoc_lays level noIn argument h).last fun _ hd => (Laid.fixed "..." (by decide)).before hd.1

theorem stmtDoc_lays (level : Nat) (noIn follows : Bool) :
    ∀ s : Stmt, s.printable .script = true → Gives (stmtDoc level noIn follows s) (Laid b Breaks)
  | .empty, _ => .pure (Laid.fixed ";" (by decide)).any
  | .debugger, _ => .pure ((Laid.ending "debugger" (by decide)).broken.followed .stop)
  | .break _, h =>
    .pure (((Laid.ending "break" (by decide)).broken.followed (laid_nameDoc h)).followed .stop)
  | .continue _, h =>
    .pure (((Laid.ending "continue" (by decide)).broken.followed (laid_nameDoc h)).followed .stop)
  | .expression e directive, h =>
    (exprDoc_lays level noIn e h).last fun _ hd =>
      laid_expressionStmt follows directive.isSome (hd.enclose noIn _)
  | .block body, h => (stmtDocs_lays (level + 1) noIn false body h).last fun _ hb => (Laid.block hb).any
  | .return argument, h =>
    (optionDoc_lays level noIn _ argument h).last fun _ hd =>
      ((Laid.ending "return" (by decide)).broken.followed hd).followed .stop
  | .throw argument, h =>
    (exprDoc_lays level noIn argument h).last fun _ hd =>
      ((Laid.fixed "throw " (by decide)).before (hd.enclose noIn _)).followed .stop
  | .labeled _ body, h =>
    (stmtDoc_lays level noIn false body (Bool.and_elim_right h)).last fun _ hd =>
      ((Laid.name (Bool.and_elim_left h)).broken.followed (.fixed ": " (by decide) (by decide))).before hd
  | .if test consequent, h =>
    (exprDoc_lays level noIn test (Bool.and_elim_left h)).bind fun _ ht =>
      (stmtDoc_lays _ noIn false consequent (Bool.and_elim_right h)).last fun _ hc =>
        (((Laid.fixed "if (" (by decide)).before (ht.enclose noIn _)).followed
          (.fixed ")" (by decide) (by decide))).before (follows_clause consequent hc).laid
  | .ifElse test consequent alternate, h =>
    (exprDoc_lays level noIn test (Bool.and_elim_left h)).bind fun _ ht =>
      (stmtDoc_lays _ noIn false consequent (Bool.and_elim_left (Bool.and_elim_right h))).bind fun _ hc =>
        (stmtDoc_lays _ noIn false alternate (Bool.and_elim_right (Bool.and_elim_right h))).last fun _ ha =>
          (((((Laid.fixed "if (" (by decide)).before (ht.enclose noIn _)).followed
            (.fixed ")" (by decide) (by decide))).before (follows_branch consequent hc).laid).before
            (Laid.ending "else" (by decide)).broken).followed (follows_else alternate ha)
  | .switch discriminant cases, h =>
    (exprDoc_lays level noIn discriminant (Bool.and_elim_left h)).bind fun _ hd =>
      (caseDocs_lays (level + 1) noIn cases (Bool.and_elim_right h)).last fun _ hcs =>
        have hclose : Follows b AnyText [.line level] := .line .nil
        ((((((Laid.fixed "switch (" (by decide)).before (hd.enclose noIn _)).followed
          (.fixed ") \x7b" (by decide) (by decide))).before hcs.laid).followed hclose).before
          (.fixed "\x7d" (by decide))).any
  | .try block, h =>
    (stmtDocs_lays (level + 1) noIn false block h).last fun _ hb =>
      ((Laid.fixed "try " (by decide)).before (.block hb)).any
  | .tryCatch block param handler, h =>
    (stmtDocs_lays (level + 1) noIn false block (Bool.and_elim_left h)).bind fun _ hb =>
      (catchParamDoc_lays level noIn param (Bool.and_elim_left (Bool.and_elim_right h))).bind fun _ hp =>
        (stmtDocs_lays (level + 1) noIn false handler (Bool.and_elim_right (Bool.and_elim_right h))).last fun _ hh =>
          (((((Laid.fixed "try " (by decide)).before (.block hb)).before (.fixed " catch " (by decide))).before
            hp).before (.block hh)).any
  | .tryFinally block finalizer, h =>
    (stmtDocs_lays (level + 1) noIn false block (Bool.and_elim_left h)).bind fun _ hb =>
      (stmtDocs_lays (level + 1) noIn false finalizer (Bool.and_elim_right h)).last fun _ hf =>
        ((((Laid.fixed "try " (by decide)).before (.block hb)).before (.fixed " finally " (by decide))).before
          (.block hf)).any
  | .tryCatchFinally block param handler finalizer, h =>
    (stmtDocs_lays (level + 1) noIn false block (Bool.and_elim_left h)).bind fun _ hb =>
      (catchParamDoc_lays level noIn param (Bool.and_elim_left (Bool.and_elim_right h))).bind fun _ hp =>
        (stmtDocs_lays (level + 1) noIn false handler
          (Bool.and_elim_left (Bool.and_elim_right (Bool.and_elim_right h)))).bind fun _ hh =>
          (stmtDocs_lays (level + 1) noIn false finalizer
            (Bool.and_elim_right (Bool.and_elim_right (Bool.and_elim_right h)))).last fun _ hf =>
            (((((((Laid.fixed "try " (by decide)).before (.block hb)).before (.fixed " catch " (by decide))).before
              hp).before (.block hh)).before (.fixed " finally " (by decide))).before (.block hf)).any
  | .while test body, h =>
    (exprDoc_lays level noIn test (Bool.and_elim_left h)).bind fun _ ht =>
      (stmtDoc_lays _ noIn false body (Bool.and_elim_right h)).last fun _ hb =>
        (((Laid.fixed "while (" (by decide)).before (ht.enclose noIn _)).followed
          (.fixed ")" (by decide) (by decide))).before (follows_clause body hb).laid
  | .doWhile test body, h =>
    (stmtDoc_lays _ noIn false body (Bool.and_elim_left h)).bind fun _ hb =>
      (exprDoc_lays level noIn test (Bool.and_elim_right h)).last fun _ ht =>
        have hgap : Follows b AnyText (if isBlock body then word " " else [.line level]) := by
          split
          · exact .fixed " " (by decide) (by decide)
          · exact .line .nil
        ((((((Laid.ending "do" (by decide)).broken.followed (follows_clause body hb)).followed hgap).before
          (.fixed "while (" (by decide))).before (ht.enclose noIn _)).followed
          (.fixed ")" (by decide) (by decide))).before Follows.stop.laid
  | .for init test update body, h =>
    (forInitDoc_lays level init (Bool.and_elim_left h)).bind fun _ hi =>
      (optionDoc_lays level noIn _ test (Bool.and_elim_left (Bool.and_elim_right h))).bind fun _ ht =>
        (optionDoc_lays level noIn _ update
          (Bool.and_elim_left (Bool.and_elim_right (Bool.and_elim_right h)))).bind fun _ hu =>
          (stmtDoc_lays _ noIn false body
            (Bool.and_elim_right (Bool.and_elim_right (Bool.and_elim_right h)))).last fun _ hb =>
            laid_for hi ht hu (follows_clause body hb)
  | .forVariables kind declarations test update body, h =>
    (declaratorDocs_lays level true declarations (Bool.and_elim_left h)).bind fun _ hds =>
      (optionDoc_lays level noIn _ test (Bool.and_elim_left (Bool.and_elim_right h))).bind fun _ ht =>
        (optionDoc_lays level noIn _ update
          (Bool.and_elim_left (Bool.and_elim_right (Bool.and_elim_right h)))).bind fun _ hu =>
          (stmtDoc_lays _ noIn false body
            (Bool.and_elim_right (Bool.and_elim_right (Bool.and_elim_right h)))).last fun _ hb =>
            laid_for (laid_variables kind hds) ht hu (follows_clause body hb)
  | .forEach loop left right body await, h =>
    (patternDoc_lays level noIn left (Bool.and_elim_left h)).bind fun _ hl =>
      (exprDoc_lays level noIn right (Bool.and_elim_left (Bool.and_elim_right h))).bind fun _ hr =>
        (stmtDoc_lays _ noIn false body (Bool.and_elim_right (Bool.and_elim_right h))).last fun _ hb =>
          laid_forEach await loop hl.1 (hr.enclose noIn _) (follows_clause body hb)
  | .forEachVariable loop kind declarations right body await, h =>
    (declaratorDocs_lays level noIn declarations (Bool.and_elim_left h)).bind fun _ hds =>
      (exprDoc_lays level noIn right (Bool.and_elim_left (Bool.and_elim_right h))).bind fun _ hr =>
        (stmtDoc_lays _ noIn false body (Bool.and_elim_right (Bool.and_elim_right h))).last fun _ hb =>
          laid_forEach await loop (laid_variables kind hds) (hr.enclose noIn _) (follows_clause body hb)
  | .function f, h =>
    (functionTailDoc_lays level noIn f h).last fun _ ht =>
      ((laid_functionHead (name_of_printable h)).1.followed ht).any
  | .classDef c, h => (classDoc_lays level noIn c h).mono fun _ hd => hd.1.any
  | .variables kind declarations, h =>
    (declaratorDocs_lays level noIn declarations h).last fun _ hds => (laid_variables kind hds).followed .stop

theorem forInitDoc_lays (level : Nat) :
    ∀ e : Option Expr, printableOption .script e = true → Gives (forInitDoc level e) (Laid b Breaks)
  | none, _ => .pure .nil
  | some e, h => (exprDoc_lays level true e h).last fun _ hd => hd.enclose true _

theorem catchParamDoc_lays (level : Nat) (noIn : Bool) :
    ∀ p : Option Pattern, printablePatternOption .script p = true →
      Gives (catchParamDoc level noIn p) (Laid b AnyText)
  | none, _ => .pure .nil
  | some p, h =>
    (patternDoc_lays level noIn p h).last fun _ hd => hd.1.parens.before (.fixed " " (by decide))

theorem stmtDocs_lays (level : Nat) (noIn follows : Bool) :
    ∀ ss : List Stmt, printableStmts .script ss = true →
      Gives (stmtDocs level noIn follows ss) (Follows b Breaks)
  | [], _ => .pure .nil
  | s :: rest, h =>
    (stmtDoc_lays level noIn follows s (Bool.and_elim_left h)).bind fun _ hd =>
      (stmtDocs_lays level noIn true rest (Bool.and_elim_right h)).last fun _ hds => (Follows.line hd).append hds

theorem caseDocs_lays (level : Nat) (noIn : Bool) :
    ∀ cs : List SwitchCase, printableCases .script cs = true → Gives (caseDocs level noIn cs) (Follows b Breaks)
  | [], _ => .pure .nil
  | c :: rest, h =>
    (caseDoc_lays level noIn c (Bool.and_elim_left h)).bind fun _ hd =>
      (caseDocs_lays level noIn rest (Bool.and_elim_right h)).last fun _ hds => (Follows.line hd).append hds

theorem caseDoc_lays (level : Nat) (noIn : Bool) :
    ∀ c : SwitchCase, c.printable .script = true → Gives (caseDoc level noIn c) (Laid b Breaks)
  | ⟨test, consequent⟩, h =>
    (optionDoc_lays level noIn _ test (Bool.and_elim_left h)).bind fun t ht =>
      (stmtDocs_lays (level + 1) noIn false consequent (Bool.and_elim_right h)).last fun _ hb =>
        have hlabel : Laid b AnyText
            (if test.isSome then word "case" ++ t ++ word ":" else word "default:") := by
          split
          · exact ((Laid.ending "case" (by decide)).broken.followed ht).followed (.fixed ":" (by decide) (by decide))
          · exact .fixed "default:" (by decide)
        hlabel.before hb.laid

theorem declaratorDocs_lays (level : Nat) (noIn : Bool) :
    ∀ ds : List Declarator, printableDeclarators .script ds = true →
      Gives (declaratorDocs level noIn ds) fun docs => ∀ d ∈ docs, Laid b Breaks d
  | [], _ => .pure (List.forall_mem_nil _)
  | d :: rest, h =>
    (declaratorDoc_lays level noIn d (Bool.and_elim_left h)).bind fun _ hd =>
      (declaratorDocs_lays level noIn rest (Bool.and_elim_right h)).last fun _ hds =>
        List.forall_mem_cons.2 ⟨hd, hds⟩

theorem declaratorDoc_lays (level : Nat) (noIn : Bool) :
    ∀ d : Declarator, d.printable .script = true → Gives (declaratorDoc level noIn d) (Laid b Breaks)
  | ⟨target, init⟩, h =>
    (patternDoc_lays level noIn target (Bool.and_elim_left h)).bind fun _ ht =>
      (initDoc_lays level noIn init (Bool.and_elim_right h)).last fun _ hi => ht.1.followed hi
end

end CustomElement.Emit
