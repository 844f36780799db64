import CustomElement.Proofs.Script.ChainText
import CustomElement.Script.Parse

/-!
# Chains are no arrow functions

Where the text of a chain stands, the reader of arrow functions finds none (`ChainText.arrow?_none`). For
most chains the first two tokens tell. A call of a function named `async` may look like parameters for
longer, since its arguments may all be names; then the reader of parameters runs up to the closing
parenthesis at most, and no arrow stands behind it.

On the way a word may be taken as a modifier, as in `async(static[x])`, and faults be noted. It only
matters where such a run ends, if it does not fail: in front of the text behind the parameter, or in
front of a token that continues a chain and no list of parameters (`Stop`).
-/

namespace CustomElement.Script

open CustomElement.Text CustomElement.Grammar

variable {text rest : List Char} {t u : Token} {P P₁ P₂ Q : Cursor → Prop} {r : Readers} {c : Context}

/-! ## Arrow functions told by their first tokens -/

namespace Leads

variable {allowReturnType : Bool}

/-- A parenthesis in front of what cannot be a parameter. -/
theorem arrow?_parens (h : Passes P (.punct "(") P₁) (hguess : Leads P₁ Reader.guessAfterParen .no Q) :
    Leads P (Reader.arrow? r c allowReturnType) none P := by
  have hguess : Leads P Reader.guessArrow .no P :=
    .bind (.lookahead <| .bind (.eatWord_not h.shows rfl) <| .neg rfl <| .bind (.eat h rfl) <|
      .pos rfl hguess) .pure
  have hsimple : Leads P Reader.atAsyncArrow false P :=
    .looksLike_not (.bind (.expectWord h.shows rfl))
  exact hguess.bind <| hsimple.bind <| .neg rfl .pure

/-- A call of `async` whose arguments are no parameters of an arrow function. -/
theorem arrow?_asyncCall (h : Passes P (.word "async" false) P₁)
    (hline : Leads P₁ Reader.onNewLine false P₁) (hopen : Passes P₁ (.punct "(") P₂)
    {guess : ArrowGuess} (hguess : Leads P₂ Reader.guessAfterParen guess Q) (hyes : guess ≠ .yes)
    (hno : Refuses P (Reader.possibleArrow r c allowReturnType)) :
    Leads P (Reader.arrow? r c allowReturnType) none P := by
  have hguess : Leads P Reader.guessArrow guess P :=
    .bind (.lookahead <| .bind (.eatWord h rfl rfl) <| .pos rfl <| .bind hline <| .neg rfl <|
      .bind (.eat hopen rfl) <| .pos rfl hguess) .pure
  refine hguess.bind ?_
  cases guess with
  | yes => exact absurd rfl hyes
  | maybe => exact .attempt_none hno
  | no => exact (atAsyncArrow_none h (.atWordLike_not hopen.shows nofun _)).bind <| .neg rfl .pure

end Leads

/-! ## What the tokens behind a parenthesis say -/

theorem Leads.guessAfterName (h : Shows P t) (ht : t.followsChain = true) :
    Leads P Reader.guessAfterName (if t.isAnyPunct [",", "=", ")"] then .maybe else .no) P := by
  refine .bind (.eat_not h (Token.isPunct_eq_false ht rfl)) <| .neg rfl <|
    .bind (.eat_not h (Token.isPunct_eq_false ht rfl)) <| .neg rfl <| .bind (.atAnyPunct h _) ?_
  cases t.isAnyPunct [",", "=", ")"] <;> exact .pure

theorem Leads.guessAfterParen_word {w : String} (h : Passes P (.word w false) P₁) (hu : Shows P₁ u)
    (hfollows : u.followsChain = true) (hw : isNameWord w = true ∨ w = "this") :
    Leads P Reader.guessAfterParen (if u.isAnyPunct [",", "=", ")"] then .maybe else .no) P₁ := by
  have hafter : Leads P Reader.nameAfter none P := by
    refine .lookahead_none <| .after (.advance h) <| .get fun cursor hc => ?_
    rw [hu cursor hc]
    cases u with
    | word v escaped => exact absurd rfl (Token.ne_word_of_followsChain hfollows v escaped)
    | _ => exact .fail
  have hplain : Leads P (if isNameWord w || w == "this" then Reader.advance >>= fun _ =>
      Reader.guessAfterName else Pure.pure .no) (if u.isAnyPunct [",", "=", ")"] then .maybe else .no)
      P₁ :=
    .pos (by simpa using hw) <| .bind (.advance h) (.guessAfterName hu hfollows)
  refine .get fun cursor hc => ?_
  rw [h.shows cursor hc]
  exact .ite (fun _ => hafter.bind hplain) fun _ => .bind .pure hplain

theorem Token.isAnyPunct_of_continuesChain {t : Token} (h : t.continuesChain = true) :
    t.isAnyPunct [",", "=", ")"] = false :=
  isAnyPunct_eq_false h (by decide)

/-- Parameters are excluded behind a parenthesis, unless a name stands there by itself. -/
theorem Head.guess {bare : Bool} (h : Head text bare) (hrest : Closed rest) (f : Bool) :
    ∃ guess, guess ≠ .yes ∧ (bare = false → guess = .no) ∧
      Leads (At f (text ++ rest)) Reader.guessAfterParen guess fun _ => True := by
  have hlinked : ∀ (w : String) (tail : List Char), IsOperandWord w → Continues tail →
      ∃ guess, guess ≠ .yes ∧ (false = false → guess = .no) ∧
        Leads (At f (w.toList ++ tail)) Reader.guessAfterParen guess fun _ => True := by
    intro w tail hw htail
    obtain ⟨u, after, hu, hcontinues⟩ := htail.begins
    have hguess := Leads.guessAfterParen_word
      (Begins.keyword w hw.name (Follows.wordEnds (.inr htail))).passes (hu.shows (f := f))
      (by rw [Token.followsChain, hcontinues, Bool.true_or]) hw.operand
    rw [Token.isAnyPunct_of_continuesChain hcontinues] at hguess
    exact ⟨.no, by decide, fun _ => rfl, hguess.mono (fun _ => id) fun _ _ => trivial⟩
  cases h with
  | @bare w hw =>
    obtain ⟨u, after, hu, hfollows⟩ := Follows.begins (.inl hrest)
    have hguess := Leads.guessAfterParen_word
      (Begins.keyword w hw.name (Follows.wordEnds (.inl hrest))).passes (hu.shows (f := f))
      hfollows hw.operand
    refine ⟨_, ?_, fun h => absurd h.symm Bool.false_ne_true, hguess.mono (fun _ => id) fun _ _ => trivial⟩
    cases u.isAnyPunct [",", "=", ")"] <;> decide
  | linked hw h =>
    rw [List.append_assoc]
    exact hlinked _ _ hw (h rest).continues
  | indexed hw _ _ =>
    rw [List.append_assoc]
    exact hlinked _ _ hw (continues_bracket (by decide) false _)
  | called hw _ _ =>
    rw [List.append_assoc]
    exact hlinked _ _ hw (continues_bracket (by decide) false _)
  | @keyword w tail hw htail =>
    have hkeyword : ∀ w ∈ ["new", "import"], isIdentifierName w.toList = true ∧
        (Reader.modifierWords.contains w && w != "async") = false ∧
        (isNameWord w || w == "this") = false := by decide
    obtain ⟨hname, hmodifier, hoperand⟩ := hkeyword w hw
    rw [List.append_assoc]
    refine ⟨.no, by decide, fun _ => rfl, .get fun cursor hc => ?_⟩
    rw [(Begins.word hname (htail rest)).shows cursor hc]
    refine .neg hmodifier <| .bind .pure <| .neg hoperand ?_
    exact fun c _ => ⟨c, rfl, trivial⟩
  | @number x tail hfinite hpos htail hwhole =>
    rw [List.append_assoc]
    refine ⟨.no, by decide, fun _ => rfl, .get fun cursor hc => ?_⟩
    rw [(Begins.number hfinite hpos (tail ++ rest)
      (fractionEnds_append htail (Follows.fractionEnds (.inl hrest)))
      fun hx => numberEnds_append (hwhole hx) hrest.numberEnds).shows cursor hc]
    exact fun c _ => ⟨c, rfl, trivial⟩
  | parens _ _ _ =>
    refine ⟨.no, by decide, fun _ => rfl, .get fun cursor hc => ?_⟩
    rw [(Begins.bracket (c := '(') (by decide) _).shows cursor hc]
    exact fun c _ => ⟨c, rfl, trivial⟩

/-- What follows on the first of some texts with commas between them. -/
def moreText : List (List Char) → List Char → List Char
  | [], rest => rest
  | texts, rest => ',' :: ' ' :: (commaText texts ++ rest)

theorem commaText_cons (text : List Char) (texts : List (List Char)) (rest : List Char) :
    commaText (text :: texts) ++ rest = text ++ moreText texts rest := by
  cases texts with
  | nil => rfl
  | cons next texts => simp [commaText, moreText]

theorem Closed.moreText {rest : List Char} (h : Closed rest) (texts : List (List Char)) :
    Closed (moreText texts rest) := by
  cases texts with
  | nil => exact h
  | cons next texts => exact closed_cons (by decide) _

/-- The arguments of a call are not taken for parameters before they are read as such. -/
theorem guess_arguments {args : List ChainItem}
    (hargs : ∀ a ∈ args, ChainText a.text a.expr a.optional a.calls) (hrest : Follows rest) (f : Bool) :
    ∃ guess, guess ≠ .yes ∧ Leads (At f (commaText (args.map (·.text)) ++ ')' :: rest))
      Reader.guessAfterParen guess fun _ => True := by
  cases args with
  | nil =>
    have hclose : Begins (')' :: rest) (.punct ")") rest := .bracket (by decide) _
    obtain ⟨t, after, ht, hfollows⟩ := hrest.begins
    have hnone : t.isAnyPunct ["=>", ":", "\x7b"] = false := Token.isAnyPunct_eq_false hfollows (by decide)
    refine ⟨.no, nofun, .get fun cursor hc => ?_⟩
    rw [hclose.shows cursor hc]
    exact .bind (.advance hclose.passes) <| .bind (.atAnyPunct ht.shows _) <| .neg hnone
      fun c _ => ⟨c, rfl, trivial⟩
  | cons a args =>
    obtain ⟨guess, hyes, -, hguess⟩ := (hargs a List.mem_cons_self).head.guess
      ((closed_cons (c := ')') (by decide) rest).moreText (args.map (·.text))) f
    rw [← commaText_cons] at hguess
    exact ⟨guess, hyes, hguess⟩

/-! ## Places where faults do not matter -/

/-- The place in front of a text, with or without a fault. -/
def Near (text : List Char) (cursor : Cursor) : Prop :=
  ∃ f, At f text cursor

/-- The place in front of a text, or of a token that continues a chain. -/
def Stop (text : List Char) (cursor : Cursor) : Prop :=
  Near text cursor ∨ cursor.token.continuesChain = true

theorem Near.blank {cursor : Cursor} (h : Near (' ' :: text) cursor) : Near text cursor :=
  h.imp fun _ => At.blank

theorem Begins.near (h : Begins text t rest) : Passes (Near text) t (Near rest) :=
  ⟨fun _ ⟨_, hc⟩ => (hc.cursor h).1, fun _ ⟨f, hc⟩ => ⟨f, hc.next_of h⟩⟩

/-- A fault keeps the place. -/
def Forgives (P : Cursor → Prop) : Prop :=
  ∀ cursor, P cursor → P { cursor with faulty := true }

theorem At.noted {f : Bool} {cursor : Cursor} (h : At f text cursor) :
    At true text { cursor with faulty := true } := by
  obtain ⟨k, source, -, hpending, rfl⟩ := h
  refine ⟨k, { source with faulty := true }, rfl, hpending, ?_⟩
  cases hgap : skipGap .blank false (List.replicate k ' ' ++ text) with
  | none => rw [Cursor.land_eq_of_open _ hgap, Cursor.land_eq_of_open _ hgap]
  | some gap =>
    cases hread : readToken gap.2 with
    | none => rw [Cursor.land_eq_of_invalid _ hgap hread, Cursor.land_eq_of_invalid _ hgap hread]
    | some read => rw [Cursor.land_eq _ hgap hread, Cursor.land_eq _ hgap hread]

theorem Near.forgives : Forgives (Near text) :=
  fun _ ⟨_, hc⟩ => ⟨true, hc.noted⟩

theorem Stop.forgives : Forgives (Stop text) :=
  fun cursor hc => hc.imp (Near.forgives cursor) id

theorem Forgives.or (h : Forgives P) (h' : Forgives Q) : Forgives fun cursor => P cursor ∨ Q cursor :=
  fun cursor hc => hc.imp (h cursor) (h' cursor)

theorem Leads.note (h : Forgives P) (condition : Bool) : Leads P (Reader.faultIf condition) () P := by
  cases condition with
  | false => exact .pure
  | true => exact fun cursor hc => ⟨{ cursor with faulty := true }, rfl, h cursor hc⟩

/-- A punctuator that no cursor in the place stands on. -/
theorem Leads.atPunct_unless {symbol : String}
    (h : ∀ cursor, P cursor → cursor.token.isPunct symbol = false) :
    Leads P (Reader.atPunct symbol) false P := by
  refine .get fun cursor hc => ?_
  have htoken := h cursor hc
  cases hcursor : cursor.token with
  | punct s =>
    rw [hcursor] at htoken
    dsimp only
    rw [show (s == symbol) = false from htoken]
    exact .pure
  | _ => exact .pure

theorem Leads.eat_unless {symbol : String}
    (h : ∀ cursor, P cursor → cursor.token.isPunct symbol = false) :
    Leads P (Reader.eat symbol) false P :=
  .bind (.atPunct_unless h) (.neg rfl .pure)

theorem Continues.token {cursor : Cursor} (h : Continues text) (hc : Near text cursor) :
    cursor.token.continuesChain = true := by
  obtain ⟨t, after, hbegins, ht⟩ := h.begins
  rw [hbegins.near.shows cursor hc, ht]

theorem Follows.token {cursor : Cursor} (h : Follows text) (hc : Near text cursor) :
    cursor.token.followsChain = true := by
  obtain ⟨t, after, hbegins, ht⟩ := h.begins
  rw [hbegins.near.shows cursor hc, ht]

theorem Stop.isPunct {cursor : Cursor} (h : Follows text) (hc : Stop text cursor) {symbol : String}
    (hsymbol : (Token.punct symbol).followsChain = false) : cursor.token.isPunct symbol = false := by
  refine Token.isPunct_eq_false (p := Token.followsChain) ?_ hsymbol
  rcases hc with hc | hc
  · exact h.token hc
  · rw [Token.followsChain, hc, Bool.true_or]

theorem Stop.of_tail {tail : List Char} {cursor : Cursor} (h : IsTail tail)
    (hc : Near (tail ++ text) cursor) : Stop text cursor := by
  rcases h with rfl | h
  · exact .inl hc
  · exact .inr ((h text).token hc)

/-! ## Lists -/

/-- The text of an item that a reader runs over up to the text behind it, or to a token that continues a
chain. -/
structure IsItem {α : Type} (close : Char) (item : Reader α) (text : List Char) : Prop where
  begins : ∀ rest, Closed rest →
    ∃ t after, Begins (text ++ rest) t after ∧ t.isPunct (String.singleton close) = false
  ends : ∀ rest, Closed rest → Ends (Near (text ++ rest)) item fun _ => Stop rest

/-- The items of a list are read up to its end, or the list is given up. -/
theorem Ends.separated {α : Type} (close : Char) (hclose : close ∈ [')', ']']) {item : Reader α}
    {texts : List (List Char)} (hitems : ∀ text ∈ texts, IsItem close item text) (rest : List Char)
    (limit : Nat) :
    Ends (Near (commaText texts ++ close :: rest))
      (Reader.separated (String.singleton close) "," item limit) fun _ => Near (close :: rest) := by
  have hclosers : ∀ c ∈ [')', ']'], c ∈ Begins.brackets ∧ c ∈ [')', ',', ']', '\x7d'] ∧
      (Token.punct (String.singleton c)).isPunct (String.singleton c) = true ∧
      (Token.punct ",").isPunct (String.singleton c) = false ∧
      (Token.punct (String.singleton c)).continuesChain = false :=
    List.all_iff_forall_prop.1 (by decide)
  obtain ⟨hbracket, hcloser, hself, hcomma, hstops⟩ := hclosers close hclose
  have hend : Begins (close :: rest) (.punct (String.singleton close)) rest := .bracket hbracket rest
  -- From a token that continues a chain neither the end of the list nor a comma is reached.
  have hgiven : ∀ {β : Type} (k : Reader β) (T : β → Cursor → Prop),
      Ends (fun cursor => cursor.token.continuesChain = true)
        (Reader.expect "," >>= fun _ => k) T := by
    intro β k T
    refine .of_refuses (.bind (.after (Leads.atPunct_unless fun cursor hc => ?_) (.neg rfl .fail)))
    exact Token.isPunct_eq_false hc rfl
  have hopen : ∀ cursor : Cursor, cursor.token.continuesChain = true →
      cursor.token.isPunct (String.singleton close) = false :=
    fun cursor hc => Token.isPunct_eq_false hc hstops
  induction limit generalizing texts with
  | zero => exact .of_refuses .fail
  | succ limit ih =>
    cases texts with
    | nil => exact .after (.atPunct hend.near.shows _) (.pos hself (.pure fun _ => id))
    | cons text texts =>
      have hitem := hitems text List.mem_cons_self
      have hothers : ∀ text ∈ texts, IsItem close item text :=
        fun text htext => hitems text (List.mem_cons_of_mem _ htext)
      have hclosed : ∀ texts, Closed (moreText texts (close :: rest)) :=
        (closed_cons hcloser rest).moreText
      rw [commaText_cons]
      obtain ⟨t, after, hbegins, ht⟩ := hitem.begins _ (hclosed texts)
      refine .after (.atPunct hbegins.near.shows _) <| .neg ht <|
        (hitem.ends _ (hclosed texts)).bind fun first => .or ?_ ?_
      · cases texts with
        | nil => exact .after (.atPunct hend.near.shows _) (.pos hself (.pure fun _ => id))
        | cons next texts =>
          have hcomma' : Begins (moreText (next :: texts) (close :: rest)) (.punct ",") _ :=
            .bracket (by decide) _
          obtain ⟨u, after, hnext, hu⟩ := (hothers next List.mem_cons_self).begins _ (hclosed texts)
          rw [← commaText_cons] at hnext
          exact .after (.atPunct hcomma'.near.shows _) <| .neg hcomma <|
            .after (.mono (.expect hcomma'.near rfl) (fun _ => id) fun _ => Near.blank) <|
            .after (.atPunct hnext.near.shows _) <| .neg hu <|
            (ih hothers).bind fun others => .pure fun _ => id
      · exact .after (.atPunct_unless hopen) (.neg rfl (hgiven _ _))

/-! ## Patterns -/

theorem Ends.name (h : Begins text t rest) :
    Ends (Near text) (Reader.name c) fun _ => Near rest := by
  refine .get fun cursor hc => ?_
  rw [h.near.shows cursor hc]
  cases t with
  | word w escaped =>
    exact .ite (.after (.note Near.forgives _) <| .after (.advance h.near) <| .pure fun _ => id)
      (.of_refuses .fail)
  | _ => exact .of_refuses .fail

/-- A pattern that does not start with a bracket is a name. -/
theorem Ends.bindingPattern_name (h : Begins text t rest) (ht : t.isPunct "[" = false)
    (ht' : t.isPunct "\x7b" = false) :
    Ends (Near text) (Reader.bindingPattern r c) fun _ => Near rest :=
  .after (.eat_not h.near.shows ht') <| .neg rfl <| .after (.eat_not h.near.shows ht) <| .neg rfl <|
    (Ends.name h).bind fun _ => .pure fun _ => id

/-- Only a word is a name. -/
theorem Refuses.bindingPattern (h : Shows P t) (ht : t.isPunct "[" = false)
    (ht' : t.isPunct "\x7b" = false) (hname : ∀ w escaped, t = .word w escaped → isNameWord w = false) :
    Refuses P (Reader.bindingPattern r c) := by
  refine .after (.eat_not h ht') <| .neg rfl <| .after (.eat_not h ht) <| .neg rfl <|
    .bind <| .get fun cursor hc => ?_
  rw [h cursor hc]
  cases t with
  | word w escaped => exact .neg (hname w escaped rfl) .fail
  | _ => exact .fail

/-- The readers of patterns of a round, the first of which read nothing. -/
theorem Ends.binding {limit : Nat} {T : Expr → Cursor → Prop}
    (h : ∀ rounds, Ends P (Reader.bindingPattern (readers limit rounds) c) T) (rounds : Nat) :
    Ends P ((readers limit rounds).binding c) T := by
  cases rounds with
  | zero => exact .of_refuses .fail
  | succ rounds => exact h rounds

/-- At most the name that a chain starts with is read as a pattern. -/
theorem Head.binding {bare : Bool} (h : Head text bare) (hrest : Closed rest) (limit rounds : Nat) :
    Ends (Near (text ++ rest)) ((readers limit rounds).binding c) fun _ => Stop rest := by
  refine .binding (fun rounds => ?_) rounds
  have hlinked : ∀ (w : String) (tail : List Char), IsOperandWord w → Continues tail →
      Ends (Near (w.toList ++ tail)) (Reader.bindingPattern (readers limit rounds) c)
        fun _ => Stop rest := by
    intro w tail hw htail
    have hword : Begins (w.toList ++ tail) _ tail := .word hw.name (Follows.wordEnds (.inr htail))
    exact (Ends.bindingPattern_name hword rfl rfl).mono fun _ cursor hc => .inr (htail.token hc)
  cases h with
  | bare hw =>
    have hword := Begins.word hw.name (Follows.wordEnds (.inl hrest))
    exact (Ends.bindingPattern_name hword rfl rfl).mono fun _ cursor => .inl
  | linked hw h =>
    rw [List.append_assoc]
    exact hlinked _ _ hw (h rest).continues
  | indexed hw _ _ =>
    rw [List.append_assoc]
    exact hlinked _ _ hw (continues_bracket (by decide) false _)
  | called hw _ _ =>
    rw [List.append_assoc]
    exact hlinked _ _ hw (continues_bracket (by decide) false _)
  | @keyword w tail hw htail =>
    have hkeyword : ∀ w ∈ ["new", "import"], isIdentifierName w.toList = true ∧
        isNameWord w = false := by decide
    rw [List.append_assoc]
    refine .of_refuses (.bindingPattern (Begins.word (hkeyword w hw).1 (htail rest)).near.shows rfl
      rfl ?_)
    rintro v escaped ⟨⟩
    exact (hkeyword w hw).2
  | @number x tail hfinite hpos htail hwhole =>
    rw [List.append_assoc]
    exact .of_refuses (.bindingPattern (Begins.number hfinite hpos (tail ++ rest)
      (fractionEnds_append htail (Follows.fractionEnds (.inl hrest)))
      fun hx => numberEnds_append (hwhole hx) hrest.numberEnds).near.shows rfl rfl nofun)
  | parens _ _ _ =>
    exact .of_refuses (.bindingPattern (Begins.bracket (c := '(') (by decide) _).near.shows rfl rfl
      nofun)

/-- An expression in brackets is read as an array pattern at most. -/
theorem ChainText.arrayBinding {e : Expr} {optional calls : Bool} (h : ChainText text e optional calls)
    (rest : List Char) (limit rounds : Nat) :
    Ends (Near ('[' :: (text ++ ']' :: rest))) ((readers limit rounds).binding c)
      fun _ => Near rest := by
  have hopen : Begins ('[' :: (text ++ ']' :: rest)) (.punct "[") (text ++ ']' :: rest) :=
    .bracket (by decide) _
  have hclose : Begins (']' :: rest) (.punct "]") rest := .bracket (by decide) _
  refine .binding (fun rounds => ?_) rounds
  have hitem : IsItem ']' (Reader.bindingElement (readers limit rounds) c) text := by
    refine ⟨fun rest hrest => ?_, fun rest hrest => ?_⟩
    · obtain ⟨t, after, hbegins, ht⟩ := h.head.begins hrest
      exact ⟨t, after, hbegins, Token.isPunct_eq_false ht (by decide)⟩
    · obtain ⟨t, after, hbegins, ht⟩ := h.head.begins hrest
      have hdefault : ∀ target, Ends (Stop rest) (Reader.withDefault (readers limit rounds) c target)
          fun _ => Stop rest := fun target =>
        .after (.eat_unless fun cursor hc => hc.isPunct (.inl hrest) rfl) <| .neg rfl <|
          .pure fun _ => id
      exact .after (.atPunct hbegins.near.shows _) <| .neg (Token.isPunct_eq_false ht rfl) <|
        .after (.atPunct hbegins.near.shows _) <| .neg (Token.isPunct_eq_false ht rfl) <|
        (h.head.binding hrest limit rounds).bind fun target =>
          (hdefault target).bind fun _ => .pure fun _ => id
  have hitems : ∀ item ∈ [text], IsItem ']' (Reader.bindingElement (readers limit rounds) c) item := by
    rintro _ (_ | ⟨_, ⟨⟩⟩)
    exact hitem
  exact .after (.eat_not hopen.near.shows rfl) <| .neg rfl <| .after (.eat hopen.near rfl) <|
    .pos rfl <| (Ends.separated ']' (by decide) hitems rest _).bind fun _ =>
      .after (.expect hclose.near rfl) <|
      .after (.note Near.forgives _) <| .pure fun _ => id

/-! ## Modifiers -/

theorem Looks.canFollowModifier : Looks Reader.canFollowModifier :=
  .get fun _ => by split <;> exact .pure

theorem Looks.canFollowAccessor : Looks Reader.canFollowAccessor :=
  .get fun _ => by split <;> exact .pure

theorem Looks.canFollowDefault : Looks Reader.canFollowDefault :=
  .bind (.atAnyWord _) fun _ => .ite .pure <| .bind (.atWord _) fun _ => .ite .looksLike <|
    .bind (.atWord _) fun _ => .ite .looksLike <| .atPunct _

theorem Looks.canFollowExport : Looks Reader.canFollowExport :=
  .bind (.atAnyPunct _) fun _ => .bind (.atWord _) fun _ => .ite .pure .canFollowModifier

theorem Looks.exportsHere : Looks Reader.exportsHere :=
  .bind (.atWord _) fun _ => .ite .looksLike <| .bind (.atWord _) fun _ => .ite .looksLike
    .canFollowExport

/-- A word that is taken as a modifier is passed. -/
theorem Ends.takeModifier {w : String} (h : Begins text (.word w false) rest) :
    Ends (Near text) (Reader.takeModifier w) fun _ => Near rest := by
  have hcheck : ∀ {look : Reader Bool}, Looks look → Ends (Near rest)
      (look >>= fun holds => if (!holds) = true then Reader.fail else Pure.pure ()) fun _ => Near rest :=
    fun hlook => .bind (.looks hlook) fun _ => .ite (.of_refuses .fail) (.pure fun _ => id)
  refine .after (.bump h.near rfl) ?_
  exact .ite (hcheck (.atWord _)) <| .ite (hcheck .canFollowModifier) <| .ite (hcheck .exportsHere) <|
    .ite (hcheck .canFollowDefault) <| .ite (hcheck .canFollowAccessor) <|
    .bind (.looks .onNewLine) fun _ => .bind (.looks .canFollowModifier) fun _ =>
      .ite (.of_refuses .fail) (.pure fun _ => id)

theorem Ends.modifier? {w : String} (h : Begins text (.word w false) rest) (seen : List String) :
    Ends (Near text) (Reader.modifier? false false seen)
      fun found cursor => found.elim (Near text cursor) fun _ => Near rest cursor := by
  have hnone : Ends (Near text) (Pure.pure none : Reader (Option String))
      fun found cursor => found.elim (Near text cursor) fun _ => Near rest cursor := by
    rintro cursor hc _ _ ⟨⟩
    exact hc
  refine .get fun cursor hc => ?_
  rw [h.near.shows cursor hc]
  refine .ite (.neg rfl hnone) <| .bind (.looks .looksLike) fun _ => .ite hnone <| .ite ?_ hnone
  refine (Ends.takeModifier h).attempt.bind fun taken => ?_
  cases taken with
  | none => exact hnone
  | some _ =>
    rintro cursor hc _ _ ⟨⟩
    exact hc

theorem Leads.modifier?_none (h : Shows P t) (ht : ∀ w escaped, t ≠ .word w escaped)
    (seen : List String) : Leads P (Reader.modifier? false false seen) none P := by
  refine .get fun cursor hc => ?_
  rw [h cursor hc]
  cases t with
  | word w escaped => exact absurd rfl (ht w escaped)
  | _ => exact .pure

theorem Leads.modifiersFrom_none (h : Shows P t) (ht : ∀ w escaped, t ≠ .word w escaped) (limit : Nat)
    (seen : List String) : Leads P (Reader.modifiersFrom false false (limit + 1) seen) seen P :=
  (modifier?_none h ht seen).bind .pure

/-- At most one word in front of anything but a word is taken as a modifier. -/
theorem Ends.modifiers {w : String} (h : Begins text (.word w false) rest) {after : List Char}
    (hnext : Begins rest u after) (hu : ∀ w escaped, u ≠ .word w escaped) :
    Ends (Near text) (Reader.modifiers r false false)
      fun _ cursor => Near text cursor ∨ Near rest cursor := by
  refine (Ends.modifier? h []).bind fun found => ?_
  cases found with
  | none => exact .pure fun _ => .inl
  | some v =>
    refine .after (.note Near.forgives _) ?_
    cases r.limit with
    | zero => exact .of_refuses .fail
    | succ limit =>
      exact (Ends.of_leads (Leads.modifiersFrom_none hnext.near.shows hu limit _)).mono
        fun _ _ hc => .inr hc.2

/-- A word that can be no modifier stays. -/
theorem Ends.modifiers_none {w : String} (h : Shows P (.word w false))
    (hw : Reader.modifierWords.contains w = false) :
    Ends P (Reader.modifiers r false false) fun _ => P := by
  have hnone : Ends P (Pure.pure none : Reader (Option String)) fun found cursor =>
      found = none ∧ P cursor := by
    rintro cursor hc _ _ ⟨⟩
    exact ⟨rfl, hc⟩
  have hmodifier : Ends P (Reader.modifier? false false []) fun found cursor =>
      found = none ∧ P cursor := by
    refine .get fun cursor hc => ?_
    rw [h cursor hc]
    exact .ite (.neg rfl hnone) <| .bind (.looks .looksLike) fun _ => .ite hnone <| .neg hw hnone
  refine hmodifier.bind fun found => ?_
  rintro cursor ⟨rfl, hc⟩
  exact Ends.pure (fun _ => id) cursor hc

/-! ## Parameters -/

theorem Leads.decorators_none (h : Shows P t) (ht : t.isPunct "@" = false) :
    Leads P (Reader.decorators r c) [] P := by
  have hnone : Leads P (Reader.decorator r c) none P :=
    .get fun _ _ => .bind (.eat_not h ht) <| .neg rfl .pure
  exact .many_nil hnone r.limit

/-- What is behind the pattern of a parameter, where the parameter ends. -/
theorem Ends.parameter (hp : Shows P t) (ht : t.isPunct "@" = false)
    (hmodifiers : Ends P (Reader.modifiers r false false) fun _ => Q) (hforgives : Forgives Q)
    (hrest : ∀ cursor, Q cursor → cursor.token.isPunct "..." = false)
    (hbinding : Ends Q (r.binding c) fun _ => Stop rest) (hfollows : Follows rest)
    (owner : Reader.Callable) : Ends P (Reader.parameter r c owner) fun _ => Stop rest := by
  have hnone : ∀ symbol, (Token.punct symbol).followsChain = false →
      Leads (Stop rest) (Reader.eat symbol) false (Stop rest) :=
    fun symbol hsymbol => .eat_unless fun cursor hc => hc.isPunct hfollows hsymbol
  refine .get fun _ _ => .after (.decorators_none hp ht) <| hmodifiers.bind fun given =>
    .after (.note hforgives _) <| .after (.atPunct_unless hrest) <| .neg rfl <|
    hbinding.bind fun target => .after (.note Stop.forgives _) <| .after (hnone "?" rfl) <|
    .after (.bind (hnone ":" rfl) (.neg rfl .pure)) <| .after (hnone "=" rfl) <| .neg rfl <|
    .after .pure <| .after (.note Stop.forgives _) <| .bind (.looks ?_) fun _ => .pure fun _ => id
  exact .get fun _ => .pure

/-- The text of a parameter, for the readers of a round. -/
def IsParameter (limit rounds : Nat) (c : Context) (text : List Char) : Prop :=
  IsItem ')' (Reader.parameter (readers limit rounds) c .other) text

section Readers

variable (limit rounds : Nat) (c : Context)

/-- An expression in brackets and what continues a chain behind it, as a parameter. -/
theorem ChainText.arrayParameter {e : Expr} {optional calls : Bool}
    (h : ChainText text e optional calls) {tail : List Char} (htail : IsTail tail) :
    IsParameter limit rounds c ('[' :: (text ++ ']' :: tail)) := by
  have hopen : ∀ rest, Begins ('[' :: (text ++ ']' :: tail) ++ rest) (.punct "[") _ :=
    fun rest => .bracket (by decide) _
  refine ⟨fun rest _ => ⟨_, _, hopen rest, by decide⟩, fun rest hrest => ?_⟩
  have hbinding : Ends (Near ('[' :: (text ++ ']' :: tail) ++ rest)) ((readers limit rounds).binding c)
      fun _ => Stop rest := by
    simpa using (h.arrayBinding (tail ++ rest) limit rounds).mono fun _ _ => Stop.of_tail htail
  refine .parameter (hopen rest).near.shows rfl
    ((Ends.of_leads (.modifiersFrom_none (hopen rest).near.shows nofun _ _)).mono fun _ _ hc => hc.2)
    Near.forgives ?_ hbinding (.inl hrest) _
  intro cursor hc
  rw [(hopen rest).near.shows cursor hc]
  rfl

/-- Text that starts with a token that no parameter starts with. -/
theorem isItem_of_refused (h : ∀ rest, Closed rest → ∃ t after, Begins (text ++ rest) t after ∧
      t.followsChain = true ∧ t.isPunct ")" = false ∧ t.isPunct "[" = false) :
    IsParameter limit rounds c text := by
  refine ⟨fun rest hrest => ?_, fun rest hrest => ?_⟩
  · obtain ⟨t, after, hbegins, -, ht, -⟩ := h rest hrest
    exact ⟨t, after, hbegins, ht⟩
  · obtain ⟨t, after, hbegins, hfollows, -, hbracket⟩ := h rest hrest
    have hword := Token.ne_word_of_followsChain hfollows
    have hbinding : Ends (Near (text ++ rest)) ((readers limit rounds).binding c) fun _ => Stop rest :=
      .binding (fun _ => .of_refuses (.bindingPattern hbegins.near.shows hbracket
        (Token.isPunct_eq_false hfollows rfl) fun w escaped heq => absurd heq (hword w escaped))) _
    refine .parameter hbegins.near.shows (Token.isPunct_eq_false hfollows rfl)
      ((Ends.of_leads (.modifiersFrom_none hbegins.near.shows hword _ _)).mono fun _ _ hc => hc.2)
      Near.forgives ?_ hbinding (.inl hrest) _
    intro cursor hc
    rw [hbegins.near.shows cursor hc]
    exact Token.isPunct_eq_false hfollows rfl

/-- The text of a chain, as a parameter. -/
theorem Head.parameter {bare : Bool} (h : Head text bare) :
    IsParameter limit rounds c text := by
  refine ⟨fun rest hrest => ?_, fun rest hrest => ?_⟩
  · obtain ⟨t, after, hbegins, ht⟩ := h.begins hrest
    exact ⟨t, after, hbegins, Token.isPunct_eq_false ht rfl⟩
  have hfirst := h.binding (c := c) hrest limit rounds
  -- A word may be a modifier; then the text behind it is read as the pattern.
  have hword : ∀ (w : String) (tail : List Char), Begins (text ++ rest) (.word w false) tail →
      Follows tail → Ends (Near tail) ((readers limit rounds).binding c) (fun _ => Stop rest) →
      Ends (Near (text ++ rest)) (Reader.parameter (readers limit rounds) c .other)
        fun _ => Stop rest := by
    intro w tail hw htail hsecond
    obtain ⟨u, after, hu, hfollows⟩ := htail.begins
    refine .parameter hw.near.shows rfl
      (Ends.modifiers hw hu (Token.ne_word_of_followsChain hfollows))
      (Near.forgives.or Near.forgives) ?_ (hfirst.or hsecond) (.inl hrest) _
    rintro cursor (hc | hc)
    · rw [hw.near.shows cursor hc]
      rfl
    · rw [hu.near.shows cursor hc]
      exact Token.isPunct_eq_false hfollows rfl
  have hrefused : ∀ (tail : List Char) (t : Token) (after : List Char), Begins tail t after →
      t.followsChain = true → t.isPunct "[" = false →
      Ends (Near tail) ((readers limit rounds).binding c) fun _ => Stop rest := by
    intro tail t after hbegins hfollows hbracket
    refine .binding (fun _ => .of_refuses (.bindingPattern hbegins.near.shows hbracket
      (Token.isPunct_eq_false hfollows rfl) fun w escaped heq => ?_)) _
    exact absurd heq (Token.ne_word_of_followsChain hfollows w escaped)
  have hother : ∀ (t : Token) (after : List Char), Begins (text ++ rest) t after →
      t.startsOperand = true → Ends (Near (text ++ rest)) (Reader.modifiers (readers limit rounds)
        false false) (fun _ => Near (text ++ rest)) →
      Ends (Near (text ++ rest)) (Reader.parameter (readers limit rounds) c .other)
        fun _ => Stop rest := by
    intro t after hbegins ht hmodifiers
    refine .parameter hbegins.near.shows (Token.isPunct_eq_false ht rfl) hmodifiers Near.forgives ?_
      hfirst (.inl hrest) _
    intro cursor hc
    rw [hbegins.near.shows cursor hc]
    exact Token.isPunct_eq_false ht rfl
  have hfollows : Follows rest := .inl hrest
  cases h with
  | bare hw =>
    obtain ⟨u, after, hu, hcloses⟩ := hrest.begins
    refine hword _ _ (.word hw.name hfollows.wordEnds) hfollows (hrefused _ _ _ hu ?_ ?_)
    · rw [Token.followsChain, hcloses, Bool.or_true]
    · exact Token.isPunct_eq_false hcloses rfl
  | @linked w tail hw h =>
    have htail : Follows (tail ++ rest) := .inr (h rest).continues
    obtain ⟨u, after, hu, hlink⟩ := (h rest).begins
    refine hword w (tail ++ rest) ?_ htail (hrefused _ _ _ hu ?_ (Token.isPunct_eq_false hlink rfl))
    · rw [List.append_assoc]
      exact .word hw.name htail.wordEnds
    · rw [Token.followsChain, Token.continuesChain, hlink, Bool.true_or, Bool.true_or]
  | @indexed w keyText key optional calls hw hkey tail htail =>
    have hindex : Follows ('[' :: (keyText ++ ']' :: (tail ++ rest))) :=
      .inr (continues_bracket (by decide) false _)
    refine hword w _ ?_ hindex ?_
    · simpa using Begins.word hw.name hindex.wordEnds
    · exact (hkey.arrayBinding (tail ++ rest) limit rounds).mono fun _ _ => Stop.of_tail htail
  | @called w args hw hargs tail htail =>
    have hcall : Follows (argumentText args ++ (tail ++ rest)) :=
      .inr (continues_bracket (by decide) false _)
    refine hword w _ ?_ hcall (hrefused _ _ _ (.bracket (c := '(') (by decide) _) rfl rfl)
    simpa using Begins.word hw.name hcall.wordEnds
  | @keyword w tail hw htail =>
    have hkeyword : ∀ w ∈ ["new", "import"], isIdentifierName w.toList = true ∧
        (Token.word w false).startsOperand = true ∧ Reader.modifierWords.contains w = false := by
      decide
    obtain ⟨hname, hstarts, hmodifier⟩ := hkeyword w hw
    have hbegins : Begins (w.toList ++ tail ++ rest) (.word w false) (tail ++ rest) := by
      rw [List.append_assoc]
      exact .word hname (htail rest)
    exact hother _ _ hbegins hstarts (.modifiers_none hbegins.near.shows hmodifier)
  | @number x tail hfinite hpos htail hwhole =>
    have hbegins : Begins (x.render.toList ++ tail ++ rest) (.number x) (tail ++ rest) := by
      rw [List.append_assoc]
      exact .number hfinite hpos _ (fractionEnds_append htail hfollows.fractionEnds)
        fun hx => numberEnds_append (hwhole hx) hrest.numberEnds
    refine hother _ _ hbegins rfl ?_
    exact (Ends.of_leads (.modifiersFrom_none hbegins.near.shows (by rintro _ _ ⟨⟩) _ _)).mono fun _ _ hc => hc.2
  | @parens text e optional calls h hbare tail =>
    have hbegins : Begins ('(' :: (text ++ ')' :: tail) ++ rest) (.punct "(") _ :=
      .bracket (by decide) _
    refine hother _ _ hbegins rfl ?_
    exact (Ends.of_leads (.modifiersFrom_none hbegins.near.shows (by rintro _ _ ⟨⟩) _ _)).mono fun _ _ hc => hc.2

/-- A chain starts with another token than `this`, or what stands behind `this` is nothing or continues
the chain. -/
theorem Head.this {bare : Bool} (h : Head text bare) :
    (∀ rest, Closed rest → ∃ t after, Begins (text ++ rest) t after ∧ t.isWord "this" = false) ∨
    ∃ tail, text = "this".toList ++ tail ∧ (tail = [] ∨ (∀ rest, Continues (tail ++ rest)) ∧
      IsParameter limit rounds c tail) := by
  have hword : ∀ (w : String) (tail : List Char), text = w.toList ++ tail → IsOperandWord w →
      (∀ rest, Closed rest → Follows (tail ++ rest)) →
      (tail = [] ∨ (∀ rest, Continues (tail ++ rest)) ∧
        IsParameter limit rounds c tail) →
      (∀ rest, Closed rest → ∃ t after, Begins (text ++ rest) t after ∧ t.isWord "this" = false) ∨
      ∃ tail, text = "this".toList ++ tail ∧ (tail = [] ∨ (∀ rest, Continues (tail ++ rest)) ∧
        IsParameter limit rounds c tail) := by
    rintro w tail rfl hw htail hitem
    by_cases hthis : w = "this"
    · subst hthis
      exact .inr ⟨tail, rfl, hitem⟩
    · refine .inl fun rest hrest => ?_
      rw [List.append_assoc]
      exact ⟨_, _, .word hw.name (htail rest hrest).wordEnds, beq_eq_false_iff_ne.2 hthis⟩
  cases h with
  | bare hw => exact hword _ [] (List.append_nil _).symm hw (fun _ => .inl) (.inl rfl)
  | linked hw h =>
    refine hword _ _ rfl hw (fun rest _ => .inr (h rest).continues)
      (.inr ⟨fun rest => (h rest).continues, isItem_of_refused limit rounds c fun rest _ => ?_⟩)
    obtain ⟨t, after, hbegins, ht⟩ := (h rest).begins
    refine ⟨t, after, hbegins, ?_, Token.isPunct_eq_false ht rfl, Token.isPunct_eq_false ht rfl⟩
    rw [Token.followsChain, Token.continuesChain, ht, Bool.true_or, Bool.true_or]
  | @indexed w keyText key optional calls hw hkey tail htail =>
    have hindex := isLink_bracket (c := '[') (by decide) false (keyText ++ ']' :: tail)
    exact hword _ _ rfl hw (fun rest _ => .inr (hindex rest)) (.inr ⟨hindex, hkey.arrayParameter limit rounds c htail⟩)
  | @called w args hw hargs tail htail =>
    have hcall : IsLink (argumentText args ++ tail) := isLink_bracket (c := '(') (by decide) false _
    exact hword _ _ rfl hw (fun rest _ => .inr (hcall rest)) (.inr ⟨hcall, isItem_of_refused limit rounds c fun rest _ =>
      ⟨_, _, .bracket (c := '(') (by decide) _, rfl, rfl, rfl⟩⟩)
  | @keyword w tail hw htail =>
    have hkeyword : ∀ w ∈ ["new", "import"], isIdentifierName w.toList = true ∧
        (Token.word w false).isWord "this" = false := by decide
    refine .inl fun rest _ => ?_
    rw [List.append_assoc]
    exact ⟨_, _, .word (hkeyword w hw).1 (htail rest), (hkeyword w hw).2⟩
  | number hfinite hpos htail hwhole =>
    refine .inl fun rest hrest => ?_
    rw [List.append_assoc]
    exact ⟨_, _, .number hfinite hpos _
      (fractionEnds_append htail (Follows.fractionEnds (.inl hrest)))
      fun hx => numberEnds_append (hwhole hx) hrest.numberEnds, rfl⟩
  | parens _ _ _ => exact .inl fun rest _ => ⟨_, _, .bracket (by decide) _, rfl⟩

/-- Behind a parameter `this`, if there is one, stands a list of parameters again. -/
theorem Ends.thisParameter {args : List ChainItem}
    (hargs : ∀ a ∈ args, ChainText a.text a.expr a.optional a.calls) (rest : List Char) :
    Ends (Near (commaText (args.map (·.text)) ++ ')' :: rest))
      (Reader.thisParameter (readers limit rounds) c) fun _ cursor =>
        ∃ texts, (∀ text ∈ texts, IsParameter limit rounds c text) ∧
          Near (commaText texts ++ ')' :: rest) cursor := by
  have hitems : ∀ text ∈ args.map (·.text), IsParameter limit rounds c text := by
    intro text htext
    obtain ⟨a, ha, rfl⟩ := List.mem_map.1 htext
    exact (hargs a ha).head.parameter limit rounds c
  cases args with
  | nil =>
    exact .after (.eatWord_not (Begins.bracket (c := ')') (by decide) rest).near.shows rfl) <| .neg rfl <|
      .pure fun cursor hc => ⟨[], nofun, hc⟩
  | cons a args =>
    obtain ⟨-, hothers⟩ := List.forall_mem_cons.1 hitems
    have hmore : Closed (moreText (args.map (·.text)) (')' :: rest)) :=
      (closed_cons (by decide) rest).moreText _
    rw [List.map_cons] at hitems ⊢
    rcases (hargs a List.mem_cons_self).head.this limit rounds c with hother | ⟨tail, htext, htail⟩
    · obtain ⟨t, after, hbegins, ht⟩ := hother _ hmore
      rw [← commaText_cons] at hbegins
      exact .after (.eatWord_not hbegins.near.shows ht) <| .neg rfl <|
        .pure fun cursor hc => ⟨_, hitems, hc⟩
    · have hfollows : Follows (tail ++ moreText (args.map (·.text)) (')' :: rest)) := by
        rcases htail with rfl | ⟨htail, -⟩
        · exact .inl hmore
        · exact .inr (htail _)
      have hthis : Begins (commaText (a.text :: args.map (·.text)) ++ ')' :: rest)
          (.word "this" false) (tail ++ moreText (args.map (·.text)) (')' :: rest)) := by
        rw [commaText_cons, htext, List.append_assoc]
        exact .word (by decide) hfollows.wordEnds
      obtain ⟨u, after, hu, hufollows⟩ := hfollows.begins
      refine .after (.eatWord hthis.near rfl rfl) <| .pos rfl <|
        .after (.bind (.eat_not hu.near.shows (Token.isPunct_eq_false hufollows rfl)) <|
          .neg rfl .pure) ?_
      rcases htail with rfl | ⟨htail, hitem⟩
      · -- A comma behind `this` is read with it.
        cases args with
        | nil =>
          exact .after (.eat_not (Begins.bracket (c := ')') (by decide) rest).near.shows rfl) <|
            .pure fun cursor hc => ⟨[], nofun, hc⟩
        | cons b args =>
          have hcomma : Begins (moreText (b.text :: args.map (·.text)) (')' :: rest)) (.punct ",") _ :=
            .bracket (by decide) _
          exact .after (.eat hcomma.near rfl) <| .pure fun cursor hc => ⟨_, hothers, hc.blank⟩
      · obtain ⟨v, after, hv, hvcontinues⟩ := (htail (moreText (args.map (·.text)) (')' :: rest))).begins
        refine .after (.eat_not hv.near.shows (Token.isPunct_eq_false hvcontinues rfl)) <|
          .pure fun cursor hc => ⟨tail :: args.map (·.text), ?_, ?_⟩
        · exact List.forall_mem_cons.2 ⟨hitem, hothers⟩
        · rwa [commaText_cons]

/-- Arguments are read as parameters up to the closing parenthesis at most. -/
theorem Ends.parameters {args : List ChainItem}
    (hargs : ∀ a ∈ args, ChainText a.text a.expr a.optional a.calls) (rest : List Char) :
    Ends (Near (argumentText args ++ rest)) (Reader.parameters (readers limit rounds) c .other)
      fun _ => Near rest := by
  have htext : argumentText args ++ rest = '(' :: (commaText (args.map (·.text)) ++ ')' :: rest) := by
    simp [argumentText]
  have hopen : Begins ('(' :: (commaText (args.map (·.text)) ++ ')' :: rest)) (.punct "(") _ :=
    .bracket (by decide) _
  have hclose : Begins (')' :: rest) (.punct ")") rest := .bracket (by decide) _
  have hforgives : Forgives fun cursor => ∃ texts, (∀ text ∈ texts, IsParameter limit rounds c text) ∧
      Near (commaText texts ++ ')' :: rest) cursor :=
    fun cursor ⟨texts, htexts, hc⟩ => ⟨texts, htexts, Near.forgives cursor hc⟩
  rw [htext]
  refine .after (.expect hopen.near rfl) <| (Ends.thisParameter limit rounds c hargs rest).bind
    fun given => .after (.note hforgives _) <| .bind (R := fun _ => Near (')' :: rest)) ?_ fun _ =>
      .after (.expect hclose.near rfl) <| .after (.note Near.forgives _) <| .pure fun _ => id
  rintro cursor ⟨texts, htexts, hc⟩
  exact Ends.separated ')' (by decide) htexts rest _ cursor hc

/-- A call of `async` is no arrow function. -/
theorem Refuses.possibleArrow {args : List ChainItem}
    (hargs : ∀ a ∈ args, ChainText a.text a.expr a.optional a.calls) (hrest : Follows rest)
    (allowReturnType : Bool) :
    Refuses (Near ("async".toList ++ (argumentText args ++ rest)))
      (Reader.possibleArrow (readers limit rounds) c allowReturnType) := by
  have hcall : Follows (argumentText args ++ rest) := .inr (continues_bracket (by decide) false _)
  have hasync : Begins ("async".toList ++ (argumentText args ++ rest)) (.word "async" false)
      (argumentText args ++ rest) := .word (by decide) hcall.wordEnds
  obtain ⟨t, after, hopen, ht⟩ := hcall.begins
  obtain ⟨u, after, hu, hfollows⟩ := hrest.begins
  refine .bind (Ends.refuses ?_)
  refine .after (.eatWord hasync.near rfl rfl) <|
    .after (.bind (.eat_not hopen.near.shows (Token.isPunct_eq_false ht rfl)) <| .neg rfl .pure) <|
    (Ends.parameters limit rounds _ hargs rest).bind fun params =>
    .after (.atPunct hu.near.shows _) <|
    .after (.bind (.eat_not hu.near.shows (Token.isPunct_eq_false hfollows rfl)) <| .neg rfl .pure) <|
    .bind (.looks .onNewLine) fun newline => .after (.note Near.forgives _) <| .of_refuses <|
      .bind <| .expect hu.near.shows (Token.isPunct_eq_false hfollows rfl)

end Readers

/-! ## No arrow functions -/

theorem Head.arrow?_none {bare : Bool} (h : Head text bare) (hrest : Closed rest)
    (limit rounds : Nat) (c : Context) (allowReturnType f : Bool) :
    Leads (At f (text ++ rest)) (Reader.arrow? (readers limit rounds) c allowReturnType) none
      (At f (text ++ rest)) := by
  -- A word in front of what opens no parameters, be it `async`.
  have hword : ∀ (w : String) (tail : List Char), IsOperandWord w → Follows tail →
      (∃ t after, Begins tail t after ∧ t.followsChain = true ∧ t.isPunct "(" = false) →
      Leads (At f (w.toList ++ tail)) (Reader.arrow? (readers limit rounds) c allowReturnType) none
        (At f (w.toList ++ tail)) := by
    rintro w tail hw htail ⟨t, after, ht, hfollows, hparen⟩
    have hbegins : Begins (w.toList ++ tail) (.word w false) tail := .word hw.name htail.wordEnds
    by_cases hasync : w = "async"
    · subst hasync
      have hname : Leads (At f tail) Reader.atName false (At f tail) :=
        .atWordLike_not ht.shows (Token.ne_word_of_followsChain hfollows) _
      exact .arrow?_async hbegins.passes ht.shows (.atAsyncArrow_none hbegins.passes hname) hparen
        (Token.isPunct_eq_false hfollows rfl)
    · exact .arrow?_none hbegins.shows (beq_eq_false_iff_ne.2 hasync) rfl rfl
  cases h with
  | bare hw =>
    obtain ⟨t, after, ht, hcloses⟩ := hrest.begins
    refine hword _ _ hw (.inl hrest) ⟨t, after, ht, ?_, Token.isPunct_eq_false hcloses rfl⟩
    rw [Token.followsChain, hcloses, Bool.or_true]
  | linked hw h =>
    obtain ⟨t, after, ht, hlink⟩ := (h rest).begins
    rw [List.append_assoc]
    refine hword _ _ hw (.inr (h rest).continues) ⟨t, after, ht, ?_, Token.isPunct_eq_false hlink rfl⟩
    rw [Token.followsChain, Token.continuesChain, hlink, Bool.true_or, Bool.true_or]
  | indexed hw _ _ =>
    rw [List.append_assoc]
    exact hword _ _ hw (.inr (continues_bracket (by decide) false _))
      ⟨_, _, .bracket (c := '[') (by decide) _, rfl, rfl⟩
  | @called w args hw hargs tail htail =>
    have hfollows : Follows (tail ++ rest) := htail.follows (.inl hrest)
    have hcall : Follows (argumentText args ++ (tail ++ rest)) :=
      .inr (continues_bracket (by decide) false _)
    have hbegins : Begins (w.toList ++ (argumentText args ++ (tail ++ rest))) (.word w false) _ :=
      .word hw.name hcall.wordEnds
    have hopen : Begins (argumentText args ++ (tail ++ rest)) (.punct "(")
        (commaText (args.map (·.text)) ++ ')' :: (tail ++ rest)) := by
      simpa [argumentText] using
        Begins.bracket (c := '(') (by decide) (commaText (args.map (·.text)) ++ ')' :: (tail ++ rest))
    rw [List.append_assoc, List.append_assoc]
    by_cases hasync : w = "async"
    · subst hasync
      obtain ⟨guess, hyes, hguess⟩ := guess_arguments hargs hfollows f
      exact .arrow?_asyncCall hbegins.passes (.onNewLine hopen) hopen.passes hguess hyes
        fun cursor hc => Refuses.possibleArrow limit rounds c hargs hfollows _ cursor ⟨f, hc⟩
    · exact .arrow?_none hbegins.shows (beq_eq_false_iff_ne.2 hasync) rfl rfl
  | @keyword w tail hw htail =>
    have hkeyword : ∀ w ∈ ["new", "import"], isIdentifierName w.toList = true ∧
        (Token.word w false).isWord "async" = false := by decide
    rw [List.append_assoc]
    exact .arrow?_none (Begins.word (hkeyword w hw).1 (htail rest)).shows (hkeyword w hw).2 rfl rfl
  | @number x tail hfinite hpos htail hwhole =>
    rw [List.append_assoc]
    exact .arrow?_none (Begins.number hfinite hpos (tail ++ rest)
      (fractionEnds_append htail (Follows.fractionEnds (.inl hrest)))
      fun hx => numberEnds_append (hwhole hx) hrest.numberEnds).shows rfl rfl rfl
  | @parens text e optional calls h hbare tail =>
    obtain ⟨guess, -, hno, hguess⟩ := h.head.guess (closed_cons (c := ')') (by decide) (tail ++ rest)) f
    rw [hno hbare] at hguess
    have hopen : Begins ('(' :: (text ++ ')' :: tail) ++ rest) (.punct "(")
        (text ++ ')' :: (tail ++ rest)) := by
      simpa using Begins.bracket (c := '(') (by decide) (text ++ ')' :: (tail ++ rest))
    exact .arrow?_parens hopen.passes hguess

end CustomElement.Script
