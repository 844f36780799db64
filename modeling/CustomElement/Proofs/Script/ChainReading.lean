import CustomElement.Proofs.Script.ChainArrow
import CustomElement.Proofs.Script.Reads

/-!
# Texts of chains read back

A text of a chain is read as that chain, whatever closes what it stands in (`ChainText.assigns`). The
readers go through a chain from left to right and keep what they have so far, so the induction is over
the chain with a statement about all runs that go on from its end: if the links behind it lead from
there to a result, then all links together lead to that result from the start (`Chains`).

A chain of calls needs as many rounds and as long a limit as its text is long at most.
-/

namespace CustomElement.Script

open CustomElement.Text CustomElement.Grammar

variable {text rest : List Char} {t u : Token} {P P₁ P₂ Q : Cursor → Prop} {r : Readers} {c : Context}

/-! ## Links -/

/-- The calls behind an expression, and all links behind them. -/
def callTail (r : Readers) (c : Context) (limit : Nat) : Reader.Link → Reader Reader.Link
  | (e, optional) => do
    if ← Reader.atPunct "?." then Reader.callSteps r c limit (← Reader.optionalCall r c e, true)
    else if ← Reader.atPunct "(" then
      Reader.callSteps r c limit (← Reader.callStep r c e false, optional)
    else return (e, optional)

/-- The links behind an expression: accesses, and calls too if these belong to it. -/
def links (r : Readers) (c : Context) (calls : Bool) (limit accesses : Nat) (link : Reader.Link) :
    Reader Reader.Link := do
  let link ← Reader.accessSteps r c accesses link
  if calls then callTail r c limit link else return link

theorem callSteps_eq_links (r : Readers) (c : Context) (limit : Nat) (link : Reader.Link) :
    Reader.callSteps r c (limit + 1) link = links r c true limit (r.limit + 1) link :=
  rfl

theorem accessSteps_eq_links (r : Readers) (c : Context) (limit accesses : Nat) (link : Reader.Link) :
    Reader.accessSteps r c accesses link = links r c false limit accesses link :=
  (bind_pure _).symm

namespace Leads

variable {calls : Bool} {limit accesses : Nat} {link link₁ b : Reader.Link}

theorem links_access (h : Leads P (Reader.accessStep r c link) (some link₁) P₁)
    (hrest : Leads P₁ (links r c calls limit accesses link₁) b Q) :
    Leads P (links r c calls limit (accesses + 1) link) b Q := by
  rw [links, Reader.accessSteps, bind_assoc]
  exact h.bind hrest

theorem links_end (h : Shows P t) (ht : t.endsAccess = true) (hcalls : calls = true → t.endsChain = true) :
    Leads P (links r c calls limit (accesses + 1) link) link P := by
  refine (accessSteps_nil (accessStep_end h ht link) accesses).bind ?_
  cases calls with
  | false => exact .neg rfl .pure
  | true =>
    have hchain := hcalls rfl
    exact .pos rfl <| .bind (.atPunct h "?.") <| .neg (Token.isPunct_eq_false hchain rfl) <|
      .bind (.atPunct h "(") <| .neg (Token.isPunct_eq_false hchain rfl) .pure

theorem links_call {e : Expr} {es : List Expr} {o : Bool} (h : Shows P (.punct "("))
    (he : ∀ inner, e ≠ .wrapped .instantiation inner)
    (hargs : Leads P (Reader.arguments r c.enclosed) es P₁)
    (hrest : Leads P₁ (links r c true limit (r.limit + 1) (.call e es false, o)) b Q) :
    Leads P (links r c true (limit + 1) (accesses + 1) (e, o)) b Q :=
  (accessSteps_nil (accessStep_end h rfl (e, o)) accesses).bind <| .pos rfl <|
    .bind (.atPunct h "?.") <| .neg rfl <| .bind (.atPunct h "(") <| .pos rfl <|
      (callStep he hargs false).bind hrest

theorem links_optionalCall {e : Expr} {es : List Expr} {o : Bool} (h : Passes P (.punct "?.") P₁)
    (hopen : Shows P₁ (.punct "(")) (he : ∀ inner, e ≠ .wrapped .instantiation inner)
    (hargs : Leads P₁ (Reader.arguments r c.enclosed) es P₂)
    (hrest : Leads P₂ (links r c true limit (r.limit + 1) (.call e es true, true)) b Q) :
    Leads P (links r c true (limit + 1) (accesses + 1) (e, o)) b Q :=
  (accessSteps_nil (accessStep_optionalCall h hopen (e, o)) accesses).bind <| .pos rfl <|
    .bind (.atPunct h.shows "?.") <| .pos rfl <| (optionalCall h hopen he hargs).bind hrest

end Leads

/-! ## What is read of an expression and of a chain -/

/-- An expression in front of what closes it is read as such. -/
def Assigns (text : List Char) (e : Expr) : Prop :=
  ∀ ⦃limit rounds : Nat⦄ ⦃rest : List Char⦄ (f allowReturnType : Bool), text.length ≤ rounds →
    text.length < limit → Closed rest →
    Leads (At f (text ++ rest)) ((readers limit (rounds + 1)).assign .module allowReturnType) e
      (At f rest)

/-- From the start of a chain, the links lead where they lead from its end. -/
def Chains (text : List Char) (e : Expr) (optional calls : Bool) : Prop :=
  ∀ ⦃limit rounds k : Nat⦄ ⦃all : Bool⦄ ⦃rest : List Char⦄ ⦃f : Bool⦄ ⦃b : Reader.Link⦄
    ⦃Q : Cursor → Prop⦄, text.length ≤ rounds → k + text.length ≤ limit + 1 →
    (calls = true → all = true) → Follows rest →
    (text.all isAsciiDigit = true → NumberEnds rest) →
    (∀ i j, k ≤ i → k ≤ j →
      Leads (At f rest) (links (readers limit rounds) .module all i j (e, optional)) b Q) →
    ∀ i j, k + text.length ≤ i → k + text.length ≤ j →
      Leads (At f (text ++ rest)) (Reader.primary (readers limit rounds) .module >>= fun e =>
        links (readers limit rounds) .module all i j (e, false)) b Q

/-! ## Lists -/

theorem Assigns.expression {e : Expr} (h : Assigns text e) {limit rounds : Nat} (f : Bool)
    (hrounds : text.length ≤ rounds) (hlimit : text.length < limit) (close : Char)
    (hclose : close ∈ [')', ']', '\x7d']) (rest : List Char) :
    Leads (At f (text ++ close :: rest)) (Reader.expression (readers limit (rounds + 1)) .module) e
      (At f (close :: rest)) := by
  have hclosers : ∀ c ∈ [')', ']', '\x7d'], c ∈ Begins.brackets ∧ c ∈ [')', ',', ']', '\x7d'] ∧
      (Token.punct (String.singleton c)).isPunct "," = false :=
    List.all_iff_forall_prop.1 (by decide)
  obtain ⟨hbracket, hcloser, hcomma⟩ := hclosers close hclose
  exact .expression (h f true hrounds hlimit (closed_cons hcloser rest))
    (Begins.bracket hbracket rest).shows hcomma

theorem length_le_commaText {text : List Char} {texts : List (List Char)} (h : text ∈ texts) :
    text.length ≤ (commaText texts).length := by
  induction texts with
  | nil => cases h
  | cons first texts ih =>
    have hcons := congrArg List.length (commaText_cons first texts [])
    cases texts with
    | nil =>
      cases h with
      | head => rfl
      | tail _ h => cases h
    | cons next texts =>
      simp only [commaText, List.length_append, List.length_cons]
      cases h with
      | head => omega
      | tail _ h =>
        have := ih h
        omega

theorem count_le_commaText {texts : List (List Char)} (h : ∀ text ∈ texts, 0 < text.length) :
    texts.length ≤ (commaText texts).length := by
  induction texts with
  | nil => exact Nat.zero_le _
  | cons first texts ih =>
    obtain ⟨hfirst, htexts⟩ := List.forall_mem_cons.1 h
    cases texts with
    | nil => exact hfirst
    | cons next texts =>
      have := ih htexts
      simp only [commaText, List.length_append, List.length_cons] at this ⊢
      omega

/-- The arguments of a call, up to the closing parenthesis. -/
theorem Leads.items {args : List ChainItem}
    (hargs : ∀ a ∈ args, ChainText a.text a.expr a.optional a.calls)
    (hassigns : ∀ a ∈ args, Assigns a.text a.value) {limit rounds : Nat}
    (hsizes : ∀ a ∈ args, a.text.length ≤ rounds ∧ a.text.length < limit) {n : Nat}
    (hcount : args.length ≤ n + 1) (f : Bool) (rest : List Char) :
    Leads (At f (commaText (args.map (·.text)) ++ ')' :: rest))
      (Reader.separated ")" "," (Reader.spreadOrAssign (readers limit (rounds + 1)) .module) (n + 1))
      (args.map (·.value), false) (At f (')' :: rest)) := by
  have hclose : Begins (')' :: rest) (.punct ")") rest := .bracket (by decide) _
  induction args generalizing n with
  | nil => exact .separated_nil hclose.shows rfl n
  | cons a args ih =>
    obtain ⟨ha, hothers⟩ := List.forall_mem_cons.1 hargs
    obtain ⟨hassign, hassigns⟩ := List.forall_mem_cons.1 hassigns
    obtain ⟨hsize, hsizes⟩ := List.forall_mem_cons.1 hsizes
    have hclosed : ∀ texts, Closed (moreText texts (')' :: rest)) :=
      (closed_cons (by decide) rest).moreText
    obtain ⟨t, after, hbegins, ht⟩ := ha.head.begins (hclosed (args.map (·.text)))
    have hitem : Leads (At f (a.text ++ moreText (args.map (·.text)) (')' :: rest)))
        (Reader.spreadOrAssign (readers limit (rounds + 1)) .module) a.value
        (At f (moreText (args.map (·.text)) (')' :: rest))) :=
      .spreadOrAssign hbegins.shows (Token.isPunct_eq_false ht rfl)
        (hassign f true hsize.1 hsize.2 (hclosed _))
    rw [List.map_cons, commaText_cons]
    cases args with
    | nil =>
      exact .separated_one hbegins.shows (Token.isPunct_eq_false ht rfl) hitem hclose.shows rfl n
    | cons b args =>
      obtain ⟨n, rfl⟩ : ∃ m, n = m + 1 := ⟨n - 1, by simp only [List.length_cons] at hcount; omega⟩
      obtain ⟨u, after, hnext, hu⟩ := (hothers b List.mem_cons_self).head.begins
        (hclosed (args.map (·.text)))
      rw [← commaText_cons] at hnext
      have hcomma : Passes (At f (moreText (b.text :: args.map (·.text)) (')' :: rest))) (.punct ",")
          (At f (commaText (b.text :: args.map (·.text)) ++ ')' :: rest)) :=
        (Begins.bracket (c := ',') (by decide) _).passes.mono fun _ => At.blank
      exact .separated_cons hbegins.shows (Token.isPunct_eq_false ht rfl) hitem hcomma rfl rfl
        hnext.shows (Token.isPunct_eq_false hu rfl)
        (ih hothers hassigns hsizes (by simp only [List.length_cons] at hcount ⊢; omega))

theorem length_argumentText (args : List ChainItem) :
    (argumentText args).length = (commaText (args.map (·.text))).length + 2 := by
  simp [argumentText]

theorem ChainText.length_pos {e : Expr} {optional calls : Bool} (h : ChainText text e optional calls) :
    0 < text.length := by
  induction h with
  | name h _ _ =>
    obtain ⟨c, others, hw, -⟩ := head_of_identifierName h
    simp [hw]
  | number hfinite hpos =>
    obtain ⟨c, digits, hx, -⟩ := head_render hfinite hpos
    simp [hx]
  | _ => simp_all

/-- Arguments with their parentheses. -/
theorem Leads.argumentList {args : List ChainItem}
    (hargs : ∀ a ∈ args, ChainText a.text a.expr a.optional a.calls)
    (hassigns : ∀ a ∈ args, Assigns a.text a.value) {limit rounds : Nat}
    (hrounds : (argumentText args).length ≤ rounds + 1) (hlimit : (argumentText args).length ≤ limit + 1)
    (f : Bool) (rest : List Char) :
    Leads (At f (argumentText args ++ rest))
      (Reader.arguments (readers limit (rounds + 1)) .module) (args.map (·.value)) (At f rest) := by
  rw [length_argumentText] at hrounds hlimit
  have hsizes : ∀ a ∈ args, a.text.length ≤ rounds ∧ a.text.length < limit := by
    intro a ha
    have := length_le_commaText (List.mem_map_of_mem (f := (·.text)) ha)
    omega
  have hcount : args.length ≤ (readers limit (rounds + 1)).limit + 1 := by
    rw [limit_readers]
    have hpos : ∀ text ∈ args.map (·.text), 0 < text.length := by
      intro text htext
      obtain ⟨a, ha, rfl⟩ := List.mem_map.1 htext
      exact (hargs a ha).length_pos
    have := count_le_commaText hpos
    rw [List.length_map] at this
    omega
  have hopen : Begins (argumentText args ++ rest) (.punct "(")
      (commaText (args.map (·.text)) ++ ')' :: rest) := by
    simpa [argumentText] using
      Begins.bracket (c := '(') (by decide) (commaText (args.map (·.text)) ++ ')' :: rest)
  exact .arguments hopen.passes (.items hargs hassigns hsizes hcount f rest)
    (Begins.bracket (c := ')') (by decide) rest).passes

/-! ## Templates -/

section Template

variable {α : Type} {part : Reader α} {e : α} {raw : String} {cooked : Option String} {f : Bool}

/-- The text from the closing brace of a substitution on is a piece of the template. -/
theorem Leads.enterPiece {tail : Bool} {cursor : Cursor} {β : Type} {k : Unit → Reader β} {b : β}
    (hc : At f ('\x7d' :: (raw.toList ++ (pieceEnd tail ++ rest))) cursor)
    (hk : Leads (At f rest) (k ()) b Q) :
    Leads P (set { cursor with rest := rest } >>= fun _ => Reader.advance >>= k) b Q := by
  obtain ⟨-, -, -, hfaulty, hpending⟩ := hc.cursor (.bracket (by decide) _)
  have hset : Leads P (set { cursor with rest := rest }) () (· = { cursor with rest := rest }) :=
    fun _ _ => ⟨_, rfl, rfl⟩
  have hnext : Leads (· = { cursor with rest := rest }) Reader.advance () (At f rest) := by
    rintro _ rfl
    exact ⟨_, rfl, 0, _, hfaulty, hpending, rfl⟩
  exact hset.bind (hnext.bind hk)

theorem Leads.templateParts_last (h : Leads P part e
      (At f ('\x7d' :: (raw.toList ++ (pieceEnd true ++ rest))))) (hpiece : IsPiece raw cooked true)
    (limit : Nat) :
    Leads P (Reader.templateParts part (limit + 1)) ([e], [⟨true, raw, cooked⟩]) (At f rest) := by
  have hbrace : Begins ('\x7d' :: (raw.toList ++ (pieceEnd true ++ rest))) (.punct "\x7d") _ :=
    .bracket (by decide) _
  refine h.bind <| .bind (.atPunct hbrace.shows _) <| .neg rfl <| .get fun cursor hc => ?_
  rw [(hc.cursor hbrace).2.2.1, readTemplate_raw hpiece rest]
  exact .enterPiece hc (.pos rfl .pure)

theorem Leads.templateParts_cons {es : List α} {pieces : List Tree.TemplateElement} {limit : Nat}
    (h : Leads P part e (At f ('\x7d' :: (raw.toList ++ (pieceEnd false ++ rest)))))
    (hpiece : IsPiece raw cooked false)
    (hrest : Leads (At f rest) (Reader.templateParts part limit) (es, pieces) Q) :
    Leads P (Reader.templateParts part (limit + 1)) (e :: es, ⟨false, raw, cooked⟩ :: pieces) Q := by
  have hbrace : Begins ('\x7d' :: (raw.toList ++ (pieceEnd false ++ rest))) (.punct "\x7d") _ :=
    .bracket (by decide) _
  refine h.bind <| .bind (.atPunct hbrace.shows _) <| .neg rfl <| .get fun cursor hc => ?_
  rw [(hc.cursor hbrace).2.2.1, readTemplate_raw hpiece rest]
  exact .enterPiece hc (.neg rfl (hrest.bind .pure))

end Template

theorem length_le_partsText {p : TemplatePart} {parts : List TemplatePart} (h : p ∈ parts) :
    p.item.text.length < (partsText parts).length := by
  induction parts with
  | nil => cases h
  | cons first parts ih =>
    simp only [partsText, List.length_append, List.length_cons]
    cases h with
    | head => omega
    | tail _ h =>
      have := ih h
      omega

theorem count_le_partsText (parts : List TemplatePart) : parts.length ≤ (partsText parts).length := by
  induction parts with
  | nil => exact Nat.zero_le _
  | cons first parts ih =>
    simp only [partsText, List.length_append, List.length_cons]
    omega

/-- The parts behind the first piece of a template. -/
theorem Leads.parts {parts : List TemplatePart} (hne : parts ≠ []) (hpieces : ArePieces parts)
    (hassigns : ∀ p ∈ parts, Assigns p.item.text p.item.value) {limit rounds : Nat}
    (hsizes : ∀ p ∈ parts, p.item.text.length ≤ rounds ∧ p.item.text.length < limit) {n : Nat}
    (hcount : parts.length ≤ n) (f : Bool) (rest : List Char) :
    Leads (At f (partsText parts ++ rest))
      (Reader.templateParts (Reader.expression (readers limit (rounds + 1)) .module) n)
      (parts.map (·.item.value), partPieces parts) (At f rest) := by
  induction parts generalizing n with
  | nil => exact absurd rfl hne
  | cons p parts ih =>
    obtain ⟨n, rfl⟩ : ∃ m, n = m + 1 := ⟨n - 1, by simp only [List.length_cons] at hcount; omega⟩
    obtain ⟨hassign, hassigns⟩ := List.forall_mem_cons.1 hassigns
    obtain ⟨hsize, hsizes⟩ := List.forall_mem_cons.1 hsizes
    obtain ⟨hpiece, hpieces⟩ := hpieces
    have hpart := hassign.expression f hsize.1 hsize.2 '\x7d' (by decide)
      (p.raw.toList ++ (pieceEnd parts.isEmpty ++ (partsText parts ++ rest)))
    simp only [partsText, List.append_assoc, List.cons_append]
    cases parts with
    | nil => exact .templateParts_last hpart hpiece n
    | cons q parts =>
      exact .templateParts_cons hpart hpiece
        (ih nofun hpieces hassigns hsizes (by simp only [List.length_cons] at hcount ⊢; omega))

/-- A template behind its tag. -/
theorem Leads.template {parts : List TemplatePart} {raw : String} {cooked : Option String}
    (hfirst : IsPiece raw cooked parts.isEmpty) (hpieces : ArePieces parts)
    (hassigns : ∀ p ∈ parts, Assigns p.item.text p.item.value) {limit rounds : Nat}
    (hrounds : (partsText parts).length ≤ rounds + 1) (hlimit : (partsText parts).length ≤ limit)
    (f : Bool) (rest : List Char) :
    Leads (At f ('`' :: (raw.toList ++ (pieceEnd parts.isEmpty ++ (partsText parts ++ rest)))))
      (Reader.templateLiteral (readers limit (rounds + 1)) .module)
      (⟨parts.isEmpty, raw, cooked⟩ :: partPieces parts, parts.map (·.item.value)) (At f rest) := by
  have hbegins := Begins.template hfirst (partsText parts ++ rest)
  cases parts with
  | nil => exact .templateLiteral_whole hbegins.passes
  | cons p parts =>
    have hsizes : ∀ q ∈ p :: parts, q.item.text.length ≤ rounds ∧ q.item.text.length < limit := by
      intro q hq
      have := length_le_partsText hq
      omega
    have hcount : (p :: parts).length ≤ (readers limit (rounds + 1)).limit + 1 := by
      rw [limit_readers]
      exact (count_le_partsText _).trans (Nat.le_succ_of_le hlimit)
    have hparts := Leads.parts (List.cons_ne_nil p parts) hpieces hassigns hsizes hcount f rest
    exact .templateLiteral_parts hbegins.passes hparts

/-! ## Chains -/

theorem ChainText.ne_instantiation {e : Expr} {optional calls : Bool}
    (h : ChainText text e optional calls) (inner : Expr) : e ≠ .wrapped .instantiation inner := by
  cases h <;> nofun

theorem ChainText.asChain {e : Expr} {optional calls : Bool} (h : ChainText text e optional calls) :
    (if optional then Reader.asChain e else e) = e.ended optional := by
  cases h with
  | dot => rename_i optional _ mark _ _ _; cases optional <;> cases mark <;> rfl
  | index => rename_i optional _ _ _ mark _ _; cases optional <;> cases mark <;> rfl
  | call => rename_i optional _ mark _ _ _; cases optional <;> cases mark <;> rfl
  | _ => rfl

/-- Outside of generators `yield` is a name where no operand follows. -/
theorem Head.atYield {bare : Bool} (h : Head text bare) (hrest : Closed rest) (f : Bool) :
    Leads (At f (text ++ rest)) (Reader.atYield .module) false (At f (text ++ rest)) := by
  rcases h.split (.inl hrest) hrest.numberEnds with ⟨w, tail, htext, hw, htail⟩ | ⟨t, after, hbegins, -, hname⟩
  · rw [htext]
    have hbegins : Begins (w.toList ++ tail) (.word w false) tail := .word hw.name htail.wordEnds
    obtain ⟨u, after, hu, hfollows⟩ := htail.begins
    have hoperand : Leads (At f (w.toList ++ tail)) (Reader.beforeOperand []) false
        (At f (w.toList ++ tail)) := by
      refine .looksLike (Q := At f tail) (.bind (.advance hbegins.passes) (.get fun cursor hc => ?_))
      obtain ⟨htoken, hline, -⟩ := hc.cursor hu
      rw [hline, htoken]
      refine .neg rfl ?_
      cases u with
      | punct _ => exact .pure
      | template _ _ _ => exact .pure
      | eof => exact .pure
      | _ => cases hfollows
    exact .bind (.atWord hbegins.shows _) <| .ite (fun _ => .neg rfl hoperand) fun _ => .pure
  · refine .bind (.atWord hbegins.shows _) <| .neg ?_ .pure
    cases t with
    | word w escaped =>
      refine beq_eq_false_iff_ne.2 ?_
      rintro rfl
      cases hname "yield" escaped rfl
    | _ => rfl

theorem Closed.endsAssign (h : Closed rest) :
    ∃ t after, Begins rest t after ∧ t.endsAssign = true := by
  cases rest with
  | nil => exact ⟨_, _, .eof, rfl⟩
  | cons c rest =>
    have hclosers : ∀ c ∈ [')', ',', ']', '\x7d'], c ∈ Begins.brackets ∧
        (Token.punct (String.singleton c)).endsAssign = true :=
      List.all_iff_forall_prop.1 (by decide)
    obtain ⟨hbracket, hends⟩ := hclosers c (h c rfl)
    exact ⟨_, _, .bracket hbracket rest, hends⟩

/-- What is read as a chain is read as an expression. -/
theorem ChainText.assigns_of_chains {e : Expr} {optional calls : Bool}
    (h : ChainText text e optional calls) (hchains : Chains text e optional calls) :
    Assigns text (e.ended optional) := by
  intro limit rounds rest f allowReturnType hrounds hlimit hrest
  obtain ⟨t, after, hbegins, ht⟩ := h.head.begins hrest
  obtain ⟨u, after', hu, hends⟩ := hrest.endsAssign
  have hchain := Token.endsChain_of_endsOperand (Token.endsOperand_of_endsAssign hends)
  have hlinks : ∀ i j, 1 ≤ i → 1 ≤ j → Leads (At f rest)
      (links (readers limit rounds) .module true i j (e, optional)) (e, optional) (At f rest) := by
    intro i j _ hj
    obtain ⟨j, rfl⟩ : ∃ n, j = n + 1 := ⟨j - 1, by omega⟩
    exact .links_end hu.shows (Token.endsAccess_of_endsChain hchain) fun _ => hchain
  have hall := hchains hrounds (by omega) (fun _ => rfl) (.inl hrest) (fun _ => hrest.numberEnds)
    hlinks limit (limit + 1) (by omega) (by omega)
  have hcallChain : Leads (At f (text ++ rest)) (Reader.callChain (readers limit rounds) .module)
      (e.ended optional) (At f rest) := by
    rw [← h.asChain]
    have hsteps : Reader.callChain (readers limit rounds) .module =
        (Reader.primary (readers limit rounds) .module >>= fun e =>
          links (readers limit rounds) .module true limit (limit + 1) (e, false)) >>= fun link =>
            if link.2 then pure (Reader.asChain link.1) else pure link.1 := by
      simp only [bind_assoc, Reader.callChain, callSteps_eq_links, limit_readers]
    rw [hsteps]
    refine hall.bind ?_
    cases optional <;> exact .pure
  exact .assignExpression hbegins.shows ht (h.head.atYield hrest f)
    (h.head.arrow?_none hrest limit rounds .module allowReturnType f) hcallChain hu.shows hends

namespace Chains

variable {e e' : Expr} {optional optional' calls calls' : Bool}

/-- A primary expression is a chain. -/
theorem primary (h : ∀ ⦃limit rounds : Nat⦄ ⦃rest : List Char⦄ (f : Bool), text.length ≤ rounds →
      text.length ≤ limit + 1 → Follows rest → (text.all isAsciiDigit = true → NumberEnds rest) →
      Leads (At f (text ++ rest)) (Reader.primary (readers limit rounds) .module) e (At f rest)) :
    Chains text e false false := by
  intro limit rounds k all rest f b Q hrounds hlimit _ hrest hwhole hlinks i j hi hj
  exact (h f hrounds (by omega) hrest hwhole).bind (hlinks i j (by omega) (by omega))

/-- A chain with a link behind it. -/
theorem append (h : Chains text e optional calls) {link : List Char} (hlink : IsLink link)
    (hdigits : text.all isAsciiDigit = true → link.head? ≠ some '.')
    (hcalls : calls = true → calls' = true)
    (hstep : ∀ ⦃limit rounds k i j : Nat⦄ ⦃all : Bool⦄ ⦃rest : List Char⦄ ⦃f : Bool⦄ ⦃b : Reader.Link⦄
      ⦃Q : Cursor → Prop⦄, link.length ≤ rounds → k + link.length ≤ limit + 1 →
      (calls' = true → all = true) → Follows rest →
      (∀ i j, k ≤ i → k ≤ j →
        Leads (At f rest) (links (readers limit rounds) .module all i j (e', optional')) b Q) →
      k + 1 ≤ i → k + 1 ≤ j →
      Leads (At f (link ++ rest)) (links (readers limit rounds) .module all i j (e, optional)) b Q) :
    Chains (text ++ link) e' optional' calls' := by
  intro limit rounds k all rest f b Q hrounds hlimit hall hrest _ hlinks i j hi hj
  have hpos : 0 < link.length := by
    cases link with
    | nil =>
      obtain ⟨c, hc, -⟩ := (hlink []).head
      cases hc
    | cons c link => exact Nat.succ_pos _
  rw [List.length_append] at hrounds hlimit hi hj
  rw [List.append_assoc]
  refine h (k := k + 1) (by omega) (by omega) (hall ∘ hcalls) (hlink.follows rest) (fun hdigit => ?_)
    (fun i j hi hj => hstep (by omega) (by omega) hall hrest hlinks hi hj) i j (by omega) (by omega)
  refine (hlink.follows rest).numberEnds ?_
  cases link with
  | nil => cases hpos
  | cons c link => exact hdigits hdigit

theorem parens (h : Assigns text e) : Chains ('(' :: (text ++ [')'])) (.wrapped .parens e) false false := by
  refine .primary fun limit rounds rest f hrounds hlimit hrest _ => ?_
  simp only [List.length_cons, List.length_append, List.length_nil] at hrounds hlimit
  obtain ⟨rounds, rfl⟩ : ∃ n, rounds = n + 1 := ⟨rounds - 1, by omega⟩
  have hopen : Begins ('(' :: (text ++ [')']) ++ rest) (.punct "(") (text ++ ')' :: rest) := by
    simpa using Begins.bracket (c := '(') (by decide) (text ++ ')' :: rest)
  exact .primary_parens hopen.passes (h.expression f (by omega) (by omega) ')' (by decide) rest)
    (Begins.bracket (c := ')') (by decide) rest).passes

theorem importCall (h : Assigns text e) :
    Chains ("import".toList ++ '(' :: (text ++ [')'])) (.importCall e) false false := by
  refine .primary fun limit rounds rest f hrounds hlimit hrest _ => ?_
  simp only [List.length_append, List.length_cons, List.length_nil] at hrounds hlimit
  obtain ⟨rounds, rfl⟩ : ∃ n, rounds = n + 1 := ⟨rounds - 1, by omega⟩
  have hword : Begins ("import".toList ++ '(' :: (text ++ [')']) ++ rest) (.word "import" false)
      ('(' :: (text ++ ')' :: rest)) := by
    have hends : WordEnds ('(' :: (text ++ ')' :: rest)) :=
      Follows.wordEnds (.inr (continues_bracket (by decide) false _))
    simpa using Begins.keyword "import" (by decide) hends
  exact .primary_import hword.passes (Begins.bracket (c := '(') (by decide) _).passes
    (h f true (by omega) (by omega) (closed_cons (by decide) rest))
    (Begins.bracket (c := ')') (by decide) rest).passes

/-- The links of the callee of a `new` end in front of the arguments. -/
theorem access (h : Chains text e optional false) {limit rounds : Nat} (hrounds : text.length ≤ rounds)
    (hlimit : text.length ≤ limit) (f : Bool) (rest : List Char) :
    Leads (At f (text ++ '(' :: rest)) ((readers limit (rounds + 1)).access .module) (e, optional)
      (At f ('(' :: rest)) := by
  have hopen : Begins ('(' :: rest) (.punct "(") rest := .bracket (by decide) _
  have hfollows : Follows ('(' :: rest) := .inr (continues_bracket (by decide) false _)
  have hlinks : ∀ i j, 1 ≤ i → 1 ≤ j → Leads (At f ('(' :: rest))
      (links (readers limit rounds) .module false i j (e, optional)) (e, optional)
      (At f ('(' :: rest)) := by
    intro i j _ hj
    obtain ⟨j, rfl⟩ : ∃ n, j = n + 1 := ⟨j - 1, by omega⟩
    exact .links_end hopen.shows rfl nofun
  have hall := h hrounds (by omega) nofun hfollows (fun _ => hfollows.numberEnds nofun) hlinks
    (limit + 1) (limit + 1) (by omega) (by omega)
  change Leads _ (Reader.accessChain (readers limit rounds) .module) _ _
  unfold Reader.accessChain
  simp only [limit_readers, accessSteps_eq_links _ _ (limit + 1)]
  exact hall

theorem new (hchain : ChainText text e false false) (h : Chains text e false false)
    (himport : Reader.isImportCall e = false) {args : List ChainItem}
    (hargs : ∀ a ∈ args, ChainText a.text a.expr a.optional a.calls)
    (hassigns : ∀ a ∈ args, Assigns a.text a.value) :
    Chains ("new".toList ++ ' ' :: (text ++ argumentText args)) (.new e (args.map (·.value)))
      false false := by
  refine .primary fun limit rounds rest f hrounds hlimit hrest _ => ?_
  simp only [List.length_append, List.length_cons] at hrounds hlimit
  obtain ⟨rounds, rfl⟩ : ∃ n, rounds = n + 1 := ⟨rounds - 1, by omega⟩
  have hends : WordEnds (' ' :: (text ++ (argumentText args ++ rest))) := by
    rintro c ⟨⟩
    decide
  have hword : Begins ("new".toList ++ ' ' :: (text ++ argumentText args) ++ rest) (.word "new" false)
      (' ' :: (text ++ (argumentText args ++ rest))) := by
    simpa using Begins.keyword "new" (by decide) hends
  have hcall : Follows (argumentText args ++ rest) := .inr (continues_bracket (by decide) false _)
  have hopen : Begins (argumentText args ++ rest) (.punct "(") _ := .bracket (by decide) _
  obtain ⟨t, after, ht, hstarts⟩ := hchain.head.opens hcall (hcall.numberEnds nofun)
  exact .primary_new (hword.passes.mono fun _ => At.blank) ht.shows (Token.isPunct_eq_false hstarts rfl)
    (h.access (by omega) (by omega) f _) hopen.shows himport hchain.ne_instantiation
    (.argumentList hargs hassigns (by omega) (by omega) f rest)

theorem dot (h : Chains text e optional calls) {name : List Char} {p : Expr} (hp : PropertyText name p)
    {mark : Bool} (hdigits : mark = false → text.all isAsciiDigit = false) :
    Chains (text ++ (dotText mark ++ name)) (.member e p false mark) (optional || mark) calls := by
  have hlink : IsLink (dotText mark ++ name) := fun rest => (joins_dot hp mark rest).continues
  refine h.append hlink (fun hall => ?_) id
    fun limit rounds k i j all rest f b Q hrounds hlimit hcalls hrest hlinks hi hj => ?_
  · cases mark with
    | false => cases (hdigits rfl).symm.trans hall
    | true => nofun
  · obtain ⟨j, rfl⟩ : ∃ n, j = n + 1 := ⟨j - 1, by omega⟩
    have hrest' := hlinks i j (by omega) (by omega)
    obtain ⟨t, hname, hproperty⟩ : ∃ t, Begins (name ++ rest) t rest ∧ t.property? = some p := by
      cases hp with
      | name h => exact ⟨_, .word h hrest.wordEnds, rfl⟩
      | privateName h => exact ⟨_, .privateName h hrest.wordEnds, rfl⟩
    have hhead := head_property hp rest
    rw [List.append_assoc]
    cases mark with
    | false =>
      rw [Bool.or_false] at hrest'
      exact .links_access (.accessStep_dot (Begins.dot _ hhead).passes hname.passes hproperty e optional)
        hrest'
    | true =>
      rw [Bool.or_true] at hrest'
      exact .links_access (.accessStep_optionalDot
        (Begins.optionalDot _ fun c hc => (hhead c hc).1).passes hname.passes hproperty e optional) hrest'

theorem index (h : Chains text e optional calls) {keyText : List Char} {key : Expr}
    (hkey : Assigns keyText key) (mark : Bool) :
    Chains (text ++ (optionalMark mark ++ '[' :: (keyText ++ [']']))) (.member e key true mark)
      (optional || mark) calls := by
  refine h.append (isLink_bracket (by decide) mark _) (fun _ => by cases mark <;> nofun) id
    fun limit rounds k i j all rest f b Q hrounds hlimit hcalls hrest hlinks hi hj => ?_
  simp only [List.length_append, List.length_cons, List.length_nil] at hrounds hlimit
  obtain ⟨rounds, rfl⟩ : ∃ n, rounds = n + 1 := ⟨rounds - 1, by omega⟩
  obtain ⟨j, rfl⟩ : ∃ n, j = n + 1 := ⟨j - 1, by omega⟩
  have hrest' := hlinks i j (by omega) (by omega)
  have hopen : Begins ('[' :: (keyText ++ ']' :: rest)) (.punct "[") (keyText ++ ']' :: rest) :=
    .bracket (by decide) _
  have hclose : Begins (']' :: rest) (.punct "]") rest := .bracket (by decide) _
  have hexpression : Leads (At f (keyText ++ ']' :: rest))
      (Reader.expression (readers limit (rounds + 1)) .module) key (At f (']' :: rest)) :=
    hkey.expression f (by omega) (by omega) ']' (by decide) rest
  cases mark with
  | false =>
    rw [Bool.or_false] at hrest'
    have hstep := Leads.accessStep_index (c := .module) rfl (hopen.passes (f := f)) hexpression hclose.passes e optional
    simpa [optionalMark] using hstep.links_access hrest'
  | true =>
    rw [Bool.or_true] at hrest'
    have hmark : Begins ('?' :: '.' :: '[' :: (keyText ++ ']' :: rest)) (.punct "?.") _ :=
      .optionalDot _ (by rintro c ⟨⟩; decide)
    have hstep := Leads.accessStep_optionalIndex (c := .module) rfl (hmark.passes (f := f)) hopen.passes hexpression
      hclose.passes e optional
    simpa [optionalMark] using hstep.links_access hrest'

theorem call (hchain : ChainText text e optional calls) (h : Chains text e optional calls) (mark : Bool)
    {args : List ChainItem} (hargs : ∀ a ∈ args, ChainText a.text a.expr a.optional a.calls)
    (hassigns : ∀ a ∈ args, Assigns a.text a.value) :
    Chains (text ++ (optionalMark mark ++ argumentText args)) (.call e (args.map (·.value)) mark)
      (optional || mark) true := by
  refine h.append (isLink_bracket (by decide) mark _) (fun _ => by cases mark <;> nofun) (fun _ => rfl)
    fun limit rounds k i j all rest f b Q hrounds hlimit hcalls hrest hlinks hi hj => ?_
  obtain rfl := hcalls rfl
  rw [List.length_append] at hrounds hlimit
  have hlength := length_argumentText args
  obtain ⟨rounds, rfl⟩ : ∃ n, rounds = n + 1 := ⟨rounds - 1, by omega⟩
  obtain ⟨i, rfl⟩ : ∃ n, i = n + 1 := ⟨i - 1, by omega⟩
  obtain ⟨j, rfl⟩ : ∃ n, j = n + 1 := ⟨j - 1, by omega⟩
  have hrest' := hlinks i ((readers limit (rounds + 1)).limit + 1) (by omega)
    (by rw [limit_readers]; omega)
  have harguments : Leads (At f (argumentText args ++ rest))
      (Reader.arguments (readers limit (rounds + 1)) .module) (args.map (·.value)) (At f rest) :=
    .argumentList hargs hassigns (by omega) (by omega) f rest
  have hopen : Begins (argumentText args ++ rest) (.punct "(") _ := .bracket (by decide) _
  rw [List.append_assoc]
  cases mark with
  | false =>
    rw [Bool.or_false] at hrest'
    exact .links_call hopen.shows hchain.ne_instantiation harguments hrest'
  | true =>
    rw [Bool.or_true] at hrest'
    have hmark : Begins (optionalMark true ++ (argumentText args ++ rest)) (.punct "?.")
        (argumentText args ++ rest) := .optionalDot _ (by rintro c ⟨⟩; decide)
    exact .links_optionalCall hmark.passes hopen.shows hchain.ne_instantiation harguments hrest'

theorem tagged (hchain : ChainText text e false calls) (h : Chains text e false calls) {raw : String}
    {cooked : Option String} {parts : List TemplatePart} (hfirst : IsPiece raw cooked parts.isEmpty)
    (hpieces : ArePieces parts) (hassigns : ∀ p ∈ parts, Assigns p.item.text p.item.value) :
    Chains (text ++ '`' :: (raw.toList ++ (pieceEnd parts.isEmpty ++ partsText parts)))
      (.tagged e (⟨parts.isEmpty, raw, cooked⟩ :: partPieces parts) (parts.map (·.item.value)))
      false calls := by
  have hlink : IsLink ('`' :: (raw.toList ++ (pieceEnd parts.isEmpty ++ partsText parts))) := by
    intro rest
    simpa using (joins_template hfirst (partsText parts ++ rest)).continues
  refine h.append hlink (fun _ => nofun) id
    fun limit rounds k i j all rest f b Q hrounds hlimit hcalls hrest hlinks hi hj => ?_
  simp only [List.length_cons, List.length_append] at hrounds hlimit
  obtain ⟨rounds, rfl⟩ : ∃ n, rounds = n + 1 := ⟨rounds - 1, by omega⟩
  obtain ⟨j, rfl⟩ : ∃ n, j = n + 1 := ⟨j - 1, by omega⟩
  have htemplate : Leads (At f ('`' :: (raw.toList ++ (pieceEnd parts.isEmpty ++ (partsText parts ++ rest)))))
      (Reader.templateLiteral (readers limit (rounds + 1)) .module)
      (⟨parts.isEmpty, raw, cooked⟩ :: partPieces parts, parts.map (·.item.value)) (At f rest) :=
    .template hfirst hpieces hassigns (by omega) (by omega) f rest
  have hstep := Leads.accessStep_template
    (Begins.template hfirst (partsText parts ++ rest)).shows hchain.ne_instantiation htemplate
  simpa using hstep.links_access (hlinks i j (by omega) (by omega))

end Chains

/-- The links of a chain, for every way in which it may go on. -/
theorem ChainText.chains {e : Expr} {optional calls : Bool} (h : ChainText text e optional calls) :
    Chains text e optional calls := by
  induction h with
  | @name w h hw hawait =>
    have hkeyword : Context.module.takesAsKeyword w = false := by
      simp [Context.takesAsKeyword, Context.module, hawait]
    refine .primary fun limit rounds rest f _ _ hrest _ => ?_
    obtain ⟨t, after, ht, hfollows⟩ := hrest.begins
    refine .primary_name (Begins.word h hrest.wordEnds).passes ht.shows ?_ hw hkeyword
    cases t with
    | word w escaped => exact absurd rfl (Token.ne_word_of_followsChain hfollows w escaped)
    | _ => rfl
  | this =>
    exact .primary fun limit rounds rest f _ _ hrest _ => .primary_this
      (Begins.keyword "this" (by decide) hrest.wordEnds).passes
  | number hfinite hpos =>
    exact .primary fun limit rounds rest f _ _ hrest hwhole => .primary_number
      (Begins.number hfinite hpos _ hrest.fractionEnds hwhole).passes
  | parens h _ ih => exact .parens (h.assigns_of_chains ih)
  | new h himport hargs ih ihs =>
    exact .new h ih himport hargs fun a ha => (hargs a ha).assigns_of_chains (ihs a ha)
  | importCall h ih => exact .importCall (h.assigns_of_chains ih)
  | dot _ hp hdigits ih => exact ih.dot hp hdigits
  | index _ hkey ih ihkey => exact ih.index (hkey.assigns_of_chains ihkey) _
  | call h hargs ih ihs =>
    exact ih.call h _ hargs fun a ha => (hargs a ha).assigns_of_chains (ihs a ha)
  | tagged h hfirst hpieces hparts ih ihs =>
    exact ih.tagged h hfirst hpieces fun p hp => (hparts p hp).assigns_of_chains (ihs p hp)

/-- A chain in front of what closes it is read as an expression. -/
theorem ChainText.assigns {e : Expr} {optional calls : Bool} (h : ChainText text e optional calls) :
    Assigns text (e.ended optional) :=
  h.assigns_of_chains h.chains

/-! ## Whole texts -/

theorem behind_land (place : GapPlace) (text : List Char) (c : Cursor) :
    (Cursor.land place text c).behind = text := by
  rw [Cursor.land]
  split
  · split <;> rfl
  · rfl

/-- Nothing but blanks stands behind the end of a text. -/
theorem At.trim_behind {f : Bool} {c : Cursor} (h : At f [] c) : trim c.behind = [] := by
  obtain ⟨k, from_, -, -, rfl⟩ := h
  have hblank : isBlank ' ' = true := by decide
  rw [behind_land, List.append_nil, trim, trimStart, List.dropWhile_replicate, if_pos hblank]
  rfl

/-- The tree of a chain that is the whole text. -/
theorem ChainText.parses {e : Expr} {optional calls : Bool} (h : ChainText text e optional calls)
    {tree : Tree.Expr} (hlower : (e.ended optional).lower = .ok tree) :
    parseExpression text = .ok tree := by
  have hstart : At false (text ++ []) (Cursor.start .blank text) :=
    ⟨0, _, rfl, rfl, by rw [List.append_nil]; rfl⟩
  have hreads : Leads (At false (text ++ [])) (Reader.expression (readersFor text) .module)
      (e.ended optional) (At false []) :=
    .expression (h.assigns false true (Nat.le_add_right _ 3) (Nat.lt_succ_self _) closed_nil)
      Begins.eof.shows rfl
  obtain ⟨c, hread, hend⟩ := hreads _ hstart
  obtain ⟨-, -, -, hfaulty, hpending⟩ := hend.cursor .eof
  have haccepted : accepted .blank text (Reader.expression (readersFor text) .module) =
      some (e.ended optional, c.behind) := by
    simp [accepted, hread, hfaulty, hpending]
  simp only [parseExpression, haccepted, hend.trim_behind, List.isEmpty_nil, if_true, hlower]
  rfl

end CustomElement.Script
