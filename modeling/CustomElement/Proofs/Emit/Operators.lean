import CustomElement.Proofs.Emit.Spelling

/-!
# Operands in their places

An expression that binds at least as tightly as its place asks for is derived from the nonterminal of
that place (`within_goalAt`), and one that does not is put between parentheses, between which any
expression may stand (`Spelled.place`). What this comes to for each form of expression is a lemma of
its own: if the operands are printed as lexemes that derive them, so is the whole (`Prints`).
-/

namespace CustomElement.Emit

open CustomElement.Text CustomElement.Tree CustomElement.Grammar

/-- A name that can be referred to. -/
structure IsName (name : String) : Prop where
  identifier : isIdentifierName name.toList = true
  reference : isReference name = true

/-! ## Precedences and nonterminals -/

/-- The nonterminal of the text of an expression without parentheses. -/
def ownGoal : Expr → Goal
  | .sequence _ => .expression
  | .assign .. => .assignment
  | .conditional .. => .conditional
  | .logical op _ _ => ((Connective.logical op).level.map Goal.level).getD .exponent
  | .binary op _ _ => ((Connective.binary op).level.map Goal.level).getD .exponent
  | .unary .. | .await _ => .unary
  | .update .. => .update
  | .member .. => .leftHandSide
  | _ => .primary

/-- The nonterminal of a place that asks for a precedence. -/
def goalAt : Nat → Goal
  | 0 | 1 => .expression
  | 2 => .assignment
  | 3 => .conditional
  | 4 => .shortCircuit
  | 5 => .level .logicalAnd
  | 6 => .level .bitOr
  | 7 => .level .bitXor
  | 8 => .level .bitAnd
  | 9 => .level .equality
  | 10 => .level .relational
  | 11 => .level .shift
  | 12 => .level .additive
  | 13 => .level .multiplicative
  | 14 => .exponent
  | 15 => .unary
  | 16 => .update
  | 17 | 18 => .leftHandSide
  | _ => .primary

/-- The precedence of what a nonterminal derives. -/
def goalPrecedence : Goal → Nat
  | .expression => 1
  | .assignment => 2
  | .conditional => 3
  | .shortCircuit | .level .coalesce | .level .logicalOr => 4
  | .level .logicalAnd => 5
  | .level .bitOr => 6
  | .level .bitXor => 7
  | .level .bitAnd => 8
  | .level .equality => 9
  | .level .relational => 10
  | .level .shift => 11
  | .level .additive => 12
  | .level .multiplicative => 13
  | .exponent => 14
  | .unary => 15
  | .update => 16
  | .leftHandSide => 18
  | .primary => 19

theorem within_primary (g : Goal) : Within .primary g := by
  cases g with
  | level l => cases l <;> decide
  | _ => decide

theorem precedence_le (e : Expr) : precedence e ≤ goalPrecedence (ownGoal e) := by
  cases e with
  | logical op => cases op <;> exact Nat.le_of_ble_eq_true rfl
  | binary op => cases op <;> exact Nat.le_of_ble_eq_true rfl
  | update op before => cases before <;> exact Nat.le_of_ble_eq_true rfl
  | literal l =>
    obtain ⟨value, regex, bigint⟩ := l
    cases value with
    | number x =>
      change (if x.negative then Precedence.unary else Precedence.primary) ≤ 19
      split <;> decide
    | _ => exact Nat.le_of_ble_eq_true rfl
  | _ => exact Nat.le_of_ble_eq_true rfl

theorem within_goalAt_of_le {g : Goal} {least : Nat} (h : least ≤ goalPrecedence g) :
    Within g (goalAt least) := by
  have hlt : least < 20 := by
    refine Nat.lt_of_le_of_lt h ?_
    cases g with
    | level l => cases l <;> decide
    | _ => decide
  have hall : ∀ least < 20, least ≤ goalPrecedence g → Within g (goalAt least) := by
    cases g with
    | level l => cases l <;> decide +kernel
    | _ => decide +kernel
  exact hall least hlt h

theorem within_expression (g : Goal) : Within g .expression :=
  within_goalAt_of_le (Nat.zero_le _)

/-- An expression that binds tightly enough is derived from the nonterminal of its place. -/
theorem within_goalAt {e : Expr} {least : Nat} (h : least ≤ precedence e) :
    Within (ownGoal e) (goalAt least) :=
  within_goalAt_of_le (Nat.le_trans h (precedence_le e))

/-! ## Expressions in their places -/

/-- The document of an expression without parentheses, and its lexemes. An `in` comparison is derived
only where `in` is an operator. -/
structure Spelled (o : Options) (noIn : Bool) (e : Expr) (d : Doc) (ts : List Lexeme) : Prop where
  opens : Opens d
  written : Written Closes o d ts
  derives : ∀ allowIn, (noIn = false ∨ isIn e = true → allowIn = true) →
    Derives (ownGoal e) allowIn ts e

/-- The document of an expression in a place, and its lexemes. -/
structure Placed (o : Options) (noIn : Bool) (g : Goal) (e : Expr) (d : Doc) (ts : List Lexeme) :
    Prop where
  opens : Opens d
  written : Written Closes o d ts
  derives : ∀ allowIn, (noIn = false → allowIn = true) → Derives g allowIn ts e

/-- An expression fits its place, with parentheses if it does not bind tightly enough. -/
theorem Spelled.place {o : Options} {noIn : Bool} {e : Expr} {d : Doc} {ts : List Lexeme}
    (h : Spelled o noIn e d ts) {least : Nat} {g : Goal}
    (hfits : least ≤ precedence e → Within (ownGoal e) g) :
    ∃ us, Placed o noIn g e (enclose noIn least e d) us := by
  unfold enclose
  split
  · have hinner := (h.derives true fun _ => rfl).within (within_expression _)
    exact ⟨_, opens_word rfl (by decide), h.written.parens Closes,
      fun allowIn _ => (Derives.parenthesized hinner).within (within_primary g)⟩
  · rename_i hopen
    simp only [Bool.or_eq_true, Bool.and_eq_true, decide_eq_true_eq, not_or, not_and,
      Nat.not_lt] at hopen
    obtain ⟨hin, hleast⟩ := hopen
    refine ⟨ts, h.opens, h.written, fun allowIn hallow => ?_⟩
    refine (h.derives allowIn fun hcase => hallow ?_).within (hfits hleast)
    rcases hcase with hnoIn | hisIn
    · exact hnoIn
    · exact Bool.eq_false_iff.2 fun hnoIn => hin hnoIn hisIn

theorem Spelled.placeAt {o : Options} {noIn : Bool} {e : Expr} {d : Doc} {ts : List Lexeme}
    (h : Spelled o noIn e d ts) (least : Nat) :
    ∃ us, Placed o noIn (goalAt least) e (enclose noIn least e d) us :=
  h.place within_goalAt

/-! ## One lemma for each form -/

section Forms

variable {o : Options} {level : Nat} {noIn : Bool}

/-- An expression is printed, without parentheses, as lexemes that derive it. -/
def Prints (o : Options) (level : Nat) (noIn : Bool) (e : Expr) : Prop :=
  ∃ d ts, exprDoc level noIn e = .ok d ∧ Spelled o noIn e d ts

/-! The documents of the forms are read off the printer. -/

theorem exprDoc_unary (op : UnaryOp) (before : Bool) (e : Expr) :
    exprDoc level noIn (.unary op before e) = (do
      let d ← exprDoc level noIn e
      pure (word op.symbol ++ operandDoc op (enclose noIn Precedence.unary e d))) :=
  rfl

theorem exprDoc_await (e : Expr) :
    exprDoc level noIn (.await e) = (do
      let d ← exprDoc level noIn e
      pure (word "await " ++ enclose noIn Precedence.unary e d)) :=
  rfl

theorem exprDoc_binary (op : BinaryOp) (l r : Expr) :
    exprDoc level noIn (.binary op l r) = (do
      let dl ← exprDoc level noIn l
      let dr ← exprDoc level noIn r
      pure (enclose noIn (operandPrecedences op).1 l dl ++ word " " ++ word op.symbol ++ word " " ++
        enclose noIn (operandPrecedences op).2 r dr)) :=
  rfl

theorem exprDoc_logical (op : LogicalOp) (l r : Expr) :
    exprDoc level noIn (.logical op l r) = (do
      let dl ← exprDoc level noIn l
      let dr ← exprDoc level noIn r
      pure (enclose noIn (logicalOperandPrecedences op l r).1 l dl ++ word " " ++ word op.symbol ++
        word " " ++ enclose noIn (logicalOperandPrecedences op l r).2 r dr)) :=
  rfl

theorem exprDoc_conditional (t c a : Expr) :
    exprDoc level noIn (.conditional t c a) = (do
      let dt ← exprDoc level noIn t
      let dc ← exprDoc level noIn c
      let da ← exprDoc level noIn a
      pure (enclose noIn Precedence.coalesce t dt ++ word " ? " ++
        enclose noIn Precedence.assignment c dc ++ word " : " ++
        enclose noIn Precedence.assignment a da)) :=
  rfl

theorem exprDoc_assign (op : AssignOp) (name : String) (e : Expr) :
    exprDoc level noIn (.assign op (.identifier name) e) = (do
      let d ← exprDoc level noIn e
      pure (word name ++ word " " ++ word op.symbol ++ word " " ++
        enclose noIn Precedence.assignment e d)) :=
  rfl

theorem exprDoc_sequence (es : List Expr) :
    exprDoc level noIn (.sequence es) = (do
      let ds ← exprDocs level noIn es
      pure (commaSeparated ds)) :=
  rfl

theorem exprDocs_cons (e : Expr) (es : List Expr) :
    exprDocs level noIn (e :: es) = (do
      let d ← exprDoc level noIn e
      let ds ← exprDocs level noIn es
      pure (enclose noIn Precedence.assignment e d :: ds)) :=
  rfl

theorem prints_atom {e : Expr} {d : Doc} {t : Lexeme} (hd : exprDoc level noIn e = .ok d)
    (hopens : Opens d) (hwritten : Written Closes o d [t]) (hown : ownGoal e = .primary)
    (hatom : atom? t.token = some e) : Prints o level noIn e := by
  refine ⟨d, [t], hd, hopens, hwritten, fun allowIn _ => ?_⟩
  rw [hown]
  exact .atom hatom

theorem opens_name {name : String} (h : isIdentifierName name.toList = true) : Opens (word name) := by
  cases hname : name.toList with
  | nil =>
    rw [hname] at h
    cases h
  | cons c cs =>
    refine opens_word hname ?_
    rintro rfl
    rw [hname] at h
    cases h

theorem atom?_name {name : String} (h : isReference name = true) :
    atom? (.word name false) = some (.identifier name) := by
  change (if isReference name then some (Expr.identifier name) else _) = _
  rw [if_pos h]

theorem prints_name {name : String} (h : IsName name) : Prints o level noIn (.identifier name) :=
  prints_atom rfl (opens_name h.identifier)
    ((written_name h.identifier).mono fun _ => Closes.wordEnds) rfl (atom?_name h.reference)

theorem prints_keyword {e : Expr} (name : String) (hname : isIdentifierName name.toList = true)
    (hd : exprDoc level noIn e = .ok (word name)) (hown : ownGoal e = .primary)
    (hatom : atom? (.word name false) = some e) : Prints o level noIn e :=
  prints_atom hd (opens_name hname) ((written_name hname).mono fun _ => Closes.wordEnds) hown hatom

theorem prints_string (value : String) :
    Prints o level noIn (.literal { value := .string value }) :=
  prints_atom (d := [.string value]) rfl trivial (written_string o value) rfl rfl

theorem prints_number {x : Double} (hfinite : x.isFinite = true) (hpos : x.negative = false) :
    Prints o level noIn (.literal { value := .number x }) := by
  refine prints_atom rfl ?_ (written_number hfinite hpos o) rfl rfl
  obtain ⟨c, cs, hrender, hc⟩ := Script.head_render hfinite hpos
  refine opens_word hrender ?_
  rintro rfl
  cases hc

theorem prints_bigint (n : Nat) :
    Prints o level noIn (.literal { value := .null, bigint := some (toString n) }) := by
  refine prints_atom rfl (Opens.append ?_ _) (written_bigint n o) rfl rfl
  cases hdigits : (toString n).toList with
  | nil =>
    rw [Script.toList_toString] at hdigits
    exact absurd hdigits Nat.toDigits_ne_nil
  | cons c cs =>
    refine opens_word hdigits ?_
    rintro rfl
    have hmem : '=' ∈ Nat.toDigits 10 n := by
      rw [← Script.toList_toString, hdigits]
      exact List.mem_cons_self
    cases Double.isAsciiDigit_of_mem_toDigits hmem

theorem Prints.unary {e : Expr} (h : Prints o level noIn e) (op : UnaryOp) :
    Prints o level noIn (.unary op true e) := by
  obtain ⟨d, ts, hd, hspelled⟩ := h
  obtain ⟨us, hplaced⟩ := hspelled.placeAt Precedence.unary
  refine ⟨_, _, by rw [exprDoc_unary, hd]; rfl, Opens.append ?_ _,
    hplaced.written.unary hplaced.opens op, fun allowIn hallow => ?_⟩
  · cases op <;> exact opens_word rfl (by decide)
  · exact .unary op (hplaced.derives allowIn fun h => hallow (.inl h))

theorem Prints.await {e : Expr} (h : Prints o level noIn e) : Prints o level noIn (.await e) := by
  obtain ⟨d, ts, hd, hspelled⟩ := h
  obtain ⟨us, hplaced⟩ := hspelled.placeAt Precedence.unary
  have hwritten : Written Closes o (word "await " ++ enclose noIn Precedence.unary e d)
      (⟨.word "await" false, false⟩ :: us) := by
    intro rest vs hrest hvs
    have hall := @lexes_operator "await" (by decide) _ _ (hplaced.written rest vs hrest hvs)
    rw [show operatorToken "await" = .word "await" false from rfl] at hall
    simpa using hall
  exact ⟨_, _, by rw [exprDoc_await, hd]; rfl, Opens.append (opens_word rfl (by decide)) _, hwritten,
    fun allowIn hallow => .await (hplaced.derives allowIn fun h => hallow (.inl h))⟩

theorem binary_places {op : BinaryOp} (hop : op ≠ .power) :
    ∃ l, (Connective.binary op).level = some l ∧ goalAt (operandPrecedences op).1 = .level l ∧
      goalAt (operandPrecedences op).2 = l.operand := by
  cases op with
  | power => exact absurd rfl hop
  | _ => exact ⟨_, rfl, rfl, rfl⟩

theorem Prints.binary {l r : Expr} (hl : Prints o level noIn l) (hr : Prints o level noIn r)
    (op : BinaryOp) : Prints o level noIn (.binary op l r) := by
  obtain ⟨dl, tl, hdl, hsl⟩ := hl
  obtain ⟨dr, tr, hdr, hsr⟩ := hr
  obtain ⟨ls, hpl⟩ := hsl.placeAt (operandPrecedences op).1
  obtain ⟨rs, hpr⟩ := hsr.placeAt (operandPrecedences op).2
  have hsymbol : IsSymbol op.symbol := by cases op <;> decide
  refine ⟨_, _, by rw [exprDoc_binary, hdl, hdr]; rfl, ?_, hpl.written.between hsymbol hpr.written,
    fun allowIn hallow => ?_⟩
  · simp only [List.append_assoc]
    exact hpl.opens.append _
  · have hl := hpl.derives allowIn fun h => hallow (.inl h)
    have hr := hpr.derives allowIn fun h => hallow (.inl h)
    by_cases hop : op = .power
    · subst hop
      exact .power hl hr
    · obtain ⟨level, hlevel, hgoal, hoperand⟩ := binary_places hop
      rw [hgoal] at hl
      rw [hoperand] at hr
      have hown : ownGoal (.binary op l r) = .level level := by rw [ownGoal, hlevel]; rfl
      rw [hown]
      refine .connect (.binary op) hlevel ?_ hl hr
      rintro ⟨⟩
      exact hallow (.inr rfl)

/-- The level of a logical operator. -/
def logicalLevel : LogicalOp → Level
  | .coalesce => .coalesce
  | .or => .logicalOr
  | .and => .logicalAnd

/-- Expressions other than logical ones that bind as tightly as these bind more tightly. -/
theorem tight_of_not_logical {e : Expr} (hne : ∀ op l r, e ≠ .logical op l r)
    (h : Precedence.logicalOr ≤ precedence e) : Precedence.bitOr ≤ goalPrecedence (ownGoal e) := by
  cases e with
  | logical op l r => exact absurd rfl (hne op l r)
  | sequence | assign | conditional =>
    exact absurd h (Nat.not_le_of_lt (Nat.le_of_ble_eq_true rfl))
  | binary op => cases op <;> exact Nat.le_of_ble_eq_true rfl
  | _ => exact Nat.le_of_ble_eq_true rfl

theorem within_logical {g : Goal} (h : Precedence.bitOr ≤ goalPrecedence g) (op : LogicalOp) :
    Within g (.level (logicalLevel op)) ∧ Within g (logicalLevel op).operand := by
  revert h
  cases g with
  | level l => cases l <;> cases op <;> decide
  | _ => cases op <;> decide

theorem mixes_of_not_logical {e : Expr} (hne : ∀ op l r, e ≠ .logical op l r) (op : LogicalOp) :
    mixes op e = false := by
  cases e with
  | logical inner l r => exact absurd rfl (hne inner l r)
  | _ => rfl

/-- The operands of a logical operator fit their places. -/
theorem within_logical_operands (op : LogicalOp) (e : Expr) :
    ((if mixes op e then Precedence.primary else logicalPrecedence op) ≤ precedence e →
      Within (ownGoal e) (.level (logicalLevel op))) ∧
    ((if mixes op e then Precedence.primary else logicalPrecedence op + 1) ≤ precedence e →
      Within (ownGoal e) (logicalLevel op).operand) := by
  by_cases hlogical : ∃ inner l r, e = .logical inner l r
  · obtain ⟨inner, l, r, rfl⟩ := hlogical
    cases op <;> cases inner <;> constructor <;> intro h <;> first
      | exact of_decide_eq_true rfl
      | exact absurd h (Nat.not_le_of_lt (Nat.le_of_ble_eq_true rfl))
  · have hne : ∀ inner l r, e ≠ .logical inner l r := fun inner l r he => hlogical ⟨inner, l, r, he⟩
    have hor : Precedence.logicalOr ≤ logicalPrecedence op := by cases op <;> decide
    rw [mixes_of_not_logical hne, if_neg Bool.false_ne_true, if_neg Bool.false_ne_true]
    constructor
    · intro h
      exact (within_logical (tight_of_not_logical hne (Nat.le_trans hor h)) op).1
    · intro h
      exact (within_logical (tight_of_not_logical hne
        (Nat.le_trans hor (Nat.le_of_succ_le h))) op).2

theorem Prints.logical {l r : Expr} (hl : Prints o level noIn l) (hr : Prints o level noIn r)
    (op : LogicalOp) : Prints o level noIn (.logical op l r) := by
  obtain ⟨dl, tl, hdl, hsl⟩ := hl
  obtain ⟨dr, tr, hdr, hsr⟩ := hr
  obtain ⟨ls, hpl⟩ := hsl.place (within_logical_operands op l).1
  obtain ⟨rs, hpr⟩ := hsr.place (within_logical_operands op r).2
  have hsymbol : IsSymbol op.symbol := by cases op <;> decide
  have hlevel : (Connective.logical op).level = some (logicalLevel op) := by cases op <;> rfl
  refine ⟨_, _, by rw [exprDoc_logical, hdl, hdr]; rfl, ?_, hpl.written.between hsymbol hpr.written,
    fun allowIn hallow => ?_⟩
  · simp only [List.append_assoc]
    exact hpl.opens.append _
  · have hown : ownGoal (.logical op l r) = .level (logicalLevel op) := by rw [ownGoal, hlevel]; rfl
    rw [hown]
    exact .connect (.logical op) hlevel (by rintro ⟨⟩) (hpl.derives allowIn fun h => hallow (.inl h))
      (hpr.derives allowIn fun h => hallow (.inl h))

theorem Prints.conditional {t c a : Expr} (ht : Prints o level noIn t) (hc : Prints o level noIn c)
    (ha : Prints o level noIn a) : Prints o level noIn (.conditional t c a) := by
  obtain ⟨dt, _, hdt, hst⟩ := ht
  obtain ⟨dc, _, hdc, hsc⟩ := hc
  obtain ⟨da, _, hda, hsa⟩ := ha
  obtain ⟨ts, hpt⟩ := hst.placeAt Precedence.coalesce
  obtain ⟨cs, hpc⟩ := hsc.placeAt Precedence.assignment
  obtain ⟨as, hpa⟩ := hsa.placeAt Precedence.assignment
  refine ⟨_, _, by rw [exprDoc_conditional, hdt, hdc, hda]; rfl, ?_,
    hpt.written.conditional hpc.written hpa.written, fun allowIn hallow => ?_⟩
  · simp only [List.append_assoc]
    exact hpt.opens.append _
  · exact .conditional (hpt.derives allowIn fun h => hallow (.inl h))
      (hpc.derives true fun _ => rfl) (hpa.derives allowIn fun h => hallow (.inl h))

theorem derives_name {name : String} (h : IsName name) (allowIn newline : Bool) :
    Derives .leftHandSide allowIn [⟨.word name false, newline⟩] (.identifier name) :=
  .unit List.mem_cons_self (.atom (atom?_name h.reference))

theorem Prints.assign {name : String} {e : Expr} (h : IsName name) (he : Prints o level noIn e)
    (op : AssignOp) : Prints o level noIn (.assign op (.identifier name) e) := by
  obtain ⟨d, _, hd, hspelled⟩ := he
  obtain ⟨us, hplaced⟩ := hspelled.placeAt Precedence.assignment
  have hname : Written Closes o (word name) [⟨.word name false, false⟩] :=
    (written_name h.identifier).mono fun _ => Closes.wordEnds
  have hsymbol : IsSymbol op.symbol := by cases op <;> decide
  refine ⟨_, _, by rw [exprDoc_assign, hd]; rfl, ?_, hname.between hsymbol hplaced.written,
    fun allowIn hallow => ?_⟩
  · simp only [List.append_assoc]
    exact (opens_name h.identifier).append _
  · exact .assign op (derives_name h allowIn false) rfl
      (hplaced.derives allowIn fun h => hallow (.inl h))

/-- The items of a list after its first one, with their documents. -/
theorem printed_items {es : List Expr} (hes : ∀ e ∈ es, Prints o level noIn e) :
    ∃ others : List (Doc × ListItem), exprDocs level noIn es = .ok (others.map (·.1)) ∧
      others.map (·.2.tree) = es ∧ ∀ p ∈ others, Opens p.1 ∧
        Written Closes o p.1 p.2.lexemes ∧ p.2.newline = false ∧
        ∀ allowIn, (noIn = false → allowIn = true) →
          Derives .assignment allowIn p.2.lexemes p.2.tree := by
  induction es with
  | nil => exact ⟨[], rfl, rfl, by simp⟩
  | cons e es ih =>
    obtain ⟨d, _, hd, hspelled⟩ := hes e List.mem_cons_self
    obtain ⟨us, hplaced⟩ := hspelled.placeAt Precedence.assignment
    obtain ⟨others, hdocs, htrees, hall⟩ := ih fun e he => hes e (List.mem_cons_of_mem _ he)
    refine ⟨(_, ⟨false, us, e⟩) :: others, by rw [exprDocs_cons, hd, hdocs]; rfl,
      congrArg (e :: ·) htrees, fun p hp => ?_⟩
    rcases List.mem_cons.1 hp with rfl | hp
    · exact ⟨hplaced.opens, hplaced.written, rfl, hplaced.derives⟩
    · exact hall p hp

theorem Prints.sequence {es : List Expr} (hlength : 2 ≤ es.length)
    (hes : ∀ e ∈ es, Prints o level noIn e) : Prints o level noIn (.sequence es) := by
  obtain ⟨others, hdocs, htrees, hall⟩ := printed_items hes
  cases others with
  | nil =>
    rw [← htrees] at hlength
    exact absurd hlength (by decide)
  | cons first others =>
    obtain ⟨hopens, hwritten, -, hderives⟩ := hall first List.mem_cons_self
    have hothers := fun p hp => hall p (List.mem_cons_of_mem _ hp)
    have hne : others ≠ [] := by
      rintro rfl
      rw [← htrees] at hlength
      exact absurd hlength (by simp)
    refine ⟨_, _, by rw [exprDoc_sequence, hdocs]; rfl, ?_,
      hwritten.commaSeparated fun p hp => (hothers p hp).2.imp_right And.left,
      fun allowIn hallow => ?_⟩
    · cases others with
      | nil => exact absurd rfl hne
      | cons second others =>
        simp only [List.map_cons, commaSeparated, List.append_assoc]
        exact hopens.append _
    · have hitems : ∀ item ∈ others.map (·.2),
          Derives .assignment allowIn item.lexemes item.tree := by
        intro item hitem
        obtain ⟨p, hp, rfl⟩ := List.mem_map.1 hitem
        exact (hothers p hp).2.2.2 allowIn fun h => hallow (.inl h)
      have hsequence := Derives.sequence (hderives allowIn fun h => hallow (.inl h))
        (by simpa using hne) hitems
      rw [List.map_map] at hsequence
      rw [← htrees]
      exact hsequence

end Forms

end CustomElement.Emit
