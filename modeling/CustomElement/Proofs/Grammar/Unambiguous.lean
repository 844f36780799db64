import CustomElement.Proofs.Grammar.Reader

/-!
# The grammar is unambiguous

What the grammar derives the reader reads, with the same tree, in front of lexemes at which it stops
(`Derives.complete`). The reader is a function, so lexemes have one tree (`Derives.unique`), and a text
reads as one expression (`ReadsAs.unique`).

The nonterminals that productions extend to the right, levels and accesses, carry the induction in
another form: whatever the reader makes of the operators or accesses that follow on a tree, it makes
of the whole text (`Complete`).
-/

namespace CustomElement.Grammar

open CustomElement.Tree
open CustomElement.Script (Token)

variable {allowIn newline newline' : Bool} {ts mid mid' out rest : List Lexeme}

/-! ## Rules of the reader -/

theorem Reads.lastItem {e : Expr} (he : Reads (.goal .assignment) allowIn ts e rest)
    (hrest : ∀ t ∈ rest.head?, t.token ≠ .punct ",") :
    Reads .items allowIn ts (.sequence [e]) rest := by
  obtain ⟨n, he⟩ := he
  refine .of_round (n := n) fun m hm => ?_
  change readItems (read m) allowIn ts = _
  simp only [readItems, he m hm, Option.bind_eq_bind, Option.bind_some]
  split
  · exact absurd rfl (hrest _ rfl)
  · rfl

theorem Reads.item {e : Expr} {es : List Expr}
    (he : Reads (.goal .assignment) allowIn ts e (⟨.punct ",", newline⟩ :: mid))
    (hes : Reads .items allowIn mid (.sequence es) out) :
    Reads .items allowIn ts (.sequence (e :: es)) out := by
  obtain ⟨n, he⟩ := he
  obtain ⟨k, hes⟩ := hes
  refine .of_round (n := max n k) fun m hm => ?_
  change readItems (read m) allowIn ts = _
  simp [readItems, he m (by omega), hes m (by omega), pushItem]

theorem Reads.expression {e : Expr} (he : Reads .items allowIn ts e rest) :
    Reads (.goal .expression) allowIn ts (collapse e) rest := by
  obtain ⟨n, he⟩ := he
  refine .of_round (n := n) fun m hm => ?_
  change (read m .items allowIn ts).map _ = _
  rw [he m hm]
  rfl

theorem Reads.assign {l r : Expr} {p : Pattern} {op : AssignOp}
    (hl : Reads (.goal .conditional) allowIn ts l (⟨operatorToken op.symbol, newline⟩ :: mid))
    (hp : target? l = some p) (hr : Reads (.goal .assignment) allowIn mid r out) :
    Reads (.goal .assignment) allowIn ts (.assign op p r) out := by
  obtain ⟨n, hl⟩ := hl
  obtain ⟨k, hr⟩ := hr
  refine .of_round (n := max n k) fun m hm => ?_
  change readAssignment (read m) allowIn ts = _
  simp [readAssignment, hl m (by omega), hr m (by omega), assignOf?_token, hp]

theorem Reads.assignment {e : Expr} (he : Reads (.goal .conditional) allowIn ts e rest)
    (hrest : Stops .assignment allowIn rest) : Reads (.goal .assignment) allowIn ts e rest := by
  obtain ⟨n, he⟩ := he
  refine .of_round (n := n) fun m hm => ?_
  change readAssignment (read m) allowIn ts = _
  simp only [readAssignment, he m hm, Option.bind_eq_bind, Option.bind_some]
  cases rest with
  | nil => rfl
  | cons t rest =>
    obtain ⟨token, newline⟩ := t
    have hreach := hrest _ rfl
    cases hop : assignOf? token with
    | none => simp [hop]
    | some op =>
      obtain rfl := eq_of_assignOf? hop
      rw [reach_assign] at hreach
      exact absurd hreach (Nat.lt_irrefl 2)

theorem Reads.conditional {t c a : Expr}
    (ht : Reads (.goal .shortCircuit) allowIn ts t (⟨.punct "?", newline⟩ :: mid))
    (hc : Reads (.goal .assignment) true mid c (⟨.punct ":", newline'⟩ :: mid'))
    (ha : Reads (.goal .assignment) allowIn mid' a out) :
    Reads (.goal .conditional) allowIn ts (.conditional t c a) out := by
  obtain ⟨n, ht⟩ := ht
  obtain ⟨k, hc⟩ := hc
  obtain ⟨j, ha⟩ := ha
  refine .of_round (n := max n (max k j)) fun m hm => ?_
  change readConditional (read m) allowIn ts = _
  simp [readConditional, ht m (by omega), hc m (by omega), ha m (by omega)]

theorem Reads.test {e : Expr} (he : Reads (.goal .shortCircuit) allowIn ts e rest)
    (hrest : ∀ t ∈ rest.head?, t.token ≠ .punct "?") :
    Reads (.goal .conditional) allowIn ts e rest := by
  obtain ⟨n, he⟩ := he
  refine .of_round (n := n) fun m hm => ?_
  change readConditional (read m) allowIn ts = _
  simp only [readConditional, he m hm, Option.bind_eq_bind, Option.bind_some]
  split
  · exact absurd rfl (hrest _ rfl)
  · rfl

theorem Reads.shortCircuit {e : Expr} (he : Reads (.goal (.level .coalesce)) allowIn ts e rest) :
    Reads (.goal .shortCircuit) allowIn ts e rest := by
  obtain ⟨n, he⟩ := he
  exact .of_round (n := n) fun m hm => he m hm

theorem Reads.level {l : Level} {e r : Expr} (he : Reads (.goal l.first) allowIn ts e mid)
    (hr : Reads (.more l e) allowIn mid r out) : Reads (.goal (.level l)) allowIn ts r out := by
  obtain ⟨n, he⟩ := he
  obtain ⟨k, hr⟩ := hr
  refine .of_round (n := max n k) fun m hm => ?_
  change (read m (.goal l.first) allowIn ts).bind _ = _
  rw [he m (by omega)]
  exact hr m (by omega)

theorem Reads.connect {op : Connective} {l : Level} {left r e : Expr} (hlevel : op.level = some l)
    (hin : op = .binary .inside → allowIn = true)
    (hr : Reads (.goal l.operand) allowIn ts r mid)
    (he : Reads (.more l (op.apply left r)) allowIn mid e out) :
    Reads (.more l left) allowIn (⟨op.token, newline⟩ :: ts) e out := by
  obtain ⟨n, hr⟩ := hr
  obtain ⟨k, he⟩ := he
  refine .of_round (n := max n k) fun m hm => ?_
  change readMore (read m) allowIn (⟨op.token, newline⟩ :: ts) l left = _
  simp [readMore, connectiveOf?_token hin, hlevel, hr m (by omega), he m (by omega)]

theorem Reads.lastOperand {l : Level} {left : Expr} (hrest : Stops (.level l) allowIn rest) :
    Reads (.more l left) allowIn rest left rest := by
  refine .of_round (n := 0) fun m _ => ?_
  cases rest with
  | nil => rfl
  | cons t rest =>
    obtain ⟨token, newline⟩ := t
    have hreach := hrest _ rfl
    change readMore (read m) allowIn (⟨token, newline⟩ :: rest) l left = _
    simp only [readMore]
    split
    · rename_i op hop
      obtain ⟨rfl, hin⟩ := eq_of_connectiveOf? hop
      split
      · rename_i hlevel
        rw [reach_connective hlevel hin] at hreach
        exact absurd hreach (Nat.lt_irrefl _)
      · rfl
    · rfl

theorem Reads.power {l r : Expr}
    (hl : Reads (.goal .unary) allowIn ts l (⟨.punct "**", newline⟩ :: mid))
    (hr : Reads (.goal .exponent) allowIn mid r out) :
    Reads (.goal .exponent) allowIn ts (.binary .power l r) out := by
  obtain ⟨n, hl⟩ := hl
  obtain ⟨k, hr⟩ := hr
  refine .of_round (n := max n k) fun m hm => ?_
  change readPower (read m) allowIn ts = _
  simp [readPower, hl m (by omega), hr m (by omega)]

theorem Reads.exponent {e : Expr} (he : Reads (.goal .unary) allowIn ts e rest)
    (hrest : Stops .exponent allowIn rest) : Reads (.goal .exponent) allowIn ts e rest := by
  obtain ⟨n, he⟩ := he
  refine .of_round (n := n) fun m hm => ?_
  change readPower (read m) allowIn ts = _
  simp only [readPower, he m hm, Option.bind_eq_bind, Option.bind_some]
  split
  · have hreach := hrest _ rfl
    rw [reach_power] at hreach
    exact absurd hreach (Nat.lt_irrefl 15)
  · rfl

theorem Reads.unary {e : Expr} (he : Reads (.goal .update) allowIn ts e rest) :
    Reads (.goal .unary) allowIn ts e rest := by
  obtain ⟨n, he⟩ := he
  exact .of_round (n := n) fun m hm => he m hm

theorem Reads.lead {t : Token} {build : Expr → Expr} {e : Expr} (ht : leadOf? t = some build)
    (he : Reads (.goal .unary) allowIn ts e rest) :
    Reads (.goal .update) allowIn (⟨t, newline⟩ :: ts) (build e) rest := by
  obtain ⟨n, he⟩ := he
  refine .of_round (n := n) fun m hm => ?_
  change readUpdate (read m) allowIn (⟨t, newline⟩ :: ts) = _
  simp [readUpdate, ht, he m hm]

theorem Reads.stepAfter {t : Token} {op : UpdateOp} {e : Expr} (ht : leadOf? t = none)
    (he : Reads (.goal .leftHandSide) allowIn (⟨t, newline⟩ :: ts) e
      (⟨operatorToken op.symbol, false⟩ :: rest)) :
    Reads (.goal .update) allowIn (⟨t, newline⟩ :: ts) (.update op false e) rest := by
  obtain ⟨n, he⟩ := he
  refine .of_round (n := n) fun m hm => ?_
  change readUpdate (read m) allowIn (⟨t, newline⟩ :: ts) = _
  simp [readUpdate, ht, he m hm, updateOf?_token]

theorem Reads.update {t : Token} {e : Expr} (ht : leadOf? t = none)
    (he : Reads (.goal .leftHandSide) allowIn (⟨t, newline⟩ :: ts) e rest)
    (hrest : Stops .update allowIn rest) :
    Reads (.goal .update) allowIn (⟨t, newline⟩ :: ts) e rest := by
  obtain ⟨n, he⟩ := he
  refine .of_round (n := n) fun m hm => ?_
  change readUpdate (read m) allowIn (⟨t, newline⟩ :: ts) = _
  simp only [readUpdate, ht, he m hm, Option.bind_eq_bind, Option.bind_some]
  split
  · have hreach := hrest _ rfl
    split
    · rename_i hop
      obtain rfl := eq_of_updateOf? hop
      rw [reach_update] at hreach
      exact absurd hreach (Nat.lt_irrefl 16)
    · rfl
  · rfl

theorem Reads.leftHandSide {e r : Expr} (he : Reads (.goal .primary) allowIn ts e mid)
    (hr : Reads (.accesses e) allowIn mid r out) :
    Reads (.goal .leftHandSide) allowIn ts r out := by
  obtain ⟨n, he⟩ := he
  obtain ⟨k, hr⟩ := hr
  refine .of_round (n := max n k) fun m hm => ?_
  change (read m (.goal .primary) allowIn ts).bind _ = _
  rw [he m (by omega)]
  exact hr m (by omega)

theorem Reads.lastAccess {e : Expr} (hrest : Stops .leftHandSide allowIn rest) :
    Reads (.accesses e) allowIn rest e rest := by
  refine .of_round (n := 0) fun m _ => ?_
  change readAccesses (read m) allowIn rest e = _
  have hnot : ∀ symbol ∈ [".", "[", "("], ∀ newline after,
      rest = ⟨.punct symbol, newline⟩ :: after → False := by
    rintro symbol hmem newline after rfl
    have hreach := hrest _ rfl
    rw [reach_access hmem] at hreach
    exact absurd hreach (Nat.lt_irrefl 17)
  simp only [readAccesses]
  split
  case h_5 => rfl
  all_goals exact (hnot _ (by decide) _ _ rfl).elim

theorem Reads.property {name : String} {escaped : Bool} {e r : Expr}
    (hr : Reads (.accesses (.member e (.identifier name) false false)) allowIn ts r out) :
    Reads (.accesses e) allowIn (⟨.punct ".", newline⟩ :: ⟨.word name escaped, newline'⟩ :: ts) r
      out := by
  obtain ⟨n, hr⟩ := hr
  exact .of_round (n := n) fun m hm => hr m hm

theorem Reads.privateProperty {name : String} {e r : Expr}
    (hr : Reads (.accesses (.member e (.privateName name) false false)) allowIn ts r out) :
    Reads (.accesses e) allowIn (⟨.punct ".", newline⟩ :: ⟨.privateName name, newline'⟩ :: ts) r
      out := by
  obtain ⟨n, hr⟩ := hr
  exact .of_round (n := n) fun m hm => hr m hm

theorem Reads.index {e p r : Expr}
    (hp : Reads (.goal .expression) true ts p (⟨.punct "]", newline'⟩ :: mid))
    (hr : Reads (.accesses (.member e p true false)) allowIn mid r out) :
    Reads (.accesses e) allowIn (⟨.punct "[", newline⟩ :: ts) r out := by
  obtain ⟨n, hp⟩ := hp
  obtain ⟨k, hr⟩ := hr
  refine .of_round (n := max n k) fun m hm => ?_
  change readAccesses (read m) allowIn (⟨.punct "[", newline⟩ :: ts) e = _
  simp [readAccesses, hp m (by omega), hr m (by omega)]

theorem Reads.callEmpty {e r : Expr} (hr : Reads (.accesses (.call e [] false)) allowIn ts r out) :
    Reads (.accesses e) allowIn (⟨.punct "(", newline⟩ :: ⟨.punct ")", newline'⟩ :: ts) r out := by
  obtain ⟨n, hr⟩ := hr
  exact .of_round (n := n) fun m hm => hr m hm

theorem Reads.call {e r : Expr} {as : List Expr} (hts : ∀ t ∈ ts.head?, t.token ≠ .punct ")")
    (has : Reads .items true ts (.sequence as) (⟨.punct ")", newline'⟩ :: mid))
    (hr : Reads (.accesses (.call e as false)) allowIn mid r out) :
    Reads (.accesses e) allowIn (⟨.punct "(", newline⟩ :: ts) r out := by
  obtain ⟨n, has⟩ := has
  obtain ⟨k, hr⟩ := hr
  refine .of_round (n := max n k) fun m hm => ?_
  change readAccesses (read m) allowIn (⟨.punct "(", newline⟩ :: ts) e = _
  simp only [readAccesses]
  split
  · exact absurd rfl (hts _ rfl)
  · simp [has m (by omega), hr m (by omega), argumentsOf]

theorem Reads.atom {t : Token} {e : Expr} (h : atom? t = some e) :
    Reads (.goal .primary) allowIn (⟨t, newline⟩ :: rest) e rest := by
  refine .of_round (n := 0) fun m _ => ?_
  change readPrimary (read m) (⟨t, newline⟩ :: rest) = _
  simp only [readPrimary]
  split
  · rename_i heq
    obtain ⟨heq, -⟩ := List.cons.inj heq
    obtain ⟨rfl, -⟩ := Lexeme.mk.inj heq
    cases h
  · rename_i heq
    obtain ⟨rfl, rfl⟩ := List.cons.inj heq
    simp [h]
  · rename_i heq
    cases heq

theorem Reads.parenthesized {e : Expr}
    (he : Reads (.goal .expression) true ts e (⟨.punct ")", newline'⟩ :: out)) :
    Reads (.goal .primary) allowIn (⟨.punct "(", newline⟩ :: ts) e out := by
  obtain ⟨n, he⟩ := he
  refine .of_round (n := n) fun m hm => ?_
  change readPrimary (read m) (⟨.punct "(", newline⟩ :: ts) = _
  simp [readPrimary, he m hm]

/-! ## Derivations are read -/

/-- Derived lexemes do not start with a closing parenthesis, nor with an operator if they are an
operand. -/
theorem Derives.head {g : Goal} {e : Expr} (h : Derives g allowIn ts e) :
    ∃ t newline us, ts = ⟨t, newline⟩ :: us ∧ t ≠ .punct ")" ∧
      (g = .leftHandSide ∨ g = .primary → leadOf? t = none) := by
  induction h with
  | @unit g h _ _ _ hunit _ ih =>
    obtain ⟨t, newline, us, rfl, hne, hlead⟩ := ih
    refine ⟨t, newline, us, rfl, hne, ?_⟩
    rintro (rfl | rfl)
    · exact hlead (.inr (List.mem_singleton.1 hunit))
    · cases hunit
  | sequence _ _ _ ih | assign _ _ _ _ ih | conditional _ _ _ ih | connect _ _ _ _ _ ih | power _ _ ih
  | stepAfter _ _ _ ih =>
    obtain ⟨t, newline, us, rfl, hne, -⟩ := ih
    exact ⟨t, newline, _, rfl, hne, by simp⟩
  | unary op | stepBefore op => exact ⟨_, _, _, rfl, by cases op <;> decide, by simp⟩
  | await => exact ⟨_, _, _, rfl, by decide, by simp⟩
  | property _ _ ih | privateProperty _ _ ih | index _ _ ih | callEmpty _ ih | call _ _ _ ih =>
    obtain ⟨t, newline, us, rfl, hne, hlead⟩ := ih
    exact ⟨t, newline, _, rfl, hne, hlead⟩
  | atom h =>
    refine ⟨_, _, _, rfl, ?_, fun _ => ?_⟩
    · rintro rfl
      cases h
    · cases hlead : leadOf? _ with
      | none => rfl
      | some build =>
        rw [atom?_of_lead hlead] at h
        cases h
  | parenthesized => exact ⟨_, _, _, rfl, by decide, fun _ => rfl⟩

/-- What the reader makes of derived lexemes in front of others. -/
def Complete (g : Goal) (allowIn : Bool) (ts : List Lexeme) (e : Expr) : Prop :=
  match g with
  | .level l => ∀ rest r out, Stops l.first allowIn rest → Reads (.more l e) allowIn rest r out →
      Reads (.goal (.level l)) allowIn (ts ++ rest) r out
  | .leftHandSide => ∀ rest r out, Reads (.accesses e) allowIn rest r out →
      Reads (.goal .leftHandSide) allowIn (ts ++ rest) r out
  | g => ∀ rest, Stops g allowIn rest → Reads (.goal g) allowIn (ts ++ rest) e rest

theorem Level.rank_le_first (l : Level) : (Goal.level l).rank ≤ l.first.rank := by
  cases l <;> decide

theorem Complete.reads {g : Goal} {e : Expr} (h : Complete g allowIn ts e)
    (hrest : Stops g allowIn rest) : Reads (.goal g) allowIn (ts ++ rest) e rest := by
  cases g with
  | level l => exact h rest e rest (hrest.mono l.rank_le_first) (.lastOperand hrest)
  | leftHandSide => exact h rest e rest (.lastAccess hrest)
  | _ => exact h rest hrest

theorem ne_comma_of_stops (h : Stops .expression allowIn rest) :
    ∀ t ∈ rest.head?, t.token ≠ .punct "," := by
  rintro ⟨token, newline⟩ ht rfl
  have hreach := h _ ht
  rw [reach_comma] at hreach
  exact absurd hreach (Nat.lt_irrefl 1)

theorem Complete.items {e : Expr} {items : List ListItem} (he : Complete .assignment allowIn ts e)
    (hitems : ∀ item ∈ items, Complete .assignment allowIn item.lexemes item.tree)
    (hrest : Stops .expression allowIn rest) :
    Reads .items allowIn (ts ++ itemLexemes items ++ rest) (.sequence (e :: items.map ListItem.tree))
      rest := by
  induction items generalizing ts e with
  | nil =>
    rw [itemLexemes, List.flatMap_nil, List.append_nil]
    exact .lastItem (he.reads (hrest.mono (by decide))) (ne_comma_of_stops hrest)
  | cons item items ih =>
    have hcomma : reach allowIn ⟨.punct ",", item.newline⟩ < Goal.assignment.rank := by
      rw [reach_comma]
      decide
    have hothers := ih (hitems item List.mem_cons_self)
      fun other hother => hitems other (List.mem_cons_of_mem _ hother)
    rw [itemLexemes, List.flatMap_cons, List.append_assoc, List.cons_append]
    exact .item (he.reads (stops_cons hcomma)) hothers

/-- Unit productions. -/
theorem Complete.unit {g h : Goal} {e : Expr} (hunit : h ∈ g.units) (hd : Derives h allowIn ts e)
    (ih : Complete h allowIn ts e) : Complete g allowIn ts e := by
  cases g with
  | expression =>
    obtain rfl := List.mem_singleton.1 hunit
    intro rest hrest
    exact .expression (.lastItem (ih.reads (hrest.mono (by decide))) (ne_comma_of_stops hrest))
  | assignment =>
    obtain rfl := List.mem_singleton.1 hunit
    intro rest hrest
    exact .assignment (ih.reads (hrest.mono (by decide))) hrest
  | conditional =>
    obtain rfl := List.mem_singleton.1 hunit
    intro rest hrest
    refine .test (ih.reads (hrest.mono (by decide))) ?_
    rintro ⟨token, newline⟩ ht rfl
    have hreach := hrest _ ht
    rw [reach_question] at hreach
    exact absurd hreach (Nat.lt_irrefl 2)
  | shortCircuit =>
    intro rest hrest
    have hstop : Stops (.level .coalesce) allowIn rest := hrest.mono (by decide)
    rcases List.mem_cons.1 hunit with rfl | hunit
    · exact .shortCircuit (.level (ih.reads (hstop.mono (by decide))) (.lastOperand hstop))
    · obtain rfl := List.mem_singleton.1 hunit
      exact .shortCircuit (ih.reads hstop)
  | level l =>
    obtain rfl := List.mem_singleton.1 hunit
    intro rest r out hrest hr
    by_cases hl : l = .coalesce
    · -- A chain of `??` is read like the other logical operators at first.
      subst hl
      have hand : Stops (.level .logicalAnd) allowIn rest := hrest.mono (by decide)
      have hor : Stops (.level .bitOr) allowIn rest := hrest.mono (by decide)
      exact .level (.level (.level (ih.reads hor) (.lastOperand hand)) (.lastOperand hrest)) hr
    · have hfirst : l.first = l.operand := by
        cases l <;> first | rfl | exact absurd rfl hl
      rw [hfirst] at hrest
      refine .level ?_ hr
      rw [hfirst]
      exact ih.reads hrest
  | exponent =>
    obtain rfl := List.mem_singleton.1 hunit
    intro rest hrest
    exact .exponent (ih.reads (hrest.mono (by decide))) hrest
  | unary =>
    obtain rfl := List.mem_singleton.1 hunit
    intro rest hrest
    exact .unary (ih.reads hrest)
  | update =>
    obtain rfl := List.mem_singleton.1 hunit
    intro rest hrest
    obtain ⟨t, newline, us, rfl, -, hlead⟩ := hd.head
    exact .update (hlead (.inl rfl)) (ih.reads (hrest.mono (by decide))) hrest
  | leftHandSide =>
    obtain rfl := List.mem_singleton.1 hunit
    intro rest r out hr
    exact .leftHandSide (ih.reads fun t _ => reach_lt allowIn t) hr
  | primary => cases hunit

theorem Complete.of_closure {n : Nat} {g h : Goal} {e : Expr} (hmem : h ∈ g.closure n)
    (hd : Derives h allowIn ts e) (ih : Complete h allowIn ts e) : Complete g allowIn ts e := by
  induction n generalizing g with
  | zero =>
    obtain rfl := List.mem_singleton.1 hmem
    exact ih
  | succ n hn =>
    rcases List.mem_cons.1 hmem with rfl | hmem
    · exact ih
    · obtain ⟨k, hk, hmem⟩ := List.mem_flatMap.1 hmem
      exact .unit hk (hd.of_closure hmem) (hn hmem)

theorem Derives.complete {g : Goal} {e : Expr} (h : Derives g allowIn ts e) :
    Complete g allowIn ts e := by
  induction h with
  | unit hunit hd ih => exact .unit hunit hd ih
  | @sequence allowIn ts e items _ hne _ ih ihitems =>
    intro rest hrest
    have hread := Reads.expression (ih.items ihitems hrest)
    cases items with
    | nil => exact absurd rfl hne
    | cons item items => exact hread
  | assign op hl hp _ ihl ihr =>
    intro rest hrest
    -- The target is read as a whole conditional, which the operator does not continue.
    have htarget : Complete .shortCircuit _ _ _ := .of_closure (n := 18) (by decide) hl ihl
    rw [List.append_assoc, List.cons_append]
    refine .assign (.test (htarget.reads (stops_cons ?_)) ?_) hp (ihr.reads hrest)
    · rw [reach_assign]
      decide
    · rintro t ⟨⟩
      change operatorToken op.symbol ≠ .punct "?"
      cases op <;> decide
  | conditional _ _ _ iht ihc iha =>
    intro rest hrest
    rw [List.append_assoc, List.cons_append, List.append_assoc, List.cons_append]
    refine .conditional (iht.reads (stops_cons ?_)) (ihc.reads ?_) (iha.reads hrest)
    · rw [reach_question]
      decide
    · exact stops_closing (by decide) _ _ _ _
  | @connect _ _ _ _ _ _ l op hlevel hin _ _ ihl ihr =>
    intro rest r out hrest hr
    rw [List.append_assoc, List.cons_append]
    refine ihl _ r out (stops_cons ?_) (.connect hlevel hin (ihr.reads ?_) hr)
    · rw [reach_connective hlevel hin]
      cases l <;> decide
    · exact hrest.mono (by cases l <;> decide)
  | power _ _ ihl ihr =>
    intro rest hrest
    rw [List.append_assoc, List.cons_append]
    refine .power (.unary (ihl.reads (stops_cons ?_))) (ihr.reads hrest)
    rw [reach_power]
    decide
  | unary op _ ih =>
    intro rest hrest
    exact .unary (.lead (leadOf?_unary op) (ih.reads hrest))
  | await _ ih =>
    intro rest hrest
    exact .unary (.lead leadOf?_await (ih.reads hrest))
  | stepBefore op _ _ ih =>
    intro rest hrest
    exact .lead (leadOf?_update op) (ih.reads hrest)
  | stepAfter op he _ ih =>
    intro rest hrest
    obtain ⟨t, newline, us, rfl, -, hlead⟩ := he.head
    rw [List.append_assoc]
    refine .stepAfter (hlead (.inl rfl)) (ih.reads (stops_cons ?_))
    rw [reach_update]
    decide
  | property name _ ih =>
    intro rest r out hr
    rw [List.append_assoc]
    exact ih _ r out (.property hr)
  | privateProperty name _ ih =>
    intro rest r out hr
    rw [List.append_assoc]
    exact ih _ r out (.privateProperty hr)
  | index _ _ ihe ihp =>
    intro rest r out hr
    rw [List.append_assoc, List.cons_append, List.append_assoc]
    exact ihe _ r out (.index (ihp.reads (stops_closing (by decide) _ _ _ _)) hr)
  | callEmpty _ ih =>
    intro rest r out hr
    rw [List.append_assoc]
    exact ih _ r out (.callEmpty hr)
  | call _ ha _ ihe iha ihitems =>
    intro rest r out hr
    rw [List.append_assoc, List.cons_append, List.append_assoc]
    refine ihe _ r out (.call ?_ (iha.items ihitems (stops_closing (by decide) _ _ _ _)) hr)
    obtain ⟨t, newline, us, rfl, hne, -⟩ := ha.head
    rintro u ⟨⟩
    exact hne
  | atom h =>
    intro rest _
    exact .atom h
  | parenthesized _ ih =>
    intro rest _
    rw [List.cons_append, List.append_assoc]
    exact .parenthesized (ih.reads (stops_closing (by decide) _ _ _ _))

/-! ## Uniqueness -/

theorem Derives.unique {g : Goal} {e e' : Expr} (h : Derives g allowIn ts e)
    (h' : Derives g allowIn ts e') : e = e' :=
  (h.complete.reads (stops_nil g allowIn)).unique (h'.complete.reads (stops_nil g allowIn))

/-- A text reads as at most one expression. -/
theorem ReadsAs.unique {text : List Char} {e e' : Expr} (h : ReadsAs allowIn text e)
    (h' : ReadsAs allowIn text e') : e = e' := by
  obtain ⟨ts, hlexes, hderives⟩ := h
  obtain ⟨us, hlexes', hderives'⟩ := h'
  rw [hlexes'.unique hlexes] at hderives'
  exact hderives.unique hderives'

end CustomElement.Grammar
