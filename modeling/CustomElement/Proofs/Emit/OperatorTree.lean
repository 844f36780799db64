import CustomElement.Proofs.Emit.Operators
import CustomElement.Proofs.Grammar.Unambiguous

/-!
# Printed operators read back

Trees of operators (`OperatorTree`) are printed with parentheses where they are needed: under all
options the text reads as the tree and as no other one, both by itself and at the start of a `for`
loop, where `in` is no operator. The induction over trees (`OperatorTree.prints`) has a lemma for
every form of expression, and the grammar is unambiguous.
-/

namespace CustomElement.Emit

open CustomElement.Text CustomElement.Tree CustomElement.Grammar

/-! ## Trees of operators -/

/-- What a step operator applies to, a name or a member of one, with the expression in its brackets. -/
inductive StepTarget : Expr → Option Expr → Prop
  | name {name : String} (h : IsName name) : StepTarget (.identifier name) none
  | property {object name : String} (h : IsName object) (hname : isIdentifierName name.toList = true) :
      StepTarget (.member (.identifier object) (.identifier name) false false) none
  | privateProperty {object name : String} (h : IsName object)
      (hname : isIdentifierName name.toList = true) :
      StepTarget (.member (.identifier object) (.privateName name) false false) none
  | index {object : String} (h : IsName object) (p : Expr) :
      StepTarget (.member (.identifier object) p true false) (some p)

/-- Trees that are built from names, `this` and literals with operators. -/
inductive OperatorTree : Expr → Prop
  | name {name : String} (h : IsName name) : OperatorTree (.identifier name)
  | thisRef : OperatorTree .thisRef
  | null : OperatorTree (.literal { value := .null })
  | boolean (value : Bool) : OperatorTree (.literal { value := .boolean value })
  | string (value : String) : OperatorTree (.literal { value := .string value })
  | bigint (n : Nat) : OperatorTree (.literal { value := .null, bigint := some (toString n) })
  | number {x : Double} (hfinite : x.isFinite = true) (hpos : x.negative = false) :
      OperatorTree (.literal { value := .number x })
  | unary (op : UnaryOp) {e : Expr} (he : OperatorTree e) : OperatorTree (.unary op true e)
  | update (op : UpdateOp) (before : Bool) {target : Expr} {index : Option Expr}
      (htarget : StepTarget target index) (hindex : ∀ p ∈ index, OperatorTree p) :
      OperatorTree (.update op before target)
  | await {e : Expr} (he : OperatorTree e) : OperatorTree (.await e)
  | binary (op : BinaryOp) {l r : Expr} (hl : OperatorTree l) (hr : OperatorTree r) :
      OperatorTree (.binary op l r)
  | logical (op : LogicalOp) {l r : Expr} (hl : OperatorTree l) (hr : OperatorTree r) :
      OperatorTree (.logical op l r)
  | conditional {t c a : Expr} (ht : OperatorTree t) (hc : OperatorTree c) (ha : OperatorTree a) :
      OperatorTree (.conditional t c a)
  | assign (op : AssignOp) {name : String} {e : Expr} (h : IsName name) (he : OperatorTree e) :
      OperatorTree (.assign op (.identifier name) e)
  | sequence {es : List Expr} (hlength : 2 ≤ es.length) (hes : ∀ e ∈ es, OperatorTree e) :
      OperatorTree (.sequence es)

section Steps

variable {o : Options} {level : Nat} {noIn : Bool}

/-! ## Steps -/

theorem enclose_of_tight {e : Expr} {least : Nat} (hin : isIn e = false) (hle : least ≤ precedence e)
    (d : Doc) : enclose noIn least e d = d := by
  rw [enclose, hin, Bool.and_false, Bool.false_or, if_neg (by simpa using hle)]

/-- The document of what a step applies to, and its lexemes, in front of any text that does not
continue a word. -/
structure Steps (o : Options) (level : Nat) (noIn : Bool) (e : Expr) (d : Doc) (ts : List Lexeme) :
    Prop where
  printed : exprDoc level noIn e = .ok d
  opens : Opens d
  written : Written WordEnds o d ts
  derives : ∀ allowIn, Derives .leftHandSide allowIn ts e
  isTarget : (target? e).isSome = true
  enclosed : ∀ least ≤ Precedence.call, enclose noIn least e d = d

theorem objectDoc_name (noIn computed : Bool) (object : String) (d : Doc) :
    objectDoc noIn computed (.identifier object) d = d := by
  have hcallee : encloseCallee noIn (.identifier object) d = d :=
    enclose_of_tight rfl (Nat.le_of_ble_eq_true rfl) d
  have hdot : swallowsDot (.identifier object) d = false := rfl
  simp only [objectDoc, hcallee, hdot, Bool.and_false, Bool.false_eq_true, if_false]

theorem enclose_member {object property : Expr} {computed optional : Bool} {least : Nat}
    (hle : least ≤ Precedence.call) (d : Doc) :
    enclose noIn least (.member object property computed optional) d = d :=
  enclose_of_tight rfl (Nat.le_trans hle (Nat.le_of_ble_eq_true rfl)) d

theorem lexes_access {object : String} (h : isIdentifierName object.toList = true) {c : Char}
    {rest : List Char} {us : List Lexeme} (hc : isIdentifierStart c = true ∨ c = '#')
    (hus : Lexes (c :: rest) us) :
    Lexes (object.toList ++ '.' :: c :: rest)
      (⟨.word object false, false⟩ :: ⟨.punct ".", false⟩ :: us) := by
  have hnone : ((followers ".").all fun a => !isIdentifierStart a && a != '#') = true := by decide
  have hdot : Lexes ('.' :: c :: rest) (⟨.punct ".", false⟩ :: us) := by
    refine @lexes_punct "." (by decide) _ _ ?_ hus
    rintro a ⟨⟩ hmem
    have hother := List.all_eq_true.1 hnone c hmem
    simp only [Bool.and_eq_true, Bool.not_eq_true', bne_iff_ne] at hother
    obtain ⟨hstart, hhash⟩ := hother
    rcases hc with hc | hc
    · rw [hc] at hstart
      cases hstart
    · exact hhash hc
  refine lexes_word h ?_ hdot
  rintro a ⟨⟩
  decide

theorem exprDoc_member (object : String) (property : Expr) (computed optional : Bool) :
    exprDoc level noIn (.member (.identifier object) property computed optional) =
      accessDoc noIn (.identifier object) (word object) property (exprDoc level noIn property)
        computed optional :=
  rfl

theorem exprDoc_update (op : UpdateOp) (before : Bool) (e : Expr) :
    exprDoc level noIn (.update op before e) = (do
      let d ← exprDoc level noIn e
      if before then pure (word op.symbol ++ enclose noIn Precedence.unary e d)
      else pure (enclose noIn Precedence.call e d ++ word op.symbol)) :=
  rfl

theorem steps_property {object name : String} (h : IsName object)
    (hname : isIdentifierName name.toList = true) :
    ∃ d ts, Steps o level noIn (.member (.identifier object) (.identifier name) false false) d
      ts := by
  refine ⟨word object ++ word "." ++ word name,
    [⟨.word object false, false⟩] ++ [⟨.punct ".", false⟩, ⟨.word name false, false⟩], ?_,
    (opens_name h.identifier).append _, ?_,
    fun allowIn => .property name (derives_name h allowIn false), rfl,
    fun least hle => enclose_member hle _⟩
  · rw [exprDoc_member, accessDoc, objectDoc_name]
    rfl
  · intro rest us hrest hus
    obtain ⟨c, cs, hcons, hc⟩ := head_of_identifierName hname
    have hlast := lexes_word hname hrest hus
    rw [hcons] at hlast
    have hall := lexes_access h.identifier (.inl hc) hlast
    simpa [hcons] using hall

theorem steps_privateProperty {object name : String} (h : IsName object)
    (hname : isIdentifierName name.toList = true) :
    ∃ d ts, Steps o level noIn (.member (.identifier object) (.privateName name) false false) d
      ts := by
  refine ⟨word object ++ word "." ++ word "#" ++ word name,
    [⟨.word object false, false⟩] ++ [⟨.punct ".", false⟩, ⟨.privateName name, false⟩], ?_,
    ((opens_name h.identifier).append _).append _, ?_,
    fun allowIn => .privateProperty name (derives_name h allowIn false), rfl,
    fun least hle => enclose_member hle _⟩
  · rw [exprDoc_member, accessDoc, objectDoc_name]
    rfl
  · intro rest us hrest hus
    have hall := lexes_access h.identifier (.inr rfl) (lexes_privateName hname hrest hus)
    simpa using hall

theorem steps_index {object : String} {p : Expr} (h : IsName object) (hp : Prints o level noIn p) :
    ∃ d ts, Steps o level noIn (.member (.identifier object) p true false) d ts := by
  obtain ⟨d, _, hd, hspelled⟩ := hp
  obtain ⟨us, hplaced⟩ := hspelled.placeAt Precedence.sequence
  refine ⟨word object ++ [] ++ word "[" ++ enclose noIn Precedence.sequence p d ++ word "]",
    [⟨.word object false, false⟩] ++ ⟨.punct "[", false⟩ :: (us ++ [⟨.punct "]", false⟩]), ?_,
    (opens_name h.identifier).append _, ?_,
    fun allowIn => .index (derives_name h allowIn false) (hplaced.derives true fun _ => rfl), rfl,
    fun least hle => enclose_member hle _⟩
  · rw [exprDoc_member, accessDoc, objectDoc_name, hd]
    rfl
  · intro rest vs _ hvs
    have hclose : Lexes (']' :: rest) (⟨.punct "]", false⟩ :: vs) :=
      @lexes_closed "]" rest vs (by decide) hvs
    have hinner := hplaced.written _ _ (closes_cons (by decide) rest) hclose
    have hopen : Lexes ('[' :: _) (⟨.punct "[", false⟩ :: _) :=
      @lexes_closed "[" _ _ (by decide) hinner
    have hall := lexes_word h.identifier (fun c hc => by cases hc; decide) hopen
    simpa using hall

theorem StepTarget.steps {e : Expr} {index : Option Expr} (h : StepTarget e index)
    (hindex : ∀ p ∈ index, Prints o level noIn p) : ∃ d ts, Steps o level noIn e d ts := by
  cases h with
  | name h =>
    exact ⟨_, _, rfl, opens_name h.identifier, written_name h.identifier,
      fun allowIn => derives_name h allowIn false, rfl,
      fun least hle => enclose_of_tight rfl (Nat.le_trans hle (Nat.le_of_ble_eq_true rfl)) _⟩
  | property h hname => exact steps_property h hname
  | privateProperty h hname => exact steps_privateProperty h hname
  | index h p => exact steps_index h (hindex p rfl)

theorem Prints.update {e : Expr} {d : Doc} {ts : List Lexeme} (h : Steps o level noIn e d ts)
    (op : UpdateOp) (before : Bool) : Prints o level noIn (.update op before e) := by
  have htoken : operatorToken op.symbol = .punct op.symbol := by cases op <;> rfl
  have hclosed : op.symbol ∈ closedSymbols := by cases op <;> decide
  cases before with
  | true =>
    refine ⟨word op.symbol ++ d, ⟨operatorToken op.symbol, false⟩ :: ts, ?_, Opens.append ?_ _, ?_,
      fun allowIn _ => .stepBefore op ((h.derives allowIn).within (by decide)) h.isTarget⟩
    · rw [exprDoc_update, h.printed]
      change Except.ok (word op.symbol ++ enclose noIn Precedence.unary e d) = _
      rw [h.enclosed Precedence.unary (by decide)]
    · cases op <;> exact opens_word rfl (by decide)
    · intro rest us hrest hus
      have hall := lexes_closed hclosed (h.written rest us hrest.wordEnds hus)
      rw [htoken]
      simpa using hall
  | false =>
    refine ⟨d ++ word op.symbol, ts ++ [Lexeme.mk (operatorToken op.symbol) false], ?_,
      h.opens.append _, ?_, fun allowIn _ => .stepAfter op (h.derives allowIn) h.isTarget⟩
    · rw [exprDoc_update, h.printed]
      change Except.ok (enclose noIn Precedence.call e d ++ word op.symbol) = _
      rw [h.enclosed Precedence.call (Nat.le_refl _)]
    · intro rest us _ hus
      have hends : WordEnds (op.symbol.toList ++ rest) := by
        intro c hc
        cases op <;> cases hc <;> decide
      have hall := h.written _ _ hends (lexes_closed hclosed hus)
      rw [htoken]
      simpa using hall

end Steps

/-! ## Reading back -/

/-- Every tree of operators is printed as lexemes that derive it. -/
theorem OperatorTree.prints {e : Expr} (h : OperatorTree e) (o : Options) (level : Nat)
    (noIn : Bool) : Prints o level noIn e := by
  induction h with
  | name h => exact prints_name h
  | thisRef => exact prints_keyword "this" (by decide) rfl rfl rfl
  | null => exact prints_keyword "null" (by decide) rfl rfl rfl
  | boolean value =>
    cases value with
    | true => exact prints_keyword "true" (by decide) rfl rfl rfl
    | false => exact prints_keyword "false" (by decide) rfl rfl rfl
  | string value => exact prints_string value
  | bigint n => exact prints_bigint n
  | number hfinite hpos => exact prints_number hfinite hpos
  | unary op _ ih => exact ih.unary op
  | update op before htarget _ ih =>
    obtain ⟨d, ts, hsteps⟩ := htarget.steps ih
    exact .update hsteps op before
  | await _ ih => exact ih.await
  | binary op _ _ ihl ihr => exact ihl.binary ihr op
  | logical op _ _ ihl ihr => exact ihl.logical ihr op
  | conditional _ _ _ iht ihc iha => exact iht.conditional ihc iha
  | assign op h _ ih => exact .assign h ih op
  | sequence hlength _ ih => exact .sequence hlength ih

theorem Placed.readsAs {o : Options} {noIn : Bool} {e : Expr} {d : Doc} {ts : List Lexeme}
    (h : Placed o noIn .expression e d ts) (t : Expr) : ReadsAs (!noIn) (d.render o) t ↔ t = e := by
  have hlexes := h.written [] [] closes_nil lexes_nil
  rw [List.append_nil, List.append_nil] at hlexes
  have hreads : ReadsAs (!noIn) (d.render o) e :=
    ⟨ts, hlexes, h.derives _ fun hnoIn => by rw [hnoIn]; rfl⟩
  exact ⟨fun ht => ht.unique hreads, fun ht => ht ▸ hreads⟩

/-- The text of a tree of operators reads as that tree and as no other one, by itself and at the
start of a `for` loop. -/
theorem operators_read_back {e : Expr} (h : OperatorTree e) (o : Options) (level : Nat) :
    (∃ text, expression e o = .ok text ∧ ∀ t, ReadsAs true text.toList t ↔ t = e) ∧
      ∃ d, forInitDoc level (some e) = .ok d ∧ ∀ t, ReadsAs false (d.render o) t ↔ t = e := by
  constructor
  · obtain ⟨d, _, hd, hspelled⟩ := h.prints o 0 false
    obtain ⟨ts, hplaced⟩ := hspelled.placeAt Precedence.sequence
    refine ⟨_, by rw [expression, expressionDoc, hd]; rfl, fun t => ?_⟩
    rw [Doc.text, String.toList_ofList]
    exact hplaced.readsAs t
  · obtain ⟨d, _, hd, hspelled⟩ := h.prints o level true
    obtain ⟨ts, hplaced⟩ := hspelled.placeAt Precedence.sequence
    exact ⟨_, by rw [forInitDoc, hd]; rfl, hplaced.readsAs⟩

/-- A mixture of logical operators, two signs in a row, a power with a prefixed base, a step on an
element and an `in` comparison, as the value of an assignment. -/
def mixedOperators : Expr :=
  .assign .assign (.identifier "a")
    (.conditional
      (.logical .coalesce (.logical .or (.identifier "b") .thisRef)
        (.unary .minus true (.unary .minus true (.identifier "c"))))
      (.binary .power (.unary .typeof true (.identifier "b")) (.await (.identifier "c")))
      (.sequence
        [.update .increment false
          (.member (.identifier "a") (.sequence [.identifier "b", .identifier "c"]) true false),
          .binary .inside (.literal { value := .string "it's" }) (.identifier "c")]))

theorem operatorTree_mixedOperators : OperatorTree mixedOperators := by
  have ha : IsName "a" := ⟨by decide, by decide⟩
  have hb : OperatorTree (.identifier "b") := .name ⟨by decide, by decide⟩
  have hc : OperatorTree (.identifier "c") := .name ⟨by decide, by decide⟩
  have hindex : OperatorTree (.sequence [.identifier "b", .identifier "c"]) :=
    .sequence (by decide) (by simp [hb, hc])
  have hstep : OperatorTree (.update .increment false
      (.member (.identifier "a") (.sequence [.identifier "b", .identifier "c"]) true false)) :=
    .update _ _ (.index ha _) (by simpa using hindex)
  have hin : OperatorTree (.binary .inside (.literal { value := .string "it's" }) (.identifier "c")) :=
    .binary _ (.string _) hc
  refine .assign _ ha (.conditional ?_ (.binary _ (.unary _ hb) (.await hc)) ?_)
  · exact .logical _ (.logical _ hb .thisRef) (.unary _ (.unary _ hc))
  · exact .sequence (by decide) (by simp [hstep, hin])

example : expression mixedOperators {} =
    .ok "a = (b || this) ?? - -c ? (typeof b) ** await c : (a[b, c]++, 'it\\'s' in c)" := by
  decide +kernel

theorem mixedOperators_read_back : OperatorTree mixedOperators ∧
    (∃ text, expression mixedOperators {} = .ok text ∧
      ∀ t, ReadsAs true text.toList t ↔ t = mixedOperators) ∧
      ∃ d, forInitDoc 0 (some mixedOperators) = .ok d ∧
        ∀ t, ReadsAs false (d.render {}) t ↔ t = mixedOperators :=
  ⟨operatorTree_mixedOperators, operators_read_back operatorTree_mixedOperators {} 0⟩

end CustomElement.Emit
