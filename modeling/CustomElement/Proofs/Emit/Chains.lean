import CustomElement.Proofs.Emit.OperatorTree
import CustomElement.Proofs.Script.ChainReading

/-!
# Printed chains read back

Trees of accesses, calls, `new`, `import` and tagged templates (`ChainTree`) are printed as texts of chains
(`ChainTree.chained`), and these are parsed as the trees again (`chains_read_back`). The parentheses that
the printer adds are of three kinds: around an optional chain that goes no further, around digits in
front of a dot, and around the callee of a `new` that has a call in it.
-/

namespace CustomElement.Emit

open CustomElement.Text
open CustomElement.Script (ChainText ChainItem TemplatePart IsPiece PropertyText argumentText commaText
  partsText partPieces ArePieces optionalMark dotText pieceEnd lowerExprs parseExpression)

/-! ## Trees of chains -/

/-- The pieces of a template and the expressions between them, where only the last piece ends it. -/
def AreQuasis : List Tree.TemplateElement → List Tree.Expr → Prop
  | [q], [] => q.tail = true ∧ IsPiece q.raw q.cooked true
  | q :: quasis, _ :: es => q.tail = false ∧ IsPiece q.raw q.cooked false ∧ AreQuasis quasis es
  | _, _ => False

/-- What stands behind the dot of an access. -/
inductive IsProperty : Tree.Expr → Prop
  | name {name : String} (h : isIdentifierName name.toList = true) : IsProperty (.identifier name)
  | privateName {name : String} (h : isIdentifierName name.toList = true) : IsProperty (.privateName name)

/-- Trees that are built from names, `this` and numbers with accesses, calls, `new`, `import` and tagged
templates. `linked` tells that there is an optional link in the chain which no `chain` node closes yet.
Only an access or a call goes on with such a chain. -/
inductive ChainTree : Tree.Expr → (linked : Bool) → Prop
  | name {name : String} (h : IsName name) : ChainTree (.identifier name) false
  | thisRef : ChainTree .thisRef false
  | number {x : Double} (hfinite : x.isFinite = true) (hpos : x.negative = false) :
      ChainTree (.literal { value := .number x }) false
  | property {object property : Tree.Expr} {linked : Bool} (h : ChainTree object linked)
      (hproperty : IsProperty property) (optional : Bool) :
      ChainTree (.member object property false optional) (linked || optional)
  | index {object key : Tree.Expr} {linked : Bool} (h : ChainTree object linked)
      (hkey : ChainTree key false) (optional : Bool) :
      ChainTree (.member object key true optional) (linked || optional)
  | call {callee : Tree.Expr} {arguments : List Tree.Expr} {linked : Bool} (h : ChainTree callee linked)
      (harguments : ∀ a ∈ arguments, ChainTree a false) (optional : Bool) :
      ChainTree (.call callee arguments optional) (linked || optional)
  | new {callee : Tree.Expr} {arguments : List Tree.Expr} (h : ChainTree callee false)
      (harguments : ∀ a ∈ arguments, ChainTree a false) : ChainTree (.new callee arguments) false
  | tagged {tag : Tree.Expr} {quasis : List Tree.TemplateElement} {es : List Tree.Expr}
      (h : ChainTree tag false) (hquasis : AreQuasis quasis es) (hes : ∀ e ∈ es, ChainTree e false) :
      ChainTree (.tagged tag quasis es) false
  | importCall {source : Tree.Expr} (h : ChainTree source false) : ChainTree (.importCall source) false
  | chain {e : Tree.Expr} (h : ChainTree e true) : ChainTree (.chain e) false

section Forms

variable {level : Nat} {noIn linked : Bool} {e : Tree.Expr}

/-- Where no operand of an operator is asked for, a chain has no parentheses. -/
theorem ChainTree.enclose (h : ChainTree e linked) {least : Nat} (hle : least ≤ Precedence.call) (d : Doc) :
    enclose noIn least e d = d := by
  have htight : isIn e = false ∧ Precedence.call ≤ precedence e := by
    cases h with
    | number _ hpos => exact ⟨rfl, by rw [precedence, hpos]; decide⟩
    | _ => exact ⟨rfl, Nat.le_of_ble_eq_true rfl⟩
  exact enclose_of_tight htight.1 (Nat.le_trans hle htight.2) d

/-! ## Documents of plain text -/

/-- A document that is the same text under all options. -/
def IsText (text : List Char) (d : Doc) : Prop :=
  ∀ o : Options, d.render o = text

theorem isText_word (s : String) : IsText s.toList (word s) :=
  fun o => render_word o s

theorem IsText.append {text text' : List Char} {d d' : Doc} (h : IsText text d) (h' : IsText text' d') :
    IsText (text ++ text') (d ++ d') := by
  intro o
  rw [render_append, h o, h' o]

theorem IsText.of_eq {text text' : List Char} {d : Doc} (h : IsText text d) (heq : text = text') :
    IsText text' d :=
  heq ▸ h

theorem IsText.parens {text : List Char} {d : Doc} (h : IsText text d) :
    IsText ('(' :: (text ++ [')'])) (parens d) := by
  intro o
  simp [Emit.parens, h o]

theorem IsText.commaSeparated {texts : List (List Char)} {ds : List Doc}
    (h : List.Forall₂ IsText texts ds) : IsText (commaText texts) (commaSeparated ds) := by
  induction h with
  | nil => exact fun _ => rfl
  | cons h hrest ih =>
    cases hrest with
    | nil => exact h
    | cons => exact (h.append (isText_word ", ")).append ih |>.of_eq (by simp [commaText])

theorem isText_optional (optional : Bool) : IsText (optionalMark optional) (modifier optional "?.") := by
  cases optional with
  | false => exact fun _ => rfl
  | true => exact isText_word "?."

theorem isText_dot (optional : Bool) : IsText (dotText optional) (word (if optional then "?." else ".")) := by
  cases optional with
  | false => exact isText_word "."
  | true => exact isText_word "?."

/-! ## Lowering -/

theorem lower_member (object property : Script.Expr) (computed optional : Bool) :
    (Script.Expr.member object property computed optional).lower = (do
      let o ← object.lower
      let p ← property.lower
      pure (.member o p computed optional)) :=
  rfl

theorem lower_call (callee : Script.Expr) (arguments : List Script.Expr) (optional : Bool) :
    (Script.Expr.call callee arguments optional).lower = (do
      let c ← callee.lower
      let es ← lowerExprs arguments
      pure (.call c es optional)) :=
  rfl

theorem lower_new (callee : Script.Expr) (arguments : List Script.Expr) :
    (Script.Expr.new callee arguments).lower = (do
      let c ← callee.lower
      let es ← lowerExprs arguments
      pure (.new c es)) :=
  rfl

theorem lower_tagged (tag : Script.Expr) (quasis : List Tree.TemplateElement)
    (expressions : List Script.Expr) :
    (Script.Expr.tagged tag quasis expressions).lower = (do
      let t ← tag.lower
      let es ← lowerExprs expressions
      pure (.tagged t quasis es)) :=
  rfl

theorem lower_importCall (source : Script.Expr) :
    (Script.Expr.importCall source).lower = (do
      let s ← source.lower
      pure (.importCall s)) :=
  rfl

theorem lower_chain (inner : Script.Expr) :
    (Script.Expr.chain inner).lower = (do
      let e ← inner.lower
      pure (.chain e)) :=
  rfl

theorem lowerExprs_cons (first : Script.Expr) (others : List Script.Expr) :
    lowerExprs (first :: others) = (do
      let e ← first.lower
      let es ← lowerExprs others
      pure (e :: es)) :=
  rfl

/-! ## The texts of trees -/

/-- An expression is printed as the text of a chain. In a chain that is still open the links of the text
are those of the tree; otherwise the text as a whole is read as the tree. -/
structure Chained (e : Tree.Expr) (linked : Bool) (a : ChainItem) : Prop where
  printed : ∀ level noIn, ∃ d, exprDoc level noIn e = .ok d ∧ IsText a.text d
  chain : ChainText a.text a.expr a.optional a.calls
  ends : linked = false → a.value.lower = .ok e
  links : (∀ inner, e ≠ .chain inner) → a.optional = linked ∧ a.expr.lower = .ok e
  calls : a.calls = true → hasCall e = true

/-- A form that is no closed chain. -/
theorem Chained.of_links {text : List Char} {s : Script.Expr} {calls : Bool}
    (hprinted : ∀ level noIn, ∃ d, exprDoc level noIn e = .ok d ∧ IsText text d)
    (hchain : ChainText text s linked calls) (hlower : s.lower = .ok e)
    (hcalls : calls = true → hasCall e = true) : Chained e linked ⟨text, s, linked, calls⟩ where
  printed := hprinted
  chain := hchain
  ends := by
    rintro rfl
    exact hlower
  links _ := ⟨rfl, hlower⟩
  calls := hcalls

/-- An expression in front of a link, where `enclosed` is its document with the parentheses it has there. -/
structure Enclosed (e : Tree.Expr) (linked : Bool) (a : ChainItem) (enclosed : Doc → Doc) (b : ChainItem) :
    Prop where
  isText : ∀ d, IsText a.text d → IsText b.text (enclosed d)
  chain : ChainText b.text b.expr linked b.calls
  lower : b.expr.lower = .ok e
  calls : b.calls = true → hasCall e = true

theorem Chained.enclosed {a : ChainItem} (h : Chained e linked a) (hopen : ∀ inner, e ≠ .chain inner) :
    Enclosed e linked a id a where
  isText _ hd := hd
  chain := by
    rw [← (h.links hopen).1]
    exact h.chain
  lower := (h.links hopen).2
  calls := h.calls

/-- In parentheses a chain ends, and what is inside does not count any more. -/
theorem Chained.inParens {a : ChainItem} (h : Chained e false a) (hbare : a.expr.isBare = false) :
    Enclosed e false a parens ⟨'(' :: (a.text ++ [')']), .wrapped .parens a.value, false, false⟩ where
  isText _ hd := hd.parens
  chain := .parens h.chain hbare
  lower := h.ends rfl
  calls := nofun

theorem isBare_of_optional {text : List Char} {s : Script.Expr} {calls : Bool}
    (h : ChainText text s true calls) : s.isBare = false := by
  generalize htrue : true = optional at h
  cases h with
  | name => cases htrue
  | this => cases htrue
  | _ => rfl

theorem Chained.eq_of_isBare {a : ChainItem} (h : Chained e false a) (hbare : a.expr.isBare = true) :
    (∃ name, e = .identifier name) ∨ e = .thisRef := by
  obtain ⟨text, s, optional, calls⟩ := a
  have hclosed : optional = false := by
    cases optional with
    | false => rfl
    | true => cases hbare.symm.trans (isBare_of_optional h.chain)
  subst hclosed
  have hlower : s.lower = .ok e := h.ends rfl
  cases s with
  | identifier name =>
    cases hlower
    exact .inl ⟨name, rfl⟩
  | thisRef =>
    cases hlower
    exact .inr rfl
  | _ => cases hbare

/-- The callee of a call, or the tag of a template. -/
theorem Chained.callee {a : ChainItem} (htree : ChainTree e linked) (h : Chained e linked a) :
    ∃ b, ∀ noIn, Enclosed e linked a (encloseCallee noIn e) b := by
  by_cases hopen : ∃ inner, e = .chain inner
  · obtain ⟨inner, rfl⟩ := hopen
    cases htree with
    | chain =>
      refine ⟨_, fun noIn => h.inParens (Bool.eq_false_iff.2 fun hbare => ?_)⟩
      rcases h.eq_of_isBare hbare with ⟨_, h⟩ | h <;> cases h
  · have hne : ∀ inner, e ≠ .chain inner := fun inner he => hopen ⟨inner, he⟩
    refine ⟨a, fun noIn => ?_⟩
    have hplain : encloseCallee noIn e = id := by
      funext d
      rw [encloseCallee]
      · exact htree.enclose (Nat.le_refl _) d
      · exact hne
    rw [hplain]
    exact h.enclosed hne

/-- Only a number is digits and nothing else. -/
theorem eq_number_of_digits {text : List Char} {s : Script.Expr} {optional calls : Bool}
    (h : ChainText text s optional calls) (hdigits : text.all isAsciiDigit = true) :
    ∃ x, s = .literal ⟨.number x, none, none⟩ := by
  have hdigit : ∀ c, isAsciiDigit c = false → c ∉ text := by
    intro c hc hmem
    cases hc.symm.trans (List.all_eq_true.1 hdigits c hmem)
  cases h with
  | number => exact ⟨_, rfl⟩
  | name h =>
    obtain ⟨c, others, hcons, hstart⟩ := head_of_identifierName h
    refine absurd ?_ (hdigit c ?_)
    · simp [hcons]
    · cases hc : isAsciiDigit c with
      | false => rfl
      | true => cases hstart.symm.trans (isIdentifierStart_of_digit hc)
  | this => exact absurd (by simp) (hdigit 't' (by decide))
  | parens => exact absurd (by simp) (hdigit '(' (by decide))
  | new => exact absurd (by simp) (hdigit 'n' (by decide))
  | importCall => exact absurd (by simp) (hdigit 'i' (by decide))
  | @dot _ _ _ _ _ _ mark => exact absurd (by cases mark <;> simp [dotText]) (hdigit '.' (by decide))
  | index => exact absurd (by simp) (hdigit '[' (by decide))
  | call => exact absurd (by simp [argumentText]) (hdigit '(' (by decide))
  | tagged => exact absurd (by simp) (hdigit '`' (by decide))

/-- The object of an access. In front of a dot it is no row of digits. -/
theorem Chained.object {a : ChainItem} (htree : ChainTree e linked) (h : Chained e linked a)
    (computed : Bool) : ∃ b, (∀ noIn, Enclosed e linked a (objectDoc noIn computed e) b) ∧
      (computed = false → b.text.all isAsciiDigit = false) := by
  obtain ⟨b, hb⟩ := h.callee htree
  cases computed with
  | true => exact ⟨b, hb, fun h => absurd h.symm Bool.false_ne_true⟩
  | false =>
    cases hdigits : b.text.all isAsciiDigit with
    | false =>
      refine ⟨b, fun noIn => ⟨fun d hd => ?_, (hb noIn).chain, (hb noIn).lower, (hb noIn).calls⟩,
        fun _ => hdigits⟩
      have hchars := (hb noIn).isText d hd
      have hdot : swallowsDot e (encloseCallee noIn e d) = false := by
        unfold swallowsDot
        split
        · rw [Doc.chars, hchars, hdigits]
        · rfl
      rw [objectDoc, hdot, Bool.and_false]
      exact hchars
    | true =>
      obtain ⟨x, hx⟩ := eq_number_of_digits (hb false).chain hdigits
      obtain rfl : .literal ⟨.number x, none, none⟩ = e := by
        have hlower := (hb false).lower
        rw [hx] at hlower
        exact Except.ok.inj hlower
      cases htree with
      | number =>
        refine ⟨⟨'(' :: (b.text ++ [')']), .wrapped .parens b.expr, false, false⟩,
          fun noIn => ⟨fun d hd => ?_, .parens (hb noIn).chain (by rw [hx]; rfl), (hb noIn).lower,
            fun h => absurd h Bool.false_ne_true⟩,
          fun _ => rfl⟩
        have hchars := (hb noIn).isText d hd
        have hdot : ∀ d : Doc, IsText b.text d →
            swallowsDot (.literal ⟨.number x, none, none⟩) d = true := by
          intro d hd
          rw [swallowsDot, Doc.chars, hd, hdigits]
        rw [objectDoc, hdot _ hchars]
        exact hchars.parens

/-- The callee of a `new`, which has neither calls nor optional links outside of parentheses. -/
theorem Chained.newCallee {a : ChainItem} (h : Chained e false a) :
    ∃ b, Enclosed e false a
      (fun d => if hasCall e || precedence e < Precedence.member then parens d else d) b ∧
      b.calls = false ∧ Script.Reader.isImportCall b.expr = false := by
  cases hclosed : hasCall e || precedence e < Precedence.member with
  | true =>
    simp only [if_true]
    refine ⟨_, h.inParens (Bool.eq_false_iff.2 fun hbare => ?_), rfl, rfl⟩
    rcases h.eq_of_isBare hbare with ⟨name, rfl⟩ | rfl <;> cases hclosed
  | false =>
    simp only [Bool.or_eq_false_iff, decide_eq_false_iff_not, Nat.not_lt] at hclosed
    have hne : ∀ inner, e ≠ .chain inner := by
      rintro inner rfl
      cases hclosed.1
    have henclosed := h.enclosed hne
    simp only [Bool.false_eq_true, if_false]
    refine ⟨a, henclosed, Bool.eq_false_iff.2 fun hcalls => ?_, ?_⟩
    · cases hclosed.1.symm.trans (h.calls hcalls)
    · have hchain := henclosed.chain
      have hlower := henclosed.lower
      cases hexpr : a.expr with
      | importCall source =>
        rw [hexpr, lower_importCall] at hlower
        cases hsource : source.lower with
        | error =>
          rw [hsource] at hlower
          cases hlower
        | ok s =>
          rw [hsource] at hlower
          cases hlower
          exact absurd hclosed.2 (Nat.not_le_of_lt (Nat.le_of_ble_eq_true rfl))
      | unsupported construct =>
        rw [hexpr] at hlower
        cases hlower
      | _ => rfl

/-! ## Lists and templates -/

/-- The arguments of a call. -/
theorem chained_arguments {arguments : List Tree.Expr} (htrees : ∀ e ∈ arguments, ChainTree e false)
    (h : ∀ e ∈ arguments, ∃ a, Chained e false a) :
    ∃ args : List ChainItem,
      (∀ level noIn, ∃ ds, exprDocs level noIn arguments = .ok ds ∧
        List.Forall₂ IsText (args.map (·.text)) ds) ∧
      (∀ a ∈ args, ChainText a.text a.expr a.optional a.calls) ∧
      lowerExprs (args.map (·.value)) = .ok arguments := by
  induction arguments with
  | nil => exact ⟨[], fun _ _ => ⟨[], rfl, .nil⟩, nofun, rfl⟩
  | cons e arguments ih =>
    obtain ⟨a, ha⟩ := h e List.mem_cons_self
    obtain ⟨args, hprinted, hchains, hlower⟩ :=
      ih (fun e he => htrees e (List.mem_cons_of_mem _ he)) fun e he => h e (List.mem_cons_of_mem _ he)
    refine ⟨a :: args, fun level noIn => ?_, ?_, ?_⟩
    · obtain ⟨d, hd, htext⟩ := ha.printed level noIn
      obtain ⟨ds, hds, htexts⟩ := hprinted level noIn
      have henclose : enclose noIn Precedence.assignment e d = d :=
        (htrees e List.mem_cons_self).enclose (by decide) d
      refine ⟨d :: ds, ?_, .cons htext htexts⟩
      rw [exprDocs_cons, hd, hds]
      exact congrArg (fun d => Except.ok (d :: ds)) henclose
    · rintro b (_ | ⟨_, hb⟩)
      · exact ha.chain
      · exact hchains b hb
    · rw [List.map_cons, lowerExprs_cons, ha.ends rfl, hlower]
      rfl

theorem isText_arguments {args : List ChainItem} {ds : List Doc}
    (h : List.Forall₂ IsText (args.map (·.text)) ds) :
    IsText (argumentText args) (parens (commaSeparated ds)) :=
  (IsText.commaSeparated h).parens

theorem templateDoc_cons (q : Tree.TemplateElement) (quasis : List Tree.TemplateElement) (es : List Tree.Expr) :
    templateDoc level noIn (q :: quasis) (e :: es) = (do
      let d ← exprDoc level noIn e
      let rest ← templateDoc level noIn quasis es
      pure (word q.raw ++ word "$\x7b" ++ enclose noIn Precedence.sequence e d ++ word "\x7d" ++ rest)) :=
  rfl

/-- The pieces and expressions of a template. -/
theorem chained_template {quasis : List Tree.TemplateElement} {es : List Tree.Expr}
    (hquasis : AreQuasis quasis es) (htrees : ∀ e ∈ es, ChainTree e false)
    (h : ∀ e ∈ es, ∃ a, Chained e false a) :
    ∃ raw cooked, ∃ parts : List TemplatePart,
      quasis = ⟨parts.isEmpty, raw, cooked⟩ :: partPieces parts ∧ IsPiece raw cooked parts.isEmpty ∧
      ArePieces parts ∧
      (∀ p ∈ parts, ChainText p.item.text p.item.expr p.item.optional p.item.calls) ∧
      lowerExprs (parts.map (·.item.value)) = .ok es ∧
      ∀ level noIn, ∃ d, templateDoc level noIn quasis es = .ok d ∧
        IsText (raw.toList ++ (pieceEnd parts.isEmpty ++ partsText parts)) (d ++ word "`") := by
  induction es generalizing quasis with
  | nil =>
    obtain _ | ⟨⟨tail, raw, cooked⟩, _ | ⟨q, quasis⟩⟩ := quasis
    · cases hquasis
    · obtain ⟨rfl, hpiece⟩ := hquasis
      refine ⟨raw, cooked, [], rfl, hpiece, trivial, nofun, rfl, fun level noIn => ⟨_, rfl, ?_⟩⟩
      exact (isText_word raw).append (isText_word "`")
    · cases hquasis
  | cons e es ih =>
    obtain _ | ⟨⟨tail, raw, cooked⟩, quasis⟩ := quasis
    · cases hquasis
    · rw [AreQuasis] at hquasis
      obtain ⟨rfl, hpiece, hquasis⟩ := hquasis
      obtain ⟨a, ha⟩ := h e List.mem_cons_self
      obtain ⟨raw', cooked', parts, rfl, hfirst, hpieces, hchains, hlower, hprinted⟩ :=
        ih hquasis (fun e he => htrees e (List.mem_cons_of_mem _ he))
          fun e he => h e (List.mem_cons_of_mem _ he)
      refine ⟨raw, cooked, ⟨a, raw', cooked'⟩ :: parts, rfl, hpiece, ⟨hfirst, hpieces⟩, ?_, ?_,
        fun level noIn => ?_⟩
      · rintro p (_ | ⟨_, hp⟩)
        · exact ha.chain
        · exact hchains p hp
      · rw [List.map_cons, lowerExprs_cons, ha.ends rfl, hlower]
        rfl
      · obtain ⟨d, hd, htext⟩ := ha.printed level noIn
        obtain ⟨ds, hds, htexts⟩ := hprinted level noIn
        have henclose : enclose noIn Precedence.sequence e d = d :=
          (htrees e List.mem_cons_self).enclose (by decide) d
        refine ⟨word raw ++ word "$\x7b" ++ d ++ word "\x7d" ++ ds, ?_, ?_⟩
        · rw [templateDoc_cons, hd, hds]
          exact congrArg (fun d => Except.ok (word raw ++ word "$\x7b" ++ d ++ word "\x7d" ++ ds)) henclose
        · rw [List.append_assoc _ ds]
          refine ((((isText_word raw).append (isText_word "$\x7b")).append htext).append
            (isText_word "\x7d")).append htexts |>.of_eq ?_
          simp [partsText, pieceEnd]

/-! ## Forms -/

theorem exprDoc_access (object property : Tree.Expr) (computed optional : Bool) :
    exprDoc level noIn (.member object property computed optional) = (do
      let o ← exprDoc level noIn object
      accessDoc noIn object o property (exprDoc level noIn property) computed optional) :=
  rfl

theorem exprDoc_call (callee : Tree.Expr) (arguments : List Tree.Expr) (optional : Bool) :
    exprDoc level noIn (.call callee arguments optional) = (do
      let c ← exprDoc level noIn callee
      let ds ← exprDocs level noIn arguments
      pure (encloseCallee noIn callee c ++ modifier optional "?." ++ parens (commaSeparated ds))) :=
  rfl

theorem exprDoc_new (callee : Tree.Expr) (arguments : List Tree.Expr) :
    exprDoc level noIn (.new callee arguments) = (do
      let c ← exprDoc level noIn callee
      let ds ← exprDocs level noIn arguments
      pure (word "new " ++
        (if hasCall callee || precedence callee < Precedence.member then parens c else c) ++
        parens (commaSeparated ds))) :=
  rfl

theorem exprDoc_tagged (tag : Tree.Expr) (quasis : List Tree.TemplateElement) (es : List Tree.Expr) :
    exprDoc level noIn (.tagged tag quasis es) = (do
      let t ← exprDoc level noIn tag
      let d ← templateDoc level noIn quasis es
      pure (encloseCallee noIn tag t ++ word "`" ++ d ++ word "`")) :=
  rfl

theorem exprDoc_importCall (source : Tree.Expr) :
    exprDoc level noIn (.importCall source) = (do
      let d ← exprDoc level noIn source
      pure (word "import(" ++ enclose noIn Precedence.assignment source d ++ word ")")) :=
  rfl

namespace Chained

variable {a : ChainItem}

theorem property (htree : ChainTree e linked) (h : Chained e linked a) {property : Tree.Expr}
    (hproperty : IsProperty property) (optional : Bool) :
    ∃ b, Chained (.member e property false optional) (linked || optional) b := by
  obtain ⟨o, ho, hdigits⟩ := h.object htree false
  obtain ⟨name, p, hp, hlower, haccess⟩ : ∃ name p, PropertyText name p ∧ p.lower = .ok property ∧
      ∀ noIn d doc, IsText a.text d → ∃ d', accessDoc noIn e d property doc false optional = .ok d' ∧
        IsText (o.text ++ (dotText optional ++ name)) d' := by
    cases hproperty with
    | @name w hw =>
      refine ⟨w.toList, .identifier w, .name hw, rfl, fun noIn d _ hd => ⟨_, rfl, ?_⟩⟩
      exact ((((ho noIn).isText d hd).append (isText_dot optional)).append (isText_word w)).of_eq
        (List.append_assoc ..)
    | @privateName w hw =>
      refine ⟨'#' :: w.toList, .privateName w, .privateName hw, rfl, fun noIn d _ hd => ⟨_, rfl, ?_⟩⟩
      exact (((((ho noIn).isText d hd).append (isText_dot optional)).append (isText_word "#")).append
        (isText_word w)).of_eq (by simp)
  refine ⟨_, of_links (fun level noIn => ?_) (.dot (ho false).chain hp fun _ => hdigits rfl) ?_
    (ho false).calls⟩
  · obtain ⟨d, hd, htext⟩ := h.printed level noIn
    rw [exprDoc_access, hd]
    exact haccess noIn d (exprDoc level noIn property) htext
  · rw [lower_member, (ho false).lower, hlower]
    rfl

theorem index (htree : ChainTree e linked) (h : Chained e linked a) {key : Tree.Expr} {k : ChainItem}
    (hkeyTree : ChainTree key false) (hkey : Chained key false k) (optional : Bool) :
    ∃ b, Chained (.member e key true optional) (linked || optional) b := by
  obtain ⟨o, ho, -⟩ := h.object htree true
  refine ⟨_, of_links (fun level noIn => ?_) (.index (ho false).chain hkey.chain) ?_ (ho false).calls⟩
  · obtain ⟨d, hd, htext⟩ := h.printed level noIn
    obtain ⟨dk, hdk, htextk⟩ := hkey.printed level noIn
    have henclose : enclose noIn Precedence.sequence key dk = dk := hkeyTree.enclose (by decide) dk
    refine ⟨objectDoc noIn true e d ++ modifier optional "?." ++ word "[" ++ dk ++ word "]", ?_, ?_⟩
    · rw [exprDoc_access, hd, hdk]
      exact congrArg (fun dk => Except.ok (objectDoc noIn true e d ++ modifier optional "?." ++ word "[" ++
        dk ++ word "]")) henclose
    · exact ((((((ho noIn).isText d htext).append (isText_optional optional)).append
        (isText_word "[")).append htextk).append (isText_word "]")).of_eq (by simp)
  · rw [lower_member, (ho false).lower, ← ChainItem.value, hkey.ends rfl]
    rfl

theorem call (htree : ChainTree e linked) (h : Chained e linked a) {arguments : List Tree.Expr}
    (htrees : ∀ e ∈ arguments, ChainTree e false) (harguments : ∀ e ∈ arguments, ∃ a, Chained e false a)
    (optional : Bool) : ∃ b, Chained (.call e arguments optional) (linked || optional) b := by
  obtain ⟨c, hc⟩ := h.callee htree
  obtain ⟨args, hprinted, hchains, hlower⟩ := chained_arguments htrees harguments
  refine ⟨_, of_links (fun level noIn => ?_) (.call (hc false).chain hchains) ?_ fun _ => rfl⟩
  · obtain ⟨d, hd, htext⟩ := h.printed level noIn
    obtain ⟨ds, hds, htexts⟩ := hprinted level noIn
    refine ⟨_, by rw [exprDoc_call, hd, hds]; rfl, ?_⟩
    exact ((((hc noIn).isText d htext).append (isText_optional optional)).append
      (isText_arguments htexts)).of_eq (List.append_assoc ..)
  · rw [lower_call, (hc false).lower, hlower]
    rfl

theorem new (h : Chained e false a) {arguments : List Tree.Expr}
    (htrees : ∀ e ∈ arguments, ChainTree e false) (harguments : ∀ e ∈ arguments, ∃ a, Chained e false a) :
    ∃ b, Chained (.new e arguments) false b := by
  obtain ⟨c, hc, hcalls, himport⟩ := h.newCallee
  obtain ⟨args, hprinted, hchains, hlower⟩ := chained_arguments htrees harguments
  have hchain := hc.chain
  rw [hcalls] at hchain
  refine ⟨_, of_links (fun level noIn => ?_) (.new hchain himport hchains) ?_ nofun⟩
  · obtain ⟨d, hd, htext⟩ := h.printed level noIn
    obtain ⟨ds, hds, htexts⟩ := hprinted level noIn
    refine ⟨_, by rw [exprDoc_new, hd, hds]; rfl, ?_⟩
    exact (((isText_word "new ").append (hc.isText d htext)).append (isText_arguments htexts)).of_eq
      (by simp)
  · rw [lower_new, hc.lower, hlower]
    rfl

theorem tagged (htree : ChainTree e false) (h : Chained e false a) {quasis : List Tree.TemplateElement}
    {es : List Tree.Expr} (hquasis : AreQuasis quasis es) (htrees : ∀ e ∈ es, ChainTree e false)
    (hes : ∀ e ∈ es, ∃ a, Chained e false a) : ∃ b, Chained (.tagged e quasis es) false b := by
  obtain ⟨t, ht⟩ := h.callee htree
  obtain ⟨raw, cooked, parts, rfl, hfirst, hpieces, hchains, hlower, hprinted⟩ :=
    chained_template hquasis htrees hes
  refine ⟨_, of_links (fun level noIn => ?_) (.tagged (ht false).chain hfirst hpieces hchains) ?_
    (ht false).calls⟩
  · obtain ⟨d, hd, htext⟩ := h.printed level noIn
    obtain ⟨dt, hdt, htextt⟩ := hprinted level noIn
    refine ⟨_, by rw [exprDoc_tagged, hd, hdt]; rfl, ?_⟩
    rw [List.append_assoc _ dt]
    exact ((((ht noIn).isText d htext).append (isText_word "`")).append htextt).of_eq (by simp)
  · rw [lower_tagged, (ht false).lower, hlower]
    rfl

theorem importCall (htree : ChainTree e false) (h : Chained e false a) :
    ∃ b, Chained (.importCall e) false b := by
  refine ⟨_, of_links (fun level noIn => ?_) (.importCall h.chain) ?_ nofun⟩
  · obtain ⟨d, hd, htext⟩ := h.printed level noIn
    have henclose : enclose noIn Precedence.assignment e d = d := htree.enclose (by decide) d
    refine ⟨word "import(" ++ d ++ word ")", ?_, ?_⟩
    · rw [exprDoc_importCall, hd]
      exact congrArg (fun d => Except.ok (word "import(" ++ d ++ word ")")) henclose
    · exact (((isText_word "import(").append htext).append (isText_word ")")).of_eq (by simp)
  · rw [lower_importCall, ← ChainItem.value, h.ends rfl]
    rfl

/-- An optional chain that is closed: where it ends, the text has no sign of it. -/
theorem closed (htree : ChainTree e true) (h : Chained e true a) : Chained (.chain e) false a where
  printed := h.printed
  chain := h.chain
  ends _ := by
    have hopen : ∀ inner, e ≠ .chain inner := by
      rintro inner rfl
      cases htree
    obtain ⟨hoptional, hlower⟩ := h.links hopen
    rw [ChainItem.value, hoptional, Script.Expr.ended, if_pos rfl, lower_chain, hlower]
    rfl
  links hopen := absurd rfl (hopen e)
  calls _ := rfl

end Chained

/-- Every tree of a chain is printed as the text of a chain. -/
theorem ChainTree.chained (h : ChainTree e linked) : ∃ a, Chained e linked a := by
  induction h with
  | @name name h =>
    have hreference := h.reference
    rw [Grammar.isReference, Bool.and_eq_true, bne_iff_ne] at hreference
    exact ⟨_, .of_links (fun _ _ => ⟨_, rfl, isText_word name⟩)
      (.name h.identifier hreference.1 hreference.2) rfl nofun⟩
  | thisRef => exact ⟨_, .of_links (fun _ _ => ⟨_, rfl, isText_word "this"⟩) .this rfl nofun⟩
  | @number x hfinite hpos =>
    exact ⟨_, .of_links (fun _ _ => ⟨_, rfl, isText_word x.render⟩) (.number hfinite hpos) rfl nofun⟩
  | property htree hproperty optional ih =>
    obtain ⟨a, ha⟩ := ih
    exact ha.property htree hproperty optional
  | index htree hkey optional ih ihkey =>
    obtain ⟨a, ha⟩ := ih
    obtain ⟨k, hk⟩ := ihkey
    exact ha.index htree hkey hk optional
  | call htree htrees optional ih ihs =>
    obtain ⟨a, ha⟩ := ih
    exact ha.call htree htrees ihs optional
  | new _ htrees ih ihs =>
    obtain ⟨a, ha⟩ := ih
    exact ha.new htrees ihs
  | tagged htree hquasis htrees ih ihs =>
    obtain ⟨a, ha⟩ := ih
    exact ha.tagged htree hquasis htrees ihs
  | importCall htree ih =>
    obtain ⟨a, ha⟩ := ih
    exact ha.importCall htree
  | chain htree ih =>
    obtain ⟨a, ha⟩ := ih
    exact ⟨a, ha.closed htree⟩

/-- A tree of a chain is printed, and its text is parsed as the tree again. -/
theorem chains_read_back (h : ChainTree e false) (o : Options) :
    ∃ code, expression e o = .ok code ∧ parseExpression code.toList = .ok e := by
  obtain ⟨a, ha⟩ := h.chained
  obtain ⟨d, hd, htext⟩ := ha.printed 0 false
  have henclose : enclose false Precedence.sequence e d = d := h.enclose (by decide) d
  refine ⟨String.ofList a.text, ?_, ?_⟩
  · rw [expression, expressionDoc, hd, ← htext o]
    exact congrArg (fun d => Except.ok (Doc.text o d)) henclose
  · rw [String.toList_ofList]
    exact ha.chain.parses (ha.ends rfl)

end Forms

/-- An optional chain as the callee of a `new`, whose arguments are an access to a whole number and a call
of `import`, and whose value is the tag of a template that holds another `new`. -/
def tangledChain : Tree.Expr :=
  .tagged
    (.member
      (.new
        (.chain (.call (.member (.identifier "a") (.thisRef) true true) [.identifier "b"] false))
        [.member (.literal { value := .number (.ofNat 1) }) (.identifier "new") false false,
          .importCall (.member .thisRef (.privateName "c") false false)])
      (.identifier "d") false false)
    [⟨false, "x", some "x"⟩, ⟨true, "\\u", none⟩]
    [.new (.new (.identifier "async") []) []]

theorem chainTree_tangledChain : ChainTree tangledChain false := by
  have ha : ChainTree (.identifier "a") false := .name ⟨by decide, by decide⟩
  have hb : ChainTree (.identifier "b") false := .name ⟨by decide, by decide⟩
  have hasync : ChainTree (.identifier "async") false := .name ⟨by decide, by decide⟩
  have hcallee : ChainTree (.chain (.call (.member (.identifier "a") .thisRef true true)
      [.identifier "b"] false)) false :=
    .chain (.call (.index ha .thisRef true) (by simpa using hb) false)
  have hnumber : ChainTree (.member (.literal { value := .number (.ofNat 1) }) (.identifier "new") false
      false) false :=
    .property (.number rfl rfl) (.name (by decide)) false
  have himport : ChainTree (.importCall (.member .thisRef (.privateName "c") false false)) false :=
    .importCall (.property .thisRef (.privateName (by decide)) false)
  have hinner : ChainTree (.new (.new (.identifier "async") []) []) false :=
    .new (.new hasync nofun) nofun
  have hquasis : AreQuasis [⟨false, "x", some "x"⟩, ⟨true, "\\u", none⟩]
      [.new (.new (.identifier "async") []) []] :=
    ⟨rfl, ⟨"x$\x7b".toList, [], rfl⟩, rfl, ⟨"\\u`".toList, [], rfl⟩⟩
  exact .tagged (.property (.new hcallee (by simp [hnumber, himport])) (.name (by decide)) false) hquasis
    (by simpa using hinner)

example : expression tangledChain {} =
    .ok "new (a?.[this](b))((1).new, import(this.#c)).d`x$\x7bnew (new async())()\x7d\\u`" :=
  rfl

theorem tangledChain_read_back : ChainTree tangledChain false ∧
    ∃ code, expression tangledChain {} = .ok code ∧ parseExpression code.toList = .ok tangledChain :=
  ⟨chainTree_tangledChain, chains_read_back chainTree_tangledChain {}⟩

end CustomElement.Emit
