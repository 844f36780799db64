import CustomElement.Proofs.Script.LeadsExpressions
import CustomElement.Proofs.Script.TextPlaces

/-!
# Texts of chains

`ChainText text e optional calls` says how a chain of accesses and calls is written without blanks where
none is needed, and what it is read as: `optional` tells whether it has an optional link and `calls`
whether it has a call, both outside of parentheses. What such a text starts with is told by
`ChainText.head`; it decides whether the text could be the start of an arrow function.
-/

namespace CustomElement.Script

open CustomElement.Text CustomElement.Grammar

/-- A chain with an optional link is marked as such where it ends. -/
def Expr.ended (e : Expr) (optional : Bool) : Expr :=
  if optional then .chain e else e

/-- A name by itself, or `this`. -/
def Expr.isBare : Expr → Bool
  | .identifier _ => true
  | .thisRef => true
  | _ => false

/-- A text, and the chain that it is read as. -/
structure ChainItem where
  text : List Char
  expr : Expr
  optional : Bool
  calls : Bool

/-- The expression of an item. -/
def ChainItem.value (a : ChainItem) : Expr :=
  a.expr.ended a.optional

/-- Texts with commas between them. -/
def commaText : List (List Char) → List Char
  | [] => []
  | [text] => text
  | text :: rest => text ++ ',' :: ' ' :: commaText rest

/-- Arguments with their parentheses. -/
def argumentText (args : List ChainItem) : List Char :=
  '(' :: (commaText (args.map (·.text)) ++ [')'])

/-- An expression in a template, and the piece behind it. -/
structure TemplatePart where
  item : ChainItem
  raw : String
  cooked : Option String

/-- The text of the parts behind the first piece of a template. -/
def partsText : List TemplatePart → List Char
  | [] => []
  | p :: rest => p.item.text ++ '\x7d' :: (p.raw.toList ++ (pieceEnd rest.isEmpty ++ partsText rest))

/-- The pieces of the parts. -/
def partPieces : List TemplatePart → List Tree.TemplateElement
  | [] => []
  | p :: rest => ⟨rest.isEmpty, p.raw, p.cooked⟩ :: partPieces rest

/-- The last part ends the template, and no other does. -/
def ArePieces : List TemplatePart → Prop
  | [] => True
  | p :: rest => IsPiece p.raw p.cooked rest.isEmpty ∧ ArePieces rest

/-- The mark in front of an optional link. -/
def optionalMark (optional : Bool) : List Char :=
  if optional then ['?', '.'] else []

/-- What stands in front of the name of a property. -/
def dotText (optional : Bool) : List Char :=
  if optional then ['?', '.'] else ['.']

/-- The text of a property behind a dot, and what it is read as. -/
inductive PropertyText : List Char → Expr → Prop
  | name {w : String} (h : isIdentifierName w.toList = true) : PropertyText w.toList (.identifier w)
  | privateName {w : String} (h : isIdentifierName w.toList = true) :
      PropertyText ('#' :: w.toList) (.privateName w)

/-- The text of a chain, what it is read as, and whether it has optional links and calls. -/
inductive ChainText : List Char → Expr → Bool → Bool → Prop
  | name {w : String} (h : isIdentifierName w.toList = true) (hw : isNameWord w = true)
      (hawait : w ≠ "await") : ChainText w.toList (.identifier w) false false
  | this : ChainText "this".toList .thisRef false false
  | number {x : Double} (hfinite : x.isFinite = true) (hpos : x.negative = false) :
      ChainText x.render.toList (.literal ⟨.number x, none, none⟩) false false
  | parens {text : List Char} {e : Expr} {optional calls : Bool} (h : ChainText text e optional calls)
      (hbare : e.isBare = false) :
      ChainText ('(' :: (text ++ [')'])) (.wrapped .parens (e.ended optional)) false false
  | new {text : List Char} {e : Expr} {args : List ChainItem} (h : ChainText text e false false)
      (himport : Reader.isImportCall e = false)
      (hargs : ∀ a ∈ args, ChainText a.text a.expr a.optional a.calls) :
      ChainText ("new".toList ++ ' ' :: (text ++ argumentText args)) (.new e (args.map (·.value)))
        false false
  | importCall {text : List Char} {e : Expr} {optional calls : Bool}
      (h : ChainText text e optional calls) :
      ChainText ("import".toList ++ '(' :: (text ++ [')'])) (.importCall (e.ended optional)) false false
  | dot {text name : List Char} {e p : Expr} {optional calls mark : Bool}
      (h : ChainText text e optional calls) (hp : PropertyText name p)
      (hdigits : mark = false → text.all isAsciiDigit = false) :
      ChainText (text ++ (dotText mark ++ name)) (.member e p false mark) (optional || mark) calls
  | index {text keyText : List Char} {e key : Expr} {optional calls keyOptional keyCalls mark : Bool}
      (h : ChainText text e optional calls) (hkey : ChainText keyText key keyOptional keyCalls) :
      ChainText (text ++ (optionalMark mark ++ '[' :: (keyText ++ [']'])))
        (.member e (key.ended keyOptional) true mark) (optional || mark) calls
  | call {text : List Char} {e : Expr} {optional calls mark : Bool} {args : List ChainItem}
      (h : ChainText text e optional calls)
      (hargs : ∀ a ∈ args, ChainText a.text a.expr a.optional a.calls) :
      ChainText (text ++ (optionalMark mark ++ argumentText args))
        (.call e (args.map (·.value)) mark) (optional || mark) true
  | tagged {text : List Char} {e : Expr} {calls : Bool} {raw : String} {cooked : Option String}
      {parts : List TemplatePart} (h : ChainText text e false calls)
      (hfirst : IsPiece raw cooked parts.isEmpty) (hpieces : ArePieces parts)
      (hparts : ∀ p ∈ parts, ChainText p.item.text p.item.expr p.item.optional p.item.calls) :
      ChainText (text ++ '`' :: (raw.toList ++ (pieceEnd parts.isEmpty ++ partsText parts)))
        (.tagged e (⟨parts.isEmpty, raw, cooked⟩ :: partPieces parts) (parts.map (·.item.value)))
        false calls

/-! ## What follows -/

/-- Whether a token continues a chain and is no bracket. -/
def Token.isPlainLink : Token → Bool
  | .punct s => [".", "?."].contains s
  | .template .. => true
  | _ => false

/-- Whether a token continues a chain. -/
def Token.continuesChain (t : Token) : Bool :=
  t.isPlainLink || t.isAnyPunct ["[", "("]

/-- Whether a token closes what a chain stands in. -/
def Token.closesChain : Token → Bool
  | .punct s => [")", ",", "]", "\x7d"].contains s
  | .eof => true
  | _ => false

/-- Whether a token may follow on a part of a chain. -/
def Token.followsChain (t : Token) : Bool :=
  t.continuesChain || t.closesChain

theorem Token.ne_word_of_followsChain {t : Token} (h : t.followsChain = true) (w : String)
    (escaped : Bool) : t ≠ .word w escaped := by
  rintro rfl
  cases h

/-- Text that closes what a chain stands in. -/
def Closed (text : List Char) : Prop :=
  ∀ c ∈ text.head?, c ∈ [')', ',', ']', '\x7d']

/-- Text that continues a chain with a token of some kind. -/
structure Joins (kind : Token → Bool) (text : List Char) : Prop where
  head : ∃ c ∈ text.head?, c ∈ ['.', '?', '[', '(', '`']
  begins : ∃ t after, Begins text t after ∧ kind t = true

/-- Text that continues a chain. -/
def Continues (text : List Char) : Prop :=
  Joins Token.continuesChain text

theorem Joins.continues {text : List Char} (h : Joins Token.isPlainLink text) : Continues text := by
  obtain ⟨t, after, hbegins, ht⟩ := h.begins
  exact ⟨h.head, t, after, hbegins, by rw [Token.continuesChain, ht, Bool.true_or]⟩

/-- Text that may follow on a part of a chain. -/
def Follows (text : List Char) : Prop :=
  Closed text ∨ Continues text

theorem closed_nil : Closed [] :=
  nofun

theorem closed_cons {c : Char} (h : c ∈ [')', ',', ']', '\x7d']) (rest : List Char) :
    Closed (c :: rest) := by
  rintro d ⟨⟩
  exact h

theorem Closed.begins {text : List Char} (h : Closed text) :
    ∃ t after, Begins text t after ∧ t.closesChain = true := by
  cases text with
  | nil => exact ⟨_, _, .eof, rfl⟩
  | cons c rest =>
    have hclosers : ∀ c ∈ [')', ',', ']', '\x7d'], c ∈ Begins.brackets ∧
        (Token.punct (String.singleton c)).closesChain = true :=
      List.all_iff_forall_prop.1 (by decide)
    obtain ⟨hc, hcloses⟩ := hclosers c (h c rfl)
    exact ⟨_, _, .bracket hc rest, hcloses⟩

theorem Follows.begins {text : List Char} (h : Follows text) :
    ∃ t after, Begins text t after ∧ t.followsChain = true := by
  rcases h with h | h
  · obtain ⟨t, after, hbegins, ht⟩ := h.begins
    exact ⟨t, after, hbegins, by rw [Token.followsChain, ht, Bool.or_true]⟩
  · obtain ⟨t, after, hbegins, ht⟩ := h.begins
    exact ⟨t, after, hbegins, by rw [Token.followsChain, ht, Bool.true_or]⟩

theorem Follows.head {text : List Char} (h : Follows text) :
    ∀ c ∈ text.head?, c ∈ ['.', '?', '[', '(', '`', ')', ',', ']', '\x7d'] := by
  intro c hc
  rcases h with h | h
  · exact List.mem_append_right ['.', '?', '[', '(', '`'] (h c hc)
  · obtain ⟨d, hd, hmem⟩ := h.head
    cases hc.symm.trans hd
    exact List.mem_append_left [')', ',', ']', '\x7d'] hmem

theorem Follows.wordEnds {text : List Char} (h : Follows text) : WordEnds text := by
  have hchars : ∀ c ∈ ['.', '?', '[', '(', '`', ')', ',', ']', '\x7d'],
      isIdentifierPart c = false ∧ c ≠ '\\' :=
    List.all_iff_forall_prop.1 (by decide)
  exact fun c hc => hchars c (h.head c hc)

theorem Follows.fractionEnds {text : List Char} (h : Follows text) : FractionEnds text := by
  have hchars : ∀ c ∈ ['.', '?', '[', '(', '`', ')', ',', ']', '\x7d'],
      isAsciiDigit c = false ∧ isIdentifierStart c = false :=
    List.all_iff_forall_prop.1 (by decide)
  exact fun c hc => hchars c (h.head c hc)

theorem Follows.numberEnds {text : List Char} (h : Follows text) (hdot : text.head? ≠ some '.') :
    NumberEnds text := by
  intro c hc
  obtain ⟨hdigit, hstart⟩ := h.fractionEnds c hc
  refine ⟨hdigit, hstart, ?_⟩
  rintro rfl
  exact hdot hc

theorem Closed.numberEnds {text : List Char} (h : Closed text) : NumberEnds text :=
  Follows.numberEnds (.inl h) fun hdot => absurd (h '.' hdot) (by decide)

/-! ## Links -/

theorem head_property {name : List Char} {p : Expr} (h : PropertyText name p) (rest : List Char) :
    ∀ c ∈ (name ++ rest).head?, isAsciiDigit c = false ∧ c ≠ '.' := by
  cases h with
  | name h =>
    obtain ⟨c, others, hw, hc⟩ := head_of_identifierName h
    rw [hw]
    rintro d ⟨⟩
    constructor
    · rw [← Bool.not_eq_true]
      intro hdigit
      cases (isIdentifierStart_of_digit hdigit).symm.trans hc
    · rintro rfl
      exact absurd hc (by decide)
  | privateName h =>
    rintro d ⟨⟩
    decide

theorem joins_dot {name : List Char} {p : Expr} (h : PropertyText name p) (mark : Bool)
    (rest : List Char) : Joins Token.isPlainLink (dotText mark ++ name ++ rest) := by
  have hhead := head_property h rest
  cases mark with
  | false =>
    refine ⟨⟨'.', rfl, by decide⟩, _, _, .dot _ hhead, rfl⟩
  | true =>
    exact ⟨⟨'?', rfl, by decide⟩, _, _, .optionalDot _ fun c hc => (hhead c hc).1, rfl⟩

theorem joins_mark {c : Char} (hc : c ∈ ['[', '(']) (rest : List Char) :
    Joins Token.isPlainLink (optionalMark true ++ c :: rest) := by
  have hdigit : ∀ c ∈ ['[', '('], isAsciiDigit c = false := List.all_iff_forall_prop.1 (by decide)
  refine ⟨⟨'?', rfl, by decide⟩, _, _, .optionalDot _ ?_, rfl⟩
  rintro d ⟨⟩
  exact hdigit c hc

theorem joins_template {raw : String} {cooked : Option String} {tail : Bool}
    (h : IsPiece raw cooked tail) (rest : List Char) :
    Joins Token.isPlainLink ('`' :: (raw.toList ++ (pieceEnd tail ++ rest))) :=
  ⟨⟨'`', rfl, by decide⟩, _, _, .template h rest, rfl⟩

theorem continues_bracket {c : Char} (hc : c ∈ ['[', '(']) (mark : Bool) (rest : List Char) :
    Continues (optionalMark mark ++ c :: rest) := by
  cases mark with
  | false =>
    have hopen : ∀ c ∈ ['[', '('], c ∈ Begins.brackets ∧
        (Token.punct (String.singleton c)).continuesChain = true :=
      List.all_iff_forall_prop.1 (by decide)
    obtain ⟨hbracket, hcontinues⟩ := hopen c hc
    refine ⟨⟨c, rfl, ?_⟩, _, _, .bracket hbracket rest, hcontinues⟩
    exact List.mem_append_left ['`'] (List.mem_append_right ['.', '?'] hc)
  | true => exact (joins_mark hc rest).continues

/-! ## What a text starts with -/

/-- A word that a chain may start with and that can be the whole of it. -/
structure IsOperandWord (w : String) : Prop where
  name : isIdentifierName w.toList = true
  operand : isNameWord w = true ∨ w = "this"
  await : w ≠ "await"

/-- Text that is empty or continues a chain, whatever stands behind it. -/
def IsTail (tail : List Char) : Prop :=
  tail = [] ∨ ∀ rest, Continues (tail ++ rest)

theorem IsTail.follows {tail rest : List Char} (h : IsTail tail) (hrest : Follows rest) :
    Follows (tail ++ rest) := by
  rcases h with rfl | h
  · exact hrest
  · exact .inr (h rest)

/-- What a chain starts with, and whether this is the whole of it. -/
inductive Head : List Char → Bool → Prop
  | bare {w : String} (hw : IsOperandWord w) : Head w.toList true
  | linked {w : String} {tail : List Char} (hw : IsOperandWord w)
      (h : ∀ rest, Joins Token.isPlainLink (tail ++ rest)) : Head (w.toList ++ tail) false
  | indexed {w : String} {keyText : List Char} {key : Expr} {optional calls : Bool} (hw : IsOperandWord w)
      (hkey : ChainText keyText key optional calls) {tail : List Char} (h : IsTail tail) :
      Head (w.toList ++ '[' :: (keyText ++ ']' :: tail)) false
  | called {w : String} {args : List ChainItem} (hw : IsOperandWord w)
      (hargs : ∀ a ∈ args, ChainText a.text a.expr a.optional a.calls) {tail : List Char}
      (h : IsTail tail) :
      Head (w.toList ++ (argumentText args ++ tail)) false
  | keyword {w : String} {tail : List Char} (hw : w ∈ ["new", "import"])
      (htail : ∀ rest, WordEnds (tail ++ rest)) : Head (w.toList ++ tail) false
  | number {x : Double} {tail : List Char} (hfinite : x.isFinite = true) (hpos : x.negative = false)
      (htail : FractionEnds tail)
      (hwhole : x.render.toList.all isAsciiDigit = true → NumberEnds tail) :
      Head (x.render.toList ++ tail) false
  | parens {text : List Char} {e : Expr} {optional calls : Bool} (h : ChainText text e optional calls)
      (hbare : e.isBare = false) (tail : List Char) : Head ('(' :: (text ++ ')' :: tail)) false

/-- A text that continues a chain, whatever stands behind it. -/
def IsLink (link : List Char) : Prop :=
  ∀ rest, Continues (link ++ rest)

theorem IsLink.follows {link : List Char} (h : IsLink link) (rest : List Char) :
    Follows (link ++ rest) :=
  .inr (h rest)

theorem IsLink.fractionEnds {link : List Char} (h : IsLink link) : FractionEnds link := by
  simpa using (h.follows []).fractionEnds

theorem isLink_bracket {c : Char} (hc : c ∈ ['[', '(']) (mark : Bool) (text : List Char) :
    IsLink (optionalMark mark ++ c :: text) := by
  intro rest
  rw [List.append_assoc]
  exact continues_bracket hc mark (text ++ rest)

theorem fractionEnds_append {tail link : List Char} (htail : FractionEnds tail)
    (hlink : FractionEnds link) : FractionEnds (tail ++ link) := by
  cases tail with
  | nil => exact hlink
  | cons c tail => exact htail

theorem numberEnds_append {tail link : List Char} (htail : NumberEnds tail)
    (hlink : NumberEnds link) : NumberEnds (tail ++ link) := by
  cases tail with
  | nil => exact hlink
  | cons c tail => exact htail

/-- A link behind a chain keeps what the chain starts with, unless that was the whole of it. -/
theorem Head.append {text link : List Char} {bare : Bool} (h : Head text bare) (hlink : IsLink link)
    (hbare : ∀ w, IsOperandWord w → Head (w.toList ++ link) false)
    (hdigits : text.all isAsciiDigit = true → NumberEnds link) : Head (text ++ link) false := by
  have htail : ∀ tail : List Char, IsTail tail → IsTail (tail ++ link) := by
    intro tail htail
    refine .inr fun rest => ?_
    rw [List.append_assoc]
    rcases htail with rfl | htail
    · exact hlink rest
    · exact htail _
  cases h with
  | bare hw => exact hbare _ hw
  | @linked w tail hw h =>
    rw [List.append_assoc]
    refine .linked hw fun rest => ?_
    rw [List.append_assoc]
    exact h _
  | @indexed w keyText key optional calls hw hkey tail h =>
    simpa using Head.indexed hw hkey (htail tail h)
  | @called w args hw hargs tail h =>
    simpa using Head.called hw hargs (htail tail h)
  | keyword hw htail =>
    rw [List.append_assoc]
    refine .keyword hw fun rest => ?_
    rw [List.append_assoc]
    exact htail _
  | @number x tail hfinite hpos htail hwhole =>
    rw [List.append_assoc]
    refine .number hfinite hpos (fractionEnds_append htail hlink.fractionEnds) fun hx => ?_
    cases tail with
    | nil => exact hdigits (by rwa [List.append_nil])
    | cons c tail => exact hwhole hx
  | @parens text e optional calls h hbare tail =>
    simpa using Head.parens h hbare (tail ++ link)

theorem IsLink.numberEnds {link : List Char} (h : IsLink link) (hdot : link.head? ≠ some '.') :
    NumberEnds link := by
  have hfollows := h.follows []
  rw [List.append_nil] at hfollows
  exact hfollows.numberEnds hdot

/-- What the text of a chain starts with. -/
theorem ChainText.head {text : List Char} {e : Expr} {optional calls : Bool}
    (h : ChainText text e optional calls) : Head text e.isBare := by
  have hends : ∀ c ∈ [' ', '('], isIdentifierPart c = false ∧ c ≠ '\\' :=
    List.all_iff_forall_prop.1 (by decide)
  induction h with
  | name h hw hawait => exact .bare ⟨h, .inl hw, hawait⟩
  | this => exact .bare ⟨by decide, .inr rfl, by decide⟩
  | number hfinite hpos =>
    rw [← List.append_nil (Double.render _).toList]
    exact .number hfinite hpos nofun fun _ => nofun
  | parens h hbare _ => exact .parens h hbare []
  | new _ _ _ _ _ =>
    refine .keyword (by decide) fun rest => ?_
    rintro c ⟨⟩
    exact hends _ (by decide)
  | importCall _ _ =>
    refine .keyword (by decide) fun rest => ?_
    rintro c ⟨⟩
    exact hends _ (by decide)
  | @dot text name e p optional calls mark _ hp hdigits ih =>
    have hlink : IsLink (dotText mark ++ name) := fun rest => (joins_dot hp mark rest).continues
    refine ih.append hlink (fun w hw => .linked hw (joins_dot hp mark)) fun hall =>
      hlink.numberEnds ?_
    cases mark with
    | false => cases (hdigits rfl).symm.trans hall
    | true => nofun
  | @index text keyText e key optional calls keyOptional keyCalls mark _ hkey ih _ =>
    have hlink := isLink_bracket (c := '[') (by decide) mark (keyText ++ [']'])
    refine ih.append hlink (fun w hw => ?_) fun _ => hlink.numberEnds (by cases mark <;> nofun)
    cases mark with
    | false => exact .indexed hw hkey (.inl rfl)
    | true => exact .linked hw fun rest => joins_mark (by decide) _
  | @call text e optional calls mark args _ hargs ih _ =>
    have hlink : IsLink (optionalMark mark ++ argumentText args) :=
      isLink_bracket (c := '(') (by decide) mark _
    refine ih.append hlink (fun w hw => ?_) fun _ => hlink.numberEnds (by cases mark <;> nofun)
    cases mark with
    | false =>
      have hcalled := Head.called hw hargs (.inl rfl)
      rwa [List.append_nil] at hcalled
    | true => exact .linked hw fun rest => joins_mark (by decide) _
  | @tagged text e calls raw cooked parts _ hfirst _ _ ih _ =>
    have hjoins : ∀ rest, Joins Token.isPlainLink
        ('`' :: (raw.toList ++ (pieceEnd parts.isEmpty ++ partsText parts)) ++ rest) := by
      intro rest
      simpa using joins_template hfirst (partsText parts ++ rest)
    have hlink : IsLink ('`' :: (raw.toList ++ (pieceEnd parts.isEmpty ++ partsText parts))) :=
      fun rest => (hjoins rest).continues
    exact ih.append hlink (fun w hw => .linked hw hjoins) fun _ => hlink.numberEnds nofun

/-! ## First tokens -/

theorem IsOperandWord.startsOperand {w : String} (h : IsOperandWord w) :
    (Token.word w false).startsOperand = true := by
  have hunary : Tree.UnaryOp.ofSymbol? w = none := by
    cases hop : Tree.UnaryOp.ofSymbol? w with
    | none => rfl
    | some op =>
      obtain rfl : op.symbol = w := by simpa using List.find?_some hop
      have hnone : (isIdentifierName op.symbol.toList && (isNameWord op.symbol || op.symbol == "this"))
          = false := by cases op <;> decide
      have hoperand : (isNameWord op.symbol || op.symbol == "this") = true := by
        simpa using h.operand
      rw [h.name, hoperand] at hnone
      cases hnone
  simp [Token.startsOperand, h.await, hunary]

/-- The text of a chain begins with a name or `this` in front of what follows on it, or with another
token. -/
theorem Head.split {text rest : List Char} {bare : Bool} (h : Head text bare) (hrest : Follows rest)
    (hends : NumberEnds rest) :
    (∃ w tail, text ++ rest = w.toList ++ tail ∧ IsOperandWord w ∧ Follows tail) ∨
    ∃ t after, Begins (text ++ rest) t after ∧ t.startsOperand = true ∧
      ∀ w escaped, t = .word w escaped → isNameWord w = false := by
  cases h with
  | bare hw => exact .inl ⟨_, rest, rfl, hw, hrest⟩
  | linked hw h => exact .inl ⟨_, _, List.append_assoc _ _ _, hw, .inr (h rest).continues⟩
  | indexed hw _ _ =>
    exact .inl ⟨_, _, List.append_assoc _ _ _, hw, .inr (continues_bracket (by decide) false _)⟩
  | called hw _ _ =>
    exact .inl ⟨_, _, List.append_assoc _ _ _, hw, .inr (continues_bracket (by decide) false _)⟩
  | @keyword w tail hw htail =>
    have hkeyword : ∀ w ∈ ["new", "import"], isIdentifierName w.toList = true ∧
        (Token.word w false).startsOperand = true ∧ isNameWord w = false := by decide
    obtain ⟨hname, hstarts, hno⟩ := hkeyword w hw
    rw [List.append_assoc]
    refine .inr ⟨_, _, .word hname (htail rest), hstarts, ?_⟩
    rintro v escaped ⟨⟩
    exact hno
  | number hfinite hpos htail hwhole =>
    rw [List.append_assoc]
    exact .inr ⟨_, _, .number hfinite hpos _ (fractionEnds_append htail hrest.fractionEnds)
      fun hx => numberEnds_append (hwhole hx) hends, rfl, nofun⟩
  | parens _ _ _ => exact .inr ⟨_, _, .bracket (by decide) _, rfl, nofun⟩

/-- The text of a chain begins with a token that starts an operand. -/
theorem Head.opens {text rest : List Char} {bare : Bool} (h : Head text bare) (hrest : Follows rest)
    (hends : NumberEnds rest) :
    ∃ t after, Begins (text ++ rest) t after ∧ t.startsOperand = true := by
  rcases h.split hrest hends with ⟨w, tail, htext, hw, htail⟩ | ⟨t, after, hbegins, ht, -⟩
  · rw [htext]
    exact ⟨_, _, .word hw.name htail.wordEnds, hw.startsOperand⟩
  · exact ⟨t, after, hbegins, ht⟩

theorem Head.begins {text rest : List Char} {bare : Bool} (h : Head text bare) (hrest : Closed rest) :
    ∃ t after, Begins (text ++ rest) t after ∧ t.startsOperand = true :=
  h.opens (.inl hrest) hrest.numberEnds

end CustomElement.Script
