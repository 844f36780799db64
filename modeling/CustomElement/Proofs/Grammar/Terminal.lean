import CustomElement.Proofs.Script.TextPlaces
import CustomElement.Proofs.Script.Vocabulary

/-!
# The terminals of a script

`Splits text ts` says what the tokens of a text are, each with a note whether a line ends in front of it.
A string counts by its value. What a slash or a closing brace starts depends on where it stands: the
grammar asks for one of three goals at each place, and under the same goals a text is split in one way
only (`Splits.unique`).
-/

namespace CustomElement.Grammar

open CustomElement.Text CustomElement.Script

/-! ## Where words end -/

theorem isIdentifierPart_of_isFlagChar {c : Char} (h : isFlagChar c = true) : isIdentifierPart c = true := by
  have hascii : c.toNat < 0x80 := by
    simp only [isFlagChar, isAsciiLetter, isAsciiDigit, Bool.or_eq_true, Bool.and_eq_true, beq_iff_eq,
      decide_eq_true_eq, Char.le_def] at h
    rcases h with ((rfl | rfl) | ⟨_, h⟩ | ⟨_, h⟩) | ⟨_, h⟩
    · decide
    · decide
    all_goals exact Nat.lt_of_le_of_lt h (by decide)
  rw [isIdentifierPart, if_pos hascii]
  simp only [isFlagChar, Bool.or_eq_true] at h ⊢
  rcases h with ((h | h) | h) | h
  · exact .inl (.inr h)
  · exact .inr h
  · exact .inl (.inl (.inl h))
  · exact .inl (.inl (.inr h))

theorem WordEnds.flagsEnd {rest : List Char} (h : WordEnds rest) : ∀ c ∈ rest.head?, isFlagChar c = false :=
  fun c hc => Bool.eq_false_iff.2 fun hflag =>
    Bool.noConfusion ((h c hc).1.symm.trans (isIdentifierPart_of_isFlagChar hflag))

theorem WordEnds.fractionEnds {rest : List Char} (h : WordEnds rest) : FractionEnds rest := by
  intro c hc
  refine ⟨Bool.eq_false_iff.2 fun hdigit => ?_, Bool.eq_false_iff.2 fun hstart => ?_⟩
  · have hflag : isFlagChar c = true := by rw [isFlagChar, hdigit, Bool.or_true]
    cases (h.flagsEnd c hc).symm.trans hflag
  · cases (h c hc).1.symm.trans (isIdentifierPart_of_start hstart)

/-! ## Symbols -/

/-- A token by what it stands for. A piece of a template may continue one and may end it. -/
inductive Symbol where
  | word (name : String)
  | privateName (name : String)
  | punct (symbol : String)
  | number (value : Double)
  | bigint (digits : String)
  | string (value : String)
  | regex (r : Tree.Regex)
  | template (raw : String) (continues tail : Bool)
deriving DecidableEq, Repr

/-- What the grammar asks for: nothing in particular, a regular expression where a slash stands, or the
next piece of a template where a brace closes. -/
inductive LexicalGoal where
  | plain
  | regex
  | piece
deriving DecidableEq, Repr

/-- A symbol, the goal under which it is read, and whether a line ends in front of it. -/
structure Terminal where
  goal : LexicalGoal
  symbol : Symbol
  newline : Bool
deriving DecidableEq, Repr

/-- The symbol of a token. -/
def Symbol.ofToken : Token → Option Symbol
  | .word name _ => some (.word name)
  | .privateName name => some (.privateName name)
  | .punct symbol => some (.punct symbol)
  | .number value => some (.number value)
  | .bigint digits => some (.bigint digits)
  | .string value _ => some (.string value)
  | .template raw _ tail => some (.template raw false tail)
  | .eof | .invalid => none

/-- The symbol that a text starts with under a goal, and the text after it. -/
def LexicalGoal.read : LexicalGoal → List Char → Option (Symbol × List Char)
  | plain, text => (scan text).bind fun read => (Symbol.ofToken read.1).map (·, read.2)
  | regex, '/' :: text => (readRegex text).map fun (pattern, flags, rest) => (.regex ⟨pattern, flags⟩, rest)
  | piece, '\x7d' :: text =>
    (readTemplate text).bind fun
      | (.template raw _ tail, rest) => some (.template raw true tail, rest)
      | _ => none
  | _, _ => none

/-- A text is a list of terminals with gaps between them. -/
inductive Splits : List Char → List Terminal → Prop
  | done {text : List Char} {newline : Bool} (hgap : skipGap .blank false text = some (newline, [])) :
      Splits text []
  | cons {goal : LexicalGoal} {text here rest : List Char} {newline : Bool} {s : Symbol} {ts : List Terminal}
      (hgap : skipGap .blank false text = some (newline, here)) (hread : goal.read here = some (s, rest))
      (hrest : Splits rest ts) : Splits text (⟨goal, s, newline⟩ :: ts)

namespace Splits

variable {text here rest : List Char} {ts us : List Terminal}

/-- Under the same goals a text is split in one way only. -/
theorem unique (ht : Splits text ts) (hu : Splits text us)
    (hgoals : us.map (·.goal) = ts.map (·.goal)) : us = ts := by
  induction ht generalizing us with
  | done =>
    exact List.map_eq_nil_iff.1 hgoals
  | cons hgap hread _ ih =>
    cases hu with
    | done => cases hgoals
    | cons hgap' hread' hrest' =>
      obtain ⟨rfl, hmore⟩ := List.cons.inj hgoals
      cases hgap.symm.trans hgap'
      cases hread.symm.trans hread'
      rw [ih hrest' hmore]

/-! ## Gaps -/

theorem nil : Splits [] [] :=
  .done rfl

theorem blank (h : Splits rest ts) : Splits (' ' :: rest) ts := by
  cases h with
  | done hgap => exact .done hgap
  | cons hgap hread hrest => exact .cons hgap hread hrest

/-- A line ends in front of the first terminal. -/
def onLine : List Terminal → List Terminal
  | [] => []
  | t :: ts => { t with newline := true } :: ts

theorem line (h : Splits rest ts) (k : Nat) : Splits ('\n' :: (List.replicate k ' ' ++ rest)) (onLine ts) := by
  have hskip : ∀ {b : Bool} {here : List Char}, skipGap .blank false rest = some (b, here) →
      skipGap .blank false ('\n' :: (List.replicate k ' ' ++ rest)) = some (true, here) := fun hgap =>
    (skipGap_blanks k true rest).trans (skipGap_true hgap)
  cases h with
  | done hgap => exact .done (hskip hgap)
  | cons hgap hread hrest => exact .cons (hskip hgap) hread hrest

/-! ## Terminals -/

theorem of_scan {t : Token} {s : Symbol} (hgap : skipGap .blank false text = some (false, text))
    (hscan : scan text = some (t, rest)) (hs : Symbol.ofToken t = some s) (hrest : Splits rest ts) :
    Splits text (⟨.plain, s, false⟩ :: ts) := by
  refine .cons hgap ?_ hrest
  rw [LexicalGoal.read, hscan, Option.bind_some, hs, Option.map_some]

/-- A token that is not a right angle bracket. -/
theorem of_begins {t : Token} {s : Symbol} (h : Begins text t rest) (hangle : text.head? ≠ some '>')
    (hs : Symbol.ofToken t = some s) (hrest : Splits rest ts) : Splits text (⟨.plain, s, false⟩ :: ts) := by
  refine of_scan h.gap ?_ hs hrest
  cases text with
  | nil => exact h.token
  | cons c text =>
    rw [scan, firstPunct_rightAngles (fun hc => hangle (congrArg some hc))]
    exact h.token

theorem word {name : String} (hname : isIdentifierName name.toList = true) (hends : WordEnds rest)
    (h : Splits rest ts) : Splits (name.toList ++ rest) (⟨.plain, .word name, false⟩ :: ts) := by
  refine of_begins (.word hname hends) ?_ rfl h
  obtain ⟨c, more, hcons, hc⟩ := head_of_identifierName hname
  rw [hcons]
  rintro ⟨⟩
  cases hc

theorem privateName {name : String} (hname : isIdentifierName name.toList = true) (hends : WordEnds rest)
    (h : Splits rest ts) : Splits ('#' :: (name.toList ++ rest)) (⟨.plain, .privateName name, false⟩ :: ts) :=
  of_begins (.privateName hname hends) (by simp) rfl h

theorem digits {t : Token} {s : Symbol} {c : Char} {more : List Char} (hbegins : Begins text t rest)
    (hcons : text = c :: more) (hc : isAsciiDigit c = true) (hs : Symbol.ofToken t = some s)
    (h : Splits rest ts) : Splits text (⟨.plain, s, false⟩ :: ts) := by
  refine of_begins hbegins ?_ hs h
  rw [hcons]
  rintro ⟨⟩
  cases hc

theorem number {x : Double} (hfinite : x.isFinite = true) (hpos : x.negative = false)
    (hends : FractionEnds rest) (hwhole : x.render.toList.all isAsciiDigit = true → NumberEnds rest)
    (h : Splits rest ts) : Splits (x.render.toList ++ rest) (⟨.plain, .number x, false⟩ :: ts) := by
  obtain ⟨c, more, hcons, hc⟩ := head_render hfinite hpos
  exact digits (.number hfinite hpos rest hends hwhole) (by rw [hcons, List.cons_append]) hc rfl h

theorem bigint (n : Nat) (hends : FractionEnds rest) (h : Splits rest ts) :
    Splits ((toString n).toList ++ 'n' :: rest) (⟨.plain, .bigint (toString n), false⟩ :: ts) := by
  obtain ⟨c, more, hcons, hc⟩ := head_toString n
  exact digits (.bigint n hends) (by rw [hcons, List.cons_append]) hc rfl h

/-- A string counts by its value, whatever its quotation mark. -/
theorem string {q : Char} (hq : IsQuote q) (value : String) (h : Splits rest ts) :
    Splits (Emit.quoted q value.toList ++ rest) (⟨.plain, .string value, false⟩ :: ts) := by
  refine of_begins (.string hq value rest) ?_ rfl h
  rcases hq with rfl | rfl <;> exact of_decide_eq_true rfl

theorem punct {symbol : String} (hs : symbol ∈ rightAngles ++ punctuators)
    (hends : ∀ c ∈ rest.head?, c ∉ followers symbol) (h : Splits rest ts) :
    Splits (symbol.toList ++ rest) (⟨.plain, .punct symbol, false⟩ :: ts) :=
  of_scan (skipGap_punct hs hends) (scan_symbol hs hends) rfl h

theorem dot (hends : ∀ c ∈ rest.head?, isAsciiDigit c = false ∧ c ≠ '.') (h : Splits rest ts) :
    Splits ('.' :: rest) (⟨.plain, .punct ".", false⟩ :: ts) :=
  of_begins (.dot rest hends) (by simp) rfl h

theorem optionalDot (hends : ∀ c ∈ rest.head?, isAsciiDigit c = false) (h : Splits rest ts) :
    Splits ('?' :: '.' :: rest) (⟨.plain, .punct "?.", false⟩ :: ts) :=
  of_begins (.optionalDot rest hends) (by simp) rfl h

theorem regex {r : Tree.Regex} (hr : isRegex r = true) (hends : ∀ c ∈ rest.head?, isFlagChar c = false)
    (h : Splits rest ts) :
    Splits ('/' :: (r.pattern.toList ++ '/' :: (r.flags.toList ++ rest))) (⟨.regex, .regex r, false⟩ :: ts) := by
  refine .cons (skipGap_slash ?_) ?_ h
  · have hstart := hr
    simp only [isRegex, Bool.and_eq_true] at hstart
    cases hpattern : r.pattern.toList with
    | nil =>
      rw [hpattern] at hstart
      cases hstart.1
    | cons c pattern =>
      rw [hpattern] at hstart
      rintro _ ⟨⟩
      simpa using hstart.1
  · rw [LexicalGoal.read, readRegex_append hr hends, Option.map_some]

/-- The first piece of a template. -/
theorem template {q : Tree.TemplateElement} (hq : q.isPiece = true) (h : Splits rest ts) :
    Splits ('`' :: (q.raw.toList ++ (pieceEnd q.tail ++ rest)))
      (⟨.plain, .template q.raw false q.tail, false⟩ :: ts) :=
  of_begins (.template (Tree.TemplateElement.isPiece_iff.1 hq) rest) (by simp) rfl h

/-- A piece of a template behind an expression. -/
theorem piece {q : Tree.TemplateElement} (hq : q.isPiece = true) (h : Splits rest ts) :
    Splits ('\x7d' :: (q.raw.toList ++ (pieceEnd q.tail ++ rest)))
      (⟨.piece, .template q.raw true q.tail, false⟩ :: ts) := by
  refine .cons (skipGap_of_startsToken (by decide) _) ?_ h
  rw [LexicalGoal.read, readTemplate_raw (Tree.TemplateElement.isPiece_iff.1 hq), Option.bind_some]

end Splits

end CustomElement.Grammar
