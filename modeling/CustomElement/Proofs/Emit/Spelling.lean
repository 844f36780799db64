import CustomElement.Emit.Program
import CustomElement.Proofs.Grammar.Expression

/-!
# Documents as lexemes

`Written ends o d ts` says that a document, under the options `o`, is written as the lexemes `ts` in
front of any text of a kind: text that closes an expression, or text that does not continue a word.
The lemmas build up the texts of operators and operands. An operator between blanks is always a
lexeme of its own (`lexes_operator`). One that stands directly in front of its operand is kept apart
from it by the first character of the operand (`Opens`), which does not depend on the options.
-/

namespace CustomElement.Emit

open CustomElement.Text CustomElement.Tree CustomElement.Grammar
open CustomElement.Script (NumberEnds IsQuote rightAngles punctuators)

/-! ## Texts that end an operand -/

/-- Text at which an expression ends: a blank, a closing bracket, a comma or nothing. -/
def Closes (rest : List Char) : Prop :=
  ∀ c ∈ rest.head?, c ∈ [' ', ')', ']', ',']

theorem closes_nil : Closes [] := by
  rintro c ⟨⟩

theorem closes_cons {c : Char} (h : c ∈ [' ', ')', ']', ',']) (rest : List Char) :
    Closes (c :: rest) := by
  rintro d ⟨⟩
  exact h

theorem Closes.wordEnds {rest : List Char} (h : Closes rest) : WordEnds rest := by
  have hall : ([' ', ')', ']', ','].all fun c => !isIdentifierPart c && c != '\\') = true := rfl
  intro c hc
  simpa using List.all_eq_true.1 hall c (h c hc)

theorem Closes.numberEnds {rest : List Char} (h : Closes rest) : NumberEnds rest := by
  have hall : ([' ', ')', ']', ','].all fun c =>
      !isAsciiDigit c && (!isIdentifierStart c && c != '.')) = true := rfl
  intro c hc
  simpa using List.all_eq_true.1 hall c (h c hc)

/-! ## Documents -/

@[simp] theorem render_append (o : Options) (d d' : Doc) :
    Doc.render o (d ++ d') = d.render o ++ d'.render o :=
  List.flatMap_append

@[simp] theorem render_word (o : Options) (s : String) : (word s).render o = s.toList := by
  simp [word, Doc.render, Piece.render]

/-- A document is written as lexemes, in front of texts at which `ends` holds. -/
def Written (ends : List Char → Prop) (o : Options) (d : Doc) (ts : List Lexeme) : Prop :=
  ∀ rest us, ends rest → Lexes rest us → Lexes (d.render o ++ rest) (ts ++ us)

theorem Written.mono {ends ends' : List Char → Prop} {o : Options} {d : Doc} {ts : List Lexeme}
    (h : Written ends o d ts) (hends : ∀ rest, ends' rest → ends rest) : Written ends' o d ts :=
  fun rest us hrest => h rest us (hends rest hrest)

theorem written_name {o : Options} {name : String} (h : isIdentifierName name.toList = true) :
    Written WordEnds o (word name) [⟨.word name false, false⟩] := by
  intro rest us hrest hus
  rw [render_word]
  exact lexes_word h hrest hus

/-- Punctuators that no text continues. -/
def closedSymbols : List String :=
  ["(", ")", "[", "]", ",", "~", "++", "--"]

theorem lexes_closed {symbol : String} {rest : List Char} {us : List Lexeme}
    (hs : symbol ∈ closedSymbols) (h : Lexes rest us) :
    Lexes (symbol.toList ++ rest) (⟨.punct symbol, false⟩ :: us) := by
  have hall : ∀ s ∈ closedSymbols, s ∈ rightAngles ++ punctuators ∧ followers s = [] := by decide
  obtain ⟨hmem, hnone⟩ := hall symbol hs
  refine lexes_punct hmem (fun c _ => ?_) h
  rw [hnone]
  exact List.not_mem_nil

theorem Written.parens {o : Options} {d : Doc} {ts : List Lexeme} (h : Written Closes o d ts)
    (ends : List Char → Prop) :
    Written ends o (parens d) (⟨.punct "(", false⟩ :: (ts ++ [⟨.punct ")", false⟩])) := by
  intro rest us _ hus
  have hclose : Lexes (')' :: rest) (⟨.punct ")", false⟩ :: us) :=
    @lexes_closed ")" rest us (by decide) hus
  have hinner := h _ _ (closes_cons (by decide) rest) hclose
  have hopen := @lexes_closed "(" _ _ (by decide) hinner
  simpa [Emit.parens] using hopen

/-! ## Operators -/

/-- A symbol that is a word or a punctuator. -/
def IsSymbol (symbol : String) : Prop :=
  isIdentifierName symbol.toList = true ∨ symbol ∈ rightAngles ++ punctuators

instance (symbol : String) : Decidable (IsSymbol symbol) :=
  inferInstanceAs (Decidable (_ ∨ _))

theorem wordEnds_blank (rest : List Char) : WordEnds (' ' :: rest) :=
  (closes_cons (by decide) rest).wordEnds

theorem lexes_operator {symbol : String} (hs : IsSymbol symbol) {rest : List Char}
    {us : List Lexeme} (h : Lexes rest us) :
    Lexes (symbol.toList ++ ' ' :: rest) (⟨operatorToken symbol, false⟩ :: us) := by
  unfold operatorToken
  split
  · rename_i hword
    exact lexes_word hword (wordEnds_blank rest) (lexes_blank h)
  · rename_i hword
    exact lexes_punct_blank (hs.resolve_left hword) h

theorem Written.between {o : Options} {l r : Doc} {ls rs : List Lexeme} {symbol : String}
    (hl : Written Closes o l ls) (hs : IsSymbol symbol) (hr : Written Closes o r rs) :
    Written Closes o (l ++ word " " ++ word symbol ++ word " " ++ r)
      (ls ++ ⟨operatorToken symbol, false⟩ :: rs) := by
  intro rest us hrest hus
  have hright := lexes_operator hs (hr rest us hrest hus)
  have hall := hl _ _ (closes_cons (by decide) _) (lexes_blank hright)
  simpa using hall

/-! ## Operators in front of their operand -/

/-- A document that starts with a string, or with text that starts with something else than `=`. -/
def Opens : Doc → Prop
  | .text s :: _ => ∃ c cs, s.toList = c :: cs ∧ c ≠ '='
  | .string _ :: _ => True
  | _ => False

theorem Opens.append {d : Doc} (h : Opens d) (d' : Doc) : Opens (d ++ d') := by
  unfold Opens at h
  split at h
  · exact h
  · exact h
  · cases h

theorem opens_word {s : String} {c : Char} {cs : List Char} (h : s.toList = c :: cs) (hc : c ≠ '=') :
    Opens (word s) :=
  ⟨c, cs, h, hc⟩

/-- How a document starts does not depend on the options, apart from the quotes of strings. -/
theorem Opens.head {d : Doc} (h : Opens d) (o : Options) :
    ∃ c cs, d.render o = c :: cs ∧ c ≠ '=' ∧
      ∀ sign ∈ ['+', '-'], [sign].isPrefixOf d.chars = (sign == c) := by
  unfold Opens at h
  split at h
  · rename_i s ds
    obtain ⟨c, cs, hs, hc⟩ := h
    have hrender : ∀ o', Doc.render o' (.text s :: ds) = c :: (cs ++ Doc.render o' ds) := by
      intro o'
      rw [Doc.render, List.flatMap_cons, Piece.render, hs]
      rfl
    refine ⟨c, _, hrender o, hc, fun sign _ => ?_⟩
    rw [Doc.chars, hrender, List.isPrefixOf_cons_cons, List.isPrefixOf_nil_left, Bool.and_true]
  · rename_i value ds
    have hrender : ∀ o', Doc.render o' (.string value :: ds) =
        quoted (if o'.singleQuote then '\'' else '"') value.toList ++ Doc.render o' ds :=
      fun _ => List.flatMap_cons
    refine ⟨_, _, (hrender o).trans (List.cons_append ..), ?_, fun sign hsign => ?_⟩
    · split <;> decide
    · obtain ⟨hsingle, hdouble⟩ : (sign == '\'') = false ∧ (sign == '"') = false := by
        rcases List.mem_pair.1 hsign with rfl | rfl <;> decide
      rw [Doc.chars, hrender, quoted, List.cons_append, List.isPrefixOf_cons_cons,
        List.isPrefixOf_nil_left, Bool.and_true]
      change (sign == '\'') = _
      rw [hsingle]
      split
      · exact hsingle.symm
      · exact hdouble.symm
  · cases h

theorem Written.before {o : Options} {d : Doc} {ts : List Lexeme} (h : Written Closes o d ts)
    {symbol : String} (hs : symbol ∈ rightAngles ++ punctuators) {c : Char} {cs : List Char}
    (hd : d.render o = c :: cs) (hc : c ∉ followers symbol) :
    Written Closes o (word symbol ++ d) (⟨.punct symbol, false⟩ :: ts) := by
  intro rest us hrest hus
  rw [render_append, render_word, List.append_assoc]
  refine lexes_punct hs ?_ (h rest us hrest hus)
  rw [hd]
  rintro a ⟨⟩
  exact hc

theorem Written.beforeBlank {o : Options} {d : Doc} {ts : List Lexeme} (h : Written Closes o d ts)
    {symbol : String} (hs : IsSymbol symbol) :
    Written Closes o (word symbol ++ (word " " ++ d)) (⟨operatorToken symbol, false⟩ :: ts) := by
  intro rest us hrest hus
  have hall := lexes_operator hs (h rest us hrest hus)
  simpa using hall

/-- A sign is kept apart from an operand that starts with the same sign, by a blank. -/
theorem Written.sign {o : Options} {d : Doc} {ts : List Lexeme} (h : Written Closes o d ts)
    (hd : Opens d) {symbol : String} {sign : Char} (hs : symbol.toList = [sign])
    (hmem : symbol ∈ rightAngles ++ punctuators) (hsign : sign ∈ ['+', '-'])
    (hfollowers : followers symbol = [sign, '=']) (htoken : operatorToken symbol = .punct symbol) :
    Written Closes o
      (word symbol ++ if symbol.toList.isPrefixOf d.chars then word " " ++ d else d)
      (⟨operatorToken symbol, false⟩ :: ts) := by
  obtain ⟨c, cs, hrender, hc, hinitial⟩ := hd.head o
  rw [hs, hinitial sign hsign]
  split
  · exact h.beforeBlank (.inr hmem)
  · rename_i hne
    rw [htoken]
    refine h.before hmem hrender ?_
    rw [hfollowers]
    simp only [beq_iff_eq] at hne
    simp [hc, Ne.symm hne]

/-- An operator in front of its operand is a lexeme of its own. -/
theorem Written.unary {o : Options} {d : Doc} {ts : List Lexeme} (h : Written Closes o d ts)
    (hd : Opens d) (op : UnaryOp) :
    Written Closes o (word op.symbol ++ operandDoc op d)
      (⟨operatorToken op.symbol, false⟩ :: ts) := by
  cases op with
  | minus => exact h.sign hd rfl (by decide) (by decide) (by decide) (by decide)
  | plus => exact h.sign hd rfl (by decide) (by decide) (by decide) (by decide)
  | not =>
    obtain ⟨c, cs, hrender, hc, -⟩ := hd.head o
    refine h.before (by decide) hrender ?_
    have hfollowers : followers "!" = ['=', '='] := by decide
    change c ∉ followers "!"
    rw [hfollowers]
    simp [hc]
  | bitNot =>
    intro rest us hrest hus
    rw [render_append, render_word, List.append_assoc]
    exact @lexes_closed "~" _ _ (by decide) (h rest us hrest hus)
  | typeof | void | delete => exact h.beforeBlank (by decide)

/-! ## Literals -/

/-- The quotation mark that the options ask for. -/
def Options.quote (o : Options) : Char :=
  if o.singleQuote then '\'' else '"'

theorem written_string (o : Options) (value : String) :
    Written Closes o [.string value] [stringLexeme o.quote value] := by
  intro rest us _ hus
  have hquote : IsQuote o.quote := by
    unfold Options.quote
    split
    · exact .inr rfl
    · exact .inl rfl
  have hlexes := lexes_string hquote value hus
  simpa [Doc.render, Piece.render, Options.quote] using hlexes

theorem written_number {x : Double} (hfinite : x.isFinite = true) (hpos : x.negative = false)
    (o : Options) : Written Closes o (word x.render) [⟨.number x, false⟩] := by
  intro rest us hrest hus
  rw [render_word]
  exact lexes_number hfinite hpos hrest.numberEnds hus

theorem written_bigint (n : Nat) (o : Options) :
    Written Closes o (word (toString n) ++ word "n") [⟨.bigint (toString n), false⟩] := by
  intro rest us hrest hus
  have hlexes := lexes_bigint n hrest.numberEnds hus
  simpa using hlexes

/-! ## Lists and conditionals -/

theorem Written.commaSeparated {o : Options} {d : Doc} {ts : List Lexeme}
    {others : List (Doc × ListItem)} (h : Written Closes o d ts)
    (hothers : ∀ p ∈ others, Written Closes o p.1 p.2.lexemes ∧ p.2.newline = false) :
    Written Closes o (commaSeparated (d :: others.map (·.1)))
      (ts ++ itemLexemes (others.map (·.2))) := by
  induction others generalizing d ts with
  | nil =>
    rw [List.map_nil, List.map_nil, itemLexemes, List.flatMap_nil, List.append_nil]
    exact h
  | cons p others ih =>
    intro rest us hrest hus
    obtain ⟨hp, hline⟩ := hothers p List.mem_cons_self
    have hinner := ih hp (fun q hq => hothers q (List.mem_cons_of_mem _ hq)) rest us hrest hus
    have hcomma : Lexes (',' :: ' ' :: _) (⟨.punct ",", false⟩ :: _) :=
      @lexes_closed "," _ _ (by decide) (lexes_blank hinner)
    have hall := h _ _ (closes_cons (by decide) _) hcomma
    simpa [Emit.commaSeparated, itemLexemes, hline] using hall

theorem Written.conditional {o : Options} {t c a : Doc} {ts cs as : List Lexeme}
    (ht : Written Closes o t ts) (hc : Written Closes o c cs) (ha : Written Closes o a as) :
    Written Closes o (t ++ word " ? " ++ c ++ word " : " ++ a)
      (ts ++ ⟨.punct "?", false⟩ :: (cs ++ ⟨.punct ":", false⟩ :: as)) := by
  intro rest us hrest hus
  have hcolon : Lexes (' ' :: ':' :: ' ' :: _) (⟨.punct ":", false⟩ :: _) :=
    lexes_blank (@lexes_punct_blank ":" (by decide) _ _ (ha rest us hrest hus))
  have hmark : Lexes (' ' :: '?' :: ' ' :: _) (⟨.punct "?", false⟩ :: _) :=
    lexes_blank (@lexes_punct_blank "?" (by decide) _ _
      (hc _ _ (closes_cons (by decide) _) hcolon))
  have hall := ht _ _ (closes_cons (by decide) _) hmark
  simpa using hall

end CustomElement.Emit
