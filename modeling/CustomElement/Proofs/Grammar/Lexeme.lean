import CustomElement.Proofs.Script.NumberText
import CustomElement.Proofs.Script.QuotedText
import CustomElement.Proofs.Text.IdentifierName
import CustomElement.Script.Scan

/-!
# Texts of expressions as lexemes

`Lexes text ts` says that a text is a list of lexemes: tokens, each with a note whether a line ends
in front of it. An operator that starts with `>` is one token, and a `/` is always an operator, which
is how the texts of operators are cut. A text is at most one list of lexemes (`Lexes.unique`).

The other lemmas say what the spellings of tokens are cut into, in front of any text that does not
continue the token: words, private names, punctuators, numbers, big integers and strings.
-/

namespace CustomElement.Grammar

open CustomElement.Text CustomElement.Script CustomElement.Emit

/-- A token, and whether a line ends in front of it. -/
structure Lexeme where
  token : Token
  newline : Bool
deriving DecidableEq, Repr

/-- The token at the start of a text; operators that start with `>` are taken as a whole. -/
def scan (text : List Char) : Scanned :=
  match firstPunct rightAngles text with
  | some (symbol, rest) => some (.punct symbol, rest)
  | none => readToken text

/-- A text is a list of lexemes with gaps between them. -/
inductive Lexes : List Char → List Lexeme → Prop
  | done {text : List Char} {newline : Bool}
      (hgap : skipGap .blank false text = some (newline, [])) : Lexes text []
  | token {text here rest : List Char} {newline : Bool} {c : Char} {t : Token} {ts : List Lexeme}
      (hgap : skipGap .blank false text = some (newline, c :: here))
      (hscan : scan (c :: here) = some (t, rest)) (hrest : Lexes rest ts) :
      Lexes text (⟨t, newline⟩ :: ts)

theorem Lexes.unique {text : List Char} {ts us : List Lexeme} (ht : Lexes text ts)
    (hu : Lexes text us) : ts = us := by
  induction ht generalizing us with
  | done hgap =>
    cases hu with
    | done => rfl
    | token hgap' =>
      rw [hgap] at hgap'
      cases hgap'
  | token hgap hscan _ ih =>
    cases hu with
    | done hgap' =>
      rw [hgap] at hgap'
      cases hgap'
    | token hgap' hscan' hrest' =>
      rw [hgap] at hgap'
      cases hgap'
      rw [hscan] at hscan'
      cases hscan'
      rw [ih hrest']

theorem lexes_nil : Lexes [] [] :=
  .done rfl

theorem lexes_blank {rest : List Char} {ts : List Lexeme} (h : Lexes rest ts) :
    Lexes (' ' :: rest) ts := by
  cases h with
  | done hgap => exact .done hgap
  | token hgap hscan hrest => exact .token hgap hscan hrest

theorem skipGap_blanks (k : Nat) (newline : Bool) (text : List Char) :
    skipGap .blank newline (List.replicate k ' ' ++ text) = skipGap .blank newline text := by
  induction k with
  | zero => rfl
  | succ k ih => exact ih

/-- A line that ends in front of a gap counts as one in it. -/
theorem skipGap_true {place : GapPlace} {newline : Bool} {text here : List Char} {b : Bool}
    (h : skipGap place newline text = some (b, here)) : skipGap place true text = some (true, here) := by
  fun_induction skipGap place newline text generalizing b with
  | case1 newline rest ih => exact ih h
  | case2 newline rest ih => exact ih h
  | case3 newline c rest hline hblock hend ih =>
    rw [skipGap.eq_3 _ _ _ hline hblock, if_pos hend]
    exact ih h
  | case4 newline c rest hline hblock hend hspace ih =>
    rw [skipGap.eq_3 _ _ _ hline hblock, if_neg hend, if_pos hspace]
    exact ih h
  | case5 newline c rest hline hblock hend hspace =>
    rw [skipGap.eq_3 _ _ _ hline hblock, if_neg hend, if_neg hspace]
    cases h
    rfl
  | case6 newline c rest hend ih =>
    rw [skipGap, if_pos hend]
    exact ih h
  | case7 newline c rest hend ih =>
    rw [skipGap, if_neg hend]
    exact ih h
  | case8 newline rest ih => exact ih h
  | case9 newline c rest hclose ih =>
    rw [skipGap.eq_6 _ _ _ hclose, Bool.true_or]
    exact ih h
  | case10 => cases h
  | case11 place newline hplace =>
    rw [skipGap.eq_8 _ _ hplace]
    cases h
    rfl

/-! ## Where a token starts -/

/-- A character that no gap starts with, whatever follows. -/
def startsToken (c : Char) : Bool :=
  !isLineEnd c && !isSpace c && c != '/' && c != '>'

theorem skipGap_of_startsToken {c : Char} (h : startsToken c = true) (rest : List Char) :
    skipGap .blank false (c :: rest) = some (false, c :: rest) := by
  simp only [startsToken, Bool.and_eq_true, Bool.not_eq_true', bne_iff_ne] at h
  obtain ⟨⟨⟨hline, hspace⟩, hslash⟩, -⟩ := h
  simp [skipGap, hline, hspace, hslash]

theorem firstPunct_rightAngles {c : Char} (h : c ≠ '>') (rest : List Char) :
    firstPunct rightAngles (c :: rest) = none := by
  simp [firstPunct, rightAngles, h.symm]

/-! ## Words and literals -/

/-- The code points of the characters that `startsToken` leaves out. -/
def gapCodes : List Nat :=
  [0x09, 0x0A, 0x0B, 0x0C, 0x0D, 0x20, 0x2F, 0x3E, 0x85, 0xA0, 0x1680, 0x2028, 0x2029, 0x202F, 0x205F,
    0x3000, 0xFEFF] ++ List.range' 0x2000 12

theorem startsToken_of_notMem {c : Char} (h : c.toNat ∉ gapCodes) : startsToken c = true := by
  have hchar : ∀ d : Char, d.toNat ∈ gapCodes → c ≠ d := by
    rintro d hd rfl
    exact h hd
  simp only [gapCodes, List.mem_append, List.mem_cons, List.not_mem_nil, List.mem_range'_1] at h
  simp only [startsToken, isLineEnd, isSpace, Bool.and_eq_true, Bool.not_eq_true', bne_iff_ne,
    Bool.or_eq_false_iff, beq_eq_false_iff_ne, Bool.and_eq_false_iff, decide_eq_false_iff_not]
  refine ⟨⟨⟨⟨⟨⟨hchar '\n' (by decide), hchar '\r' (by decide)⟩, ?_⟩, ?_⟩, ?_⟩,
    hchar '/' (by decide)⟩, hchar '>' (by decide)⟩ <;> omega

theorem startsToken_of_start {c : Char} (h : isIdentifierStart c = true) : startsToken c = true := by
  apply startsToken_of_notMem
  intro hmem
  have hnone : ∀ n ∈ gapCodes, isIdentifierStart (Char.ofNat n) = false := by decide +kernel
  have hc := hnone _ hmem
  rw [Char.ofNat_toNat, h] at hc
  cases hc

theorem startsToken_of_digit {c : Char} (h : isAsciiDigit c = true) : startsToken c = true := by
  apply startsToken_of_notMem
  intro hmem
  have hnone : ∀ n ∈ gapCodes, isAsciiDigit (Char.ofNat n) = false := by decide
  have hc := hnone _ hmem
  rw [Char.ofNat_toNat, h] at hc
  cases hc

/-- Text that does not continue a word. -/
def WordEnds (rest : List Char) : Prop :=
  ∀ c ∈ rest.head?, isIdentifierPart c = false ∧ c ≠ '\\'

theorem readWord_append {name rest : List Char} (hname : isIdentifierName name = true)
    (hrest : WordEnds rest) : readWord (name ++ rest) = some ⟨name, false, rest⟩ := by
  have hall := all_isIdentifierPart hname
  have htake : (name ++ rest).takeWhile isIdentifierPart = name := by
    rw [List.takeWhile_append_of_pos hall]
    cases rest with
    | nil => simp
    | cons c rest => simp [(hrest c rfl).1]
  have hdrop : (name ++ rest).dropWhile isIdentifierPart = rest := by
    rw [List.dropWhile_append_of_pos hall]
    cases rest with
    | nil => rfl
    | cons c rest => simp [(hrest c rfl).1]
  cases name with
  | nil => cases hname
  | cons c name =>
    have hc : isIdentifierStart c = true := by
      simp only [isIdentifierName, Bool.and_eq_true] at hname
      exact hname.1
    simp only [List.cons_append] at htake hdrop ⊢
    simp only [readWord, hc, if_true, htake, hdrop]
    split
    · exact absurd rfl (hrest '\\' rfl).2
    · rfl

end CustomElement.Grammar

namespace CustomElement.Script

open CustomElement.Text CustomElement.Grammar

/-- A text begins with a token, on the same line as what stands in front. -/
structure Begins (text : List Char) (t : Token) (rest : List Char) : Prop where
  gap : skipGap .blank false text = some (false, text)
  token : readToken text = some (t, rest)

namespace Begins

theorem eof : Begins [] .eof [] :=
  ⟨rfl, rfl⟩

theorem word {name : String} {rest : List Char} (hname : isIdentifierName name.toList = true)
    (hrest : WordEnds rest) : Begins (name.toList ++ rest) (.word name false) rest := by
  have hread := readWord_append hname hrest
  cases hcons : name.toList with
  | nil =>
    rw [hcons] at hname
    cases hname
  | cons c others =>
    rw [hcons] at hname hread
    have hc : isIdentifierStart c = true := by
      simp only [isIdentifierName, Bool.and_eq_true] at hname
      exact hname.1
    rw [List.cons_append] at hread ⊢
    refine ⟨skipGap_of_startsToken (startsToken_of_start hc) _, ?_⟩
    simp only [readToken, hc, Bool.true_or, if_true]
    rw [hread, Option.map_some, ← hcons, String.ofList_toList]

/-- A word that is known. -/
theorem keyword (name : String) {rest : List Char} (hname : isIdentifierName name.toList = true)
    (hrest : WordEnds rest) : Begins (name.toList ++ rest) (.word name false) rest :=
  word hname hrest

theorem privateName {name : String} {rest : List Char}
    (hname : isIdentifierName name.toList = true) (hrest : WordEnds rest) :
    Begins ('#' :: (name.toList ++ rest)) (.privateName name) rest := by
  refine ⟨skipGap_of_startsToken (by decide) _, ?_⟩
  have hread : readToken ('#' :: (name.toList ++ rest)) =
      (readWord (name.toList ++ rest)).map
        fun w => (.privateName (String.ofList w.name), w.rest) := rfl
  rw [hread, readWord_append hname hrest, Option.map_some, String.ofList_toList]

theorem digits {c : Char} {text rest : List Char} {t : Token} (hc : isAsciiDigit c = true)
    (hread : readNumber (c :: text) = some (t, rest)) : Begins (c :: text) t rest := by
  refine ⟨skipGap_of_startsToken (startsToken_of_digit hc) _, ?_⟩
  have hslash : (c == '\\') = false := by
    rw [beq_eq_false_iff_ne]
    rintro rfl
    cases hc
  simp only [readToken, isIdentifierStart_of_digit hc, hslash, hc, Bool.or_self, Bool.false_eq_true,
    if_false, if_true, hread]

theorem number {x : Double} (hfinite : x.isFinite = true) (hpos : x.negative = false)
    (rest : List Char) (hrest : FractionEnds rest)
    (hwhole : x.render.toList.all isAsciiDigit = true → NumberEnds rest) :
    Begins (x.render.toList ++ rest) (.number x) rest := by
  have hread := readNumber_render_fraction hfinite hpos hrest hwhole
  obtain ⟨c, more, hcons, hc⟩ := head_render hfinite hpos
  rw [hcons, List.cons_append] at hread ⊢
  exact digits hc hread

theorem bigint (n : Nat) {rest : List Char} (hrest : FractionEnds rest) :
    Begins ((toString n).toList ++ 'n' :: rest) (.bigint (toString n)) rest := by
  have hread := readNumber_bigint n hrest
  obtain ⟨c, more, hcons, hc⟩ := head_toString n
  rw [hcons, List.cons_append] at hread ⊢
  exact digits hc hread

theorem string {q : Char} (hq : IsQuote q) (value : String) (rest : List Char) :
    Begins (Emit.quoted q value.toList ++ rest)
      (.string value (String.ofList (value.toList.flatMap (Emit.escapeChar q)))) rest := by
  have hread := readString_quoted hq value.toList rest
  rw [String.ofList_toList] at hread
  rw [Emit.quoted, List.cons_append, List.append_assoc]
  rcases hq with rfl | rfl
  · exact ⟨skipGap_of_startsToken (by decide) _, hread⟩
  · exact ⟨skipGap_of_startsToken (by decide) _, hread⟩

end Begins

end CustomElement.Script

namespace CustomElement.Grammar

open CustomElement.Text CustomElement.Script CustomElement.Emit

/-- A text is cut behind the token it begins with, unless this is a punctuator. -/
theorem Lexes.of_begins {text rest : List Char} {t : Token} {ts : List Lexeme} (hbegins : Begins text t rest)
    (hpunct : ∀ symbol, t ≠ .punct symbol) (heof : t ≠ .eof) (h : Lexes rest ts) :
    Lexes text (⟨t, false⟩ :: ts) := by
  have hread := hbegins.token
  cases text with
  | nil =>
    cases hread
    exact absurd rfl heof
  | cons c here =>
    refine .token hbegins.gap ?_ h
    rw [scan, firstPunct_rightAngles ?_, hread]
    rintro rfl
    have hangle : readToken ('>' :: here) =
        (firstPunct punctuators ('>' :: here)).map fun s => (.punct s.1, s.2) := rfl
    rw [hangle] at hread
    obtain ⟨s, -, heq⟩ := Option.map_eq_some_iff.1 hread
    exact hpunct s.1 (Prod.mk.inj heq).1.symm

theorem lexes_word {name : String} {rest : List Char} {ts : List Lexeme}
    (hname : isIdentifierName name.toList = true) (hrest : WordEnds rest) (h : Lexes rest ts) :
    Lexes (name.toList ++ rest) (⟨.word name false, false⟩ :: ts) :=
  .of_begins (.word hname hrest) (by rintro _ ⟨⟩) (by rintro ⟨⟩) h

theorem lexes_privateName {name : String} {rest : List Char} {ts : List Lexeme}
    (hname : isIdentifierName name.toList = true) (hrest : WordEnds rest) (h : Lexes rest ts) :
    Lexes ('#' :: (name.toList ++ rest)) (⟨.privateName name, false⟩ :: ts) :=
  .of_begins (.privateName hname hrest) (by rintro _ ⟨⟩) (by rintro ⟨⟩) h

theorem lexes_number {x : Double} (hfinite : x.isFinite = true) (hpos : x.negative = false)
    {rest : List Char} {ts : List Lexeme} (hrest : NumberEnds rest) (h : Lexes rest ts) :
    Lexes (x.render.toList ++ rest) (⟨.number x, false⟩ :: ts) :=
  .of_begins (.number hfinite hpos rest hrest.fraction fun _ => hrest) (by rintro _ ⟨⟩) (by rintro ⟨⟩) h

theorem lexes_bigint (n : Nat) {rest : List Char} {ts : List Lexeme} (hrest : NumberEnds rest)
    (h : Lexes rest ts) :
    Lexes ((toString n).toList ++ 'n' :: rest) (⟨.bigint (toString n), false⟩ :: ts) :=
  .of_begins (.bigint n hrest.fraction) (by rintro _ ⟨⟩) (by rintro ⟨⟩) h

/-- The lexeme of a quoted text. -/
def stringLexeme (q : Char) (value : String) : Lexeme :=
  ⟨.string value (String.ofList (value.toList.flatMap (escapeChar q))), false⟩

theorem lexes_string {q : Char} (hq : IsQuote q) (value : String) {rest : List Char}
    {ts : List Lexeme} (h : Lexes rest ts) :
    Lexes (quoted q value.toList ++ rest) (stringLexeme q value :: ts) :=
  .of_begins (.string hq value rest) (by rintro _ ⟨⟩) (by rintro ⟨⟩) h

/-! ## Punctuators -/

/-- The characters that may not follow on a punctuator, since they would be read as part of it, of a
number or of a comment. -/
def followers (symbol : String) : List Char :=
  ((rightAngles ++ punctuators).filterMap fun longer =>
      if symbol.toList.isPrefixOf longer.toList then longer.toList[symbol.toList.length]? else none) ++
    if symbol == "." then "0123456789".toList
    else if symbol == "?" then ['.']
    else if symbol == "/" then ['/', '*']
    else []

theorem mem_of_firstPunct {symbols : List String} {symbol : String} {text rest : List Char}
    (h : firstPunct symbols text = some (symbol, rest)) : symbol ∈ symbols := by
  induction symbols with
  | nil => cases h
  | cons s others ih =>
    rw [firstPunct] at h
    split at h
    · cases h
      exact List.mem_cons_self
    · exact List.mem_cons_of_mem s (ih h)

theorem firstPunct_append {symbols : List String} {symbol : String} {rest : List Char}
    (hself : firstPunct symbols symbol.toList = some (symbol, []))
    (hrest : ∀ longer ∈ symbols, symbol.toList.isPrefixOf longer.toList = true →
      ∀ c ∈ rest.head?, longer.toList[symbol.toList.length]? ≠ some c) :
    firstPunct symbols (symbol.toList ++ rest) = some (symbol, rest) := by
  induction symbols with
  | nil => cases hself
  | cons s others ih =>
    rw [firstPunct] at hself ⊢
    split at hself
    · obtain ⟨rfl, -⟩ := Prod.mk.inj (Option.some.inj hself)
      rw [if_pos (by simp), ← String.length_toList, List.drop_left]
    · rename_i hs
      rw [if_neg]
      · exact ih hself fun longer hmem => hrest longer (List.mem_cons_of_mem _ hmem)
      · -- A symbol that the longer text starts with would continue this one.
        intro hinitial
        rw [List.isPrefixOf_iff_prefix] at hs hinitial
        rcases List.prefix_or_prefix_of_prefix hinitial (List.prefix_append _ _) with hle | hle
        · exact hs hle
        · obtain ⟨more, hmore⟩ := hle
          rw [← hmore, List.prefix_append_right_inj] at hinitial
          cases more with
          | nil => exact hs (by rw [← hmore, List.append_nil])
          | cons c more =>
            obtain ⟨after, rfl⟩ := hinitial
            refine hrest s List.mem_cons_self ?_ c rfl ?_
            · rw [List.isPrefixOf_iff_prefix]
              exact ⟨_, hmore⟩
            · rw [← hmore]
              simp

theorem notMem_followers {symbol : String} {rest : List Char}
    (hrest : ∀ c ∈ rest.head?, c ∉ followers symbol) {longer : String}
    (hmem : longer ∈ rightAngles ++ punctuators)
    (hinitial : symbol.toList.isPrefixOf longer.toList = true) :
    ∀ c ∈ rest.head?, longer.toList[symbol.toList.length]? ≠ some c := by
  intro c hc hlonger
  refine hrest c hc (List.mem_append_left _ (List.mem_filterMap.2 ⟨longer, hmem, ?_⟩))
  rw [if_pos hinitial, hlonger]

/-- A punctuator that starts with a right angle bracket. -/
theorem scan_rightAngle {symbol : String} (hs : symbol ∈ rightAngles) {rest : List Char}
    (hrest : ∀ c ∈ rest.head?, c ∉ followers symbol) :
    scan (symbol.toList ++ rest) = some (.punct symbol, rest) := by
  have hself : ∀ s ∈ rightAngles, firstPunct rightAngles s.toList = some (s, []) := by decide
  rw [scan, firstPunct_append (hself symbol hs) fun longer hmem =>
    notMem_followers hrest (List.mem_append_left _ hmem)]

/-- A character that only a punctuator starts with. -/
def startsPunct (c : Char) : Bool :=
  !(isIdentifierStart c || c == '\\' || isAsciiDigit c || c == '"' || c == '\'' || c == '`' ||
    c == '#' || c == '>')

/-- Text whose first characters tell a punctuator from a number and from an optional access. -/
def startsSymbol : List Char → Bool
  | [] => false
  | c :: more =>
    startsPunct c && more.head?.all fun d => !isAsciiDigit d && !(c == '?' && d == '.')

theorem readToken_of_startsPunct {c : Char} {text : List Char} (hc : startsPunct c = true)
    (hpoint : c = '.' → ∀ d ∈ text.head?, isAsciiDigit d = false)
    (hmark : c = '?' → ∀ d ∈ text.head?, d ≠ '.') :
    readToken (c :: text) =
      (firstPunct punctuators (c :: text)).map fun (s, rest) => (.punct s, rest) := by
  have hnumber : (c == '.' && isAsciiDigit (text.headD ' ')) = false := by
    cases text with
    | nil => rw [List.headD_nil, show isAsciiDigit ' ' = false from rfl, Bool.and_false]
    | cons d text =>
      by_cases h : c = '.'
      · rw [List.headD_cons, hpoint h d rfl, Bool.and_false]
      · rw [beq_eq_false_iff_ne.2 h, Bool.false_and]
  have hpunct : readPunct (c :: text) =
      (firstPunct punctuators (c :: text)).map fun (s, rest) => (.punct s, rest) := by
    unfold readPunct
    split
    · rename_i heq
      obtain ⟨rfl, rfl⟩ := List.cons.inj heq
      exact absurd rfl (hmark rfl '.' rfl)
    · rfl
  simp only [startsPunct, Bool.not_eq_true', Bool.or_eq_false_iff] at hc
  obtain ⟨⟨⟨⟨⟨⟨⟨hstart, hslash⟩, hdigit⟩, hdouble⟩, hsingle⟩, htick⟩, hhash⟩, -⟩ := hc
  simp only [readToken, hstart, hslash, hdigit, hdouble, hsingle, htick, hhash, hnumber, hpunct,
    Bool.or_self, Bool.false_eq_true, if_false]

theorem mem_digits_of_isAsciiDigit {c : Char} (h : isAsciiDigit c = true) :
    c ∈ "0123456789".toList := by
  simp only [isAsciiDigit, Bool.and_eq_true, decide_eq_true_eq, Char.le_def] at h
  have hlow : 48 ≤ c.toNat := h.1
  have hhigh : c.toNat ≤ 57 := h.2
  have hdigits : ∀ k < 10, Char.ofNat (48 + k) ∈ "0123456789".toList := by decide
  have hc := hdigits (c.toNat - 48) (by omega)
  rwa [Nat.add_sub_cancel' hlow, Char.ofNat_toNat] at hc

/-- Any other punctuator. -/
theorem scan_punct {symbol : String} (hs : symbol ∈ punctuators) (hangle : symbol ≠ ">")
    {rest : List Char} (hrest : ∀ c ∈ rest.head?, c ∉ followers symbol) :
    scan (symbol.toList ++ rest) = some (.punct symbol, rest) := by
  have hself : ∀ s ∈ punctuators, firstPunct punctuators s.toList = some (s, []) := by
    decide
  have hshape : ∀ s ∈ punctuators, s ≠ ">" → startsSymbol s.toList = true := by decide
  have hfirst := firstPunct_append (hself symbol hs) fun longer hmem =>
    notMem_followers hrest (List.mem_append_right _ hmem)
  have hsymbol := hshape symbol hs hangle
  obtain ⟨chars, rfl⟩ : ∃ chars, symbol = String.ofList chars := ⟨_, String.ofList_toList.symm⟩
  rw [String.toList_ofList] at hsymbol hfirst ⊢
  cases chars with
  | nil => cases hsymbol
  | cons c more =>
    simp only [startsSymbol, Bool.and_eq_true] at hsymbol
    obtain ⟨hstart, hnext⟩ := hsymbol
    have hc : c ≠ '>' := by
      rintro rfl
      cases hstart
    rw [List.cons_append] at hfirst ⊢
    rw [scan, firstPunct_rightAngles hc, readToken_of_startsPunct hstart ?_ ?_, hfirst]
    · rfl
    · rintro rfl d hd
      cases more with
      | nil =>
        rw [← Bool.not_eq_true]
        exact fun hdigit => hrest d hd (List.mem_append_right _ (mem_digits_of_isAsciiDigit hdigit))
      | cons a more =>
        obtain rfl : a = d := Option.some.inj hd
        simp only [List.head?_cons, Option.all_some, Bool.and_eq_true, Bool.not_eq_true'] at hnext
        exact hnext.1
    · rintro rfl d hd rfl
      cases more with
      | nil => exact hrest '.' hd (List.mem_append_right _ List.mem_cons_self)
      | cons a more =>
        obtain rfl : a = '.' := Option.some.inj hd
        cases hnext

theorem skipGap_slash {text : List Char} (h : ∀ c ∈ text.head?, c ≠ '/' ∧ c ≠ '*') :
    skipGap .blank false ('/' :: text) = some (false, '/' :: text) := by
  cases text with
  | nil => rfl
  | cons c text =>
    obtain ⟨hslash, hstar⟩ := h c rfl
    simp [skipGap, hslash, hstar, isLineEnd, isSpace]

/-- Text whose first characters tell it from a gap. -/
def startsNoGap : List Char → Bool
  | [] => false
  | c :: more =>
    !isLineEnd c && !isSpace c && (c != '/' || more.head?.all fun d => d != '/' && d != '*')

theorem skipGap_punct {symbol : String} (hs : symbol ∈ rightAngles ++ punctuators)
    {rest : List Char} (hrest : ∀ c ∈ rest.head?, c ∉ followers symbol) :
    skipGap .blank false (symbol.toList ++ rest) = some (false, symbol.toList ++ rest) := by
  have hshape : ∀ s ∈ rightAngles ++ punctuators, startsNoGap s.toList = true := by decide
  have hsymbol := hshape symbol hs
  obtain ⟨chars, rfl⟩ : ∃ chars, symbol = String.ofList chars := ⟨_, String.ofList_toList.symm⟩
  rw [String.toList_ofList] at hsymbol ⊢
  cases chars with
  | nil => cases hsymbol
  | cons c more =>
    simp only [startsNoGap, Bool.and_eq_true, Bool.or_eq_true, Bool.not_eq_true', bne_iff_ne]
      at hsymbol
    obtain ⟨⟨hline, hspace⟩, hnext⟩ := hsymbol
    by_cases hslash : c = '/'
    · subst hslash
      refine skipGap_slash fun d hd => ?_
      cases more with
      | nil =>
        have hd := hrest d hd
        constructor
        · rintro rfl
          exact hd (List.mem_append_right _ (by decide))
        · rintro rfl
          exact hd (List.mem_append_right _ (by decide))
      | cons a more =>
        obtain rfl : a = d := Option.some.inj hd
        simpa using hnext
    · simp [skipGap, hline, hspace, hslash]

/-- A punctuator in front of text that does not continue it. -/
theorem scan_symbol {symbol : String} (hs : symbol ∈ rightAngles ++ punctuators) {rest : List Char}
    (hrest : ∀ c ∈ rest.head?, c ∉ followers symbol) :
    scan (symbol.toList ++ rest) = some (.punct symbol, rest) := by
  by_cases hangle : symbol ∈ rightAngles
  · exact scan_rightAngle hangle hrest
  · have hpunct := (List.mem_append.1 hs).resolve_left hangle
    refine scan_punct hpunct ?_ hrest
    rintro rfl
    exact hangle (by decide)

theorem lexes_punct {symbol : String} (hs : symbol ∈ rightAngles ++ punctuators) {rest : List Char}
    {ts : List Lexeme} (hrest : ∀ c ∈ rest.head?, c ∉ followers symbol) (h : Lexes rest ts) :
    Lexes (symbol.toList ++ rest) (⟨.punct symbol, false⟩ :: ts) := by
  have hgap := skipGap_punct hs hrest
  have hscan := scan_symbol hs hrest
  cases htext : symbol.toList ++ rest with
  | nil =>
    rw [htext] at hscan
    cases hscan
  | cons c text =>
    rw [htext] at hgap hscan
    exact .token hgap hscan h

/-- A punctuator in front of a blank. -/
theorem lexes_punct_blank {symbol : String} (hs : symbol ∈ rightAngles ++ punctuators)
    {rest : List Char} {ts : List Lexeme} (h : Lexes rest ts) :
    Lexes (symbol.toList ++ ' ' :: rest) (⟨.punct symbol, false⟩ :: ts) := by
  have hblank : ∀ s ∈ rightAngles ++ punctuators, ' ' ∉ followers s := by decide
  refine lexes_punct hs ?_ (lexes_blank h)
  rintro c ⟨⟩
  exact hblank symbol hs

end CustomElement.Grammar
