import CustomElement.Proofs.Script.QuotedText
import CustomElement.Script.Scan

/-!
# The grammar of string literals

The string literals of a module as the language defines them, apart from any reader. The value of one is
a list of UTF-16 code units. A text starts with a literal in at most one way (`StringLiteral.unique`),
and a quoted text is the literal of that text, whatever follows it (`quoted_literal`): each character is
spelled by an escape for its own code units, or it stands for itself (`escapeChar_spells`).
-/

namespace CustomElement.Grammar

open CustomElement.Text CustomElement.Script CustomElement.Emit

/-- The UTF-16 code units of a code point. -/
def codeUnits (n : Nat) : List Nat :=
  if n < 0x10000 then [n] else [0xD800 + (n - 0x10000) / 0x400, 0xDC00 + (n - 0x10000) % 0x400]

/-- The UTF-16 code units of a text. -/
def textUnits (text : List Char) : List Nat :=
  text.flatMap fun c => codeUnits c.toNat

/-! ## Escapes -/

/-- The letters and marks that stand for one character behind a backslash. -/
def singleEscapes : List (Char × Nat) :=
  [('\'', 0x27), ('"', 0x22), ('\\', 0x5C), ('b', 0x08), ('f', 0x0C), ('n', 0x0A), ('r', 0x0D),
    ('t', 0x09), ('v', 0x0B)]

/-- A character behind a backslash that means something by itself, and the code units it stands for. -/
inductive CharEscape : Char → List Nat → Prop
  | single {c : Char} {n : Nat} (h : (c, n) ∈ singleEscapes) : CharEscape c [n]
  | other {c : Char} (hsingle : ∀ n, (c, n) ∉ singleEscapes) (hdigit : isAsciiDigit c = false)
      (hx : c ≠ 'x') (hu : c ≠ 'u') (hline : isLineEnd c = false) : CharEscape c (codeUnits c.toNat)

/-- An escape behind its backslash: the text, the code units it stands for, and the text after it. Modules
have no octal escapes, so a zero is one only where no digit follows. A line that ends behind a backslash is
continued. -/
inductive Escape : List Char → List Nat → List Char → Prop
  | char {c : Char} {units : List Nat} (h : CharEscape c units) (rest : List Char) :
      Escape (c :: rest) units rest
  | zero {rest : List Char} (h : ∀ c ∈ rest.head?, isAsciiDigit c = false) :
      Escape ('0' :: rest) [0] rest
  | hex {a b : Char} (h : ∀ x ∈ [a, b], isHexDigit x = true) (rest : List Char) :
      Escape ('x' :: a :: b :: rest) [hexNumber [a, b]] rest
  | unicode {a b c d : Char} (h : ∀ x ∈ [a, b, c, d], isHexDigit x = true) (rest : List Char) :
      Escape ('u' :: a :: b :: c :: d :: rest) [hexNumber [a, b, c, d]] rest
  | codePoint {digits text rest : List Char} (h : ∀ x ∈ digits, isHexDigit x = true) (hne : digits ≠ [])
      (hmax : hexNumber digits ≤ 0x10FFFF) (htext : text = digits ++ '\x7d' :: rest) :
      Escape ('u' :: '\x7b' :: text) (codeUnits (hexNumber digits)) rest
  | line {c : Char} {rest : List Char} (h : isLineEnd c = true)
      (hpair : c = '\r' → rest.head? ≠ some '\n') : Escape (c :: rest) [] rest
  | linePair (rest : List Char) : Escape ('\r' :: '\n' :: rest) [] rest

/-- No other escape starts with a character that means something by itself. -/
theorem CharEscape.alone {c : Char} {units : List Nat} (h : CharEscape c units) :
    isAsciiDigit c = false ∧ c ≠ 'x' ∧ c ≠ 'u' ∧ isLineEnd c = false := by
  cases h with
  | single h =>
    have hall : ∀ e ∈ singleEscapes, isAsciiDigit e.1 = false ∧ e.1 ≠ 'x' ∧ e.1 ≠ 'u' ∧
        isLineEnd e.1 = false := by
      decide
    exact hall _ h
  | other _ hdigit hx hu hline => exact ⟨hdigit, hx, hu, hline⟩

theorem CharEscape.unique {c : Char} {units units' : List Nat} (h : CharEscape c units)
    (h' : CharEscape c units') : units' = units := by
  cases h with
  | single h =>
    cases h' with
    | single h' =>
      have hone : ∀ e ∈ singleEscapes, ∀ e' ∈ singleEscapes, e'.1 = e.1 → e'.2 = e.2 := by decide
      exact congrArg ([·]) (hone _ h _ h' rfl)
    | other hsingle => exact absurd h (hsingle _)
  | other hsingle =>
    cases h' with
    | single h' => exact absurd h' (hsingle _)
    | other => rfl

/-- Digits up to a brace are told from what follows. -/
theorem braced_inj {digits digits' rest rest' : List Char} (h : ∀ x ∈ digits, isHexDigit x = true)
    (h' : ∀ x ∈ digits', isHexDigit x = true)
    (heq : digits ++ '\x7d' :: rest = digits' ++ '\x7d' :: rest') : digits' = digits ∧ rest' = rest := by
  induction digits generalizing digits' with
  | nil =>
    cases digits' with
    | nil => exact ⟨rfl, (List.cons.inj heq).2.symm⟩
    | cons d digits' =>
      obtain ⟨rfl, -⟩ := List.cons.inj heq
      cases h' '\x7d' List.mem_cons_self
  | cons d digits ih =>
    cases digits' with
    | nil =>
      obtain ⟨rfl, -⟩ := List.cons.inj heq
      cases h '\x7d' List.mem_cons_self
    | cons d' digits' =>
      obtain ⟨rfl, hmore⟩ := List.cons.inj heq
      obtain ⟨rfl, hrest⟩ := ih (fun x hx => h x (List.mem_cons_of_mem _ hx))
        (fun x hx => h' x (List.mem_cons_of_mem _ hx)) hmore
      exact ⟨rfl, hrest⟩

/-- A text starts with one escape at most. -/
theorem Escape.unique {text rest rest' : List Char} {units units' : List Nat}
    (h : Escape text units rest) (h' : Escape text units' rest') : units' = units ∧ rest' = rest := by
  cases h with
  | char h =>
    obtain ⟨hdigit, hx, hu, hline⟩ := h.alone
    cases h' with
    | char h' => exact ⟨h.unique h', rfl⟩
    | zero => cases hdigit
    | hex => exact absurd rfl hx
    | unicode | codePoint => exact absurd rfl hu
    | line h' => cases hline.symm.trans h'
    | linePair => cases hline
  | zero =>
    cases h' with
    | char h' => cases h'.alone.1
    | zero => exact ⟨rfl, rfl⟩
    | line h' => cases h'
  | hex =>
    cases h' with
    | char h' => exact absurd rfl h'.alone.2.1
    | hex => exact ⟨rfl, rfl⟩
    | line h' => cases h'
  | unicode h =>
    cases h' with
    | char h' => exact absurd rfl h'.alone.2.2.1
    | unicode => exact ⟨rfl, rfl⟩
    | codePoint => cases h '\x7b' List.mem_cons_self
    | line h' => cases h'
  | codePoint h _ _ htext =>
    cases h' with
    | char h' => exact absurd rfl h'.alone.2.2.1
    | unicode h' => cases h' '\x7b' List.mem_cons_self
    | codePoint h' _ _ htext' =>
      obtain ⟨rfl, rfl⟩ := braced_inj h h' (htext.symm.trans htext')
      exact ⟨rfl, rfl⟩
    | line h' => cases h'
  | line h hpair =>
    cases h' with
    | char h' => cases h.symm.trans h'.alone.2.2.2
    | zero | hex | unicode | codePoint => cases h
    | line => exact ⟨rfl, rfl⟩
    | linePair => exact absurd rfl (hpair rfl)
  | linePair =>
    cases h' with
    | char h' => cases h'.alone.2.2.2
    | line _ hpair => exact absurd rfl (hpair rfl)
    | linePair => exact ⟨rfl, rfl⟩

/-! ## Literals -/

/-- A string behind its opening quotation mark: the text, the code units of the string, and the text
behind the closing mark. A line feed and a carriage return cannot stand in it. -/
inductive StringBody (q : Char) : List Char → List Nat → List Char → Prop
  | close (rest : List Char) : StringBody q (q :: rest) [] rest
  | char {c : Char} {text rest : List Char} {units : List Nat} (hquote : c ≠ q) (hslash : c ≠ '\\')
      (hfeed : c ≠ '\n') (hreturn : c ≠ '\r') (h : StringBody q text units rest) :
      StringBody q (c :: text) (codeUnits c.toNat ++ units) rest
  | escape {text after rest : List Char} {first units : List Nat} (hescape : Escape text first after)
      (h : StringBody q after units rest) : StringBody q ('\\' :: text) (first ++ units) rest

/-- A text that starts with a string literal, the code units of the string, and the text after it. -/
inductive StringLiteral : List Char → List Nat → List Char → Prop
  | mk {q : Char} {text rest : List Char} {units : List Nat} (hq : IsQuote q)
      (h : StringBody q text units rest) : StringLiteral (q :: text) units rest

theorem IsQuote.ne_slash {q : Char} (hq : IsQuote q) : q ≠ '\\' := by
  rcases hq with rfl | rfl <;> decide

theorem StringBody.unique {q : Char} (hq : IsQuote q) {text rest rest' : List Char}
    {units units' : List Nat} (h : StringBody q text units rest) (h' : StringBody q text units' rest') :
    units' = units ∧ rest' = rest := by
  induction h generalizing units' with
  | close =>
    cases h' with
    | close => exact ⟨rfl, rfl⟩
    | char hquote => exact absurd rfl hquote
    | escape => exact absurd rfl (IsQuote.ne_slash hq)
  | char hquote hslash hfeed hreturn h ih =>
    cases h' with
    | close => exact absurd rfl hquote
    | char _ _ _ _ h' =>
      obtain ⟨rfl, rfl⟩ := ih h'
      exact ⟨rfl, rfl⟩
    | escape => exact absurd rfl hslash
  | escape hescape h ih =>
    cases h' with
    | close => exact absurd rfl (IsQuote.ne_slash hq)
    | char _ hslash => exact absurd rfl hslash
    | escape hescape' h' =>
      obtain ⟨rfl, rfl⟩ := hescape.unique hescape'
      obtain ⟨rfl, rfl⟩ := ih h'
      exact ⟨rfl, rfl⟩

/-- A text starts with one string literal at most. -/
theorem StringLiteral.unique {text rest rest' : List Char} {units units' : List Nat}
    (h : StringLiteral text units rest) (h' : StringLiteral text units' rest') :
    units' = units ∧ rest' = rest := by
  cases h with
  | mk hq h =>
    cases h' with
    | mk _ h' => exact h.unique hq h'

/-! ## Quoted texts -/

theorem escape_hexPair {n : Nat} (h : n < 0x20) (text : List Char) :
    Escape ('x' :: Nat.digitChar (n / 16) :: Nat.digitChar (n % 16) :: text) (codeUnits n) text := by
  have hex : ∀ n < 0x20, [Nat.digitChar (n / 16), Nat.digitChar (n % 16)].all isHexDigit = true ∧
      [hexNumber [Nat.digitChar (n / 16), Nat.digitChar (n % 16)]] = codeUnits n := by
    decide
  obtain ⟨hdigits, hvalue⟩ := hex n h
  rw [← hvalue]
  exact .hex (List.all_eq_true.1 hdigits) text

/-- A character is spelled by an escape for its code units, or it stands for itself. In both cases the
spelling has no line end in it. -/
theorem escapeChar_spells {q : Char} (hq : IsQuote q) (c : Char) :
    (∃ after, escapeChar q c = '\\' :: after ∧ (∀ x ∈ after, isLineEnd x = false) ∧
      ∀ text, Escape (after ++ text) (codeUnits c.toNat) text) ∨
    escapeChar q c = [c] ∧ c ≠ q ∧ c ≠ '\\' ∧ isLineEnd c = false := by
  have single : ∀ {c d : Char}, (d, c.toNat) ∈ singleEscapes → c.toNat < 0x10000 → ∀ text,
      Escape ([d] ++ text) (codeUnits c.toNat) text := fun hmem hlow text => by
    rw [codeUnits, if_pos hlow]
    exact .char (.single hmem) text
  have plain : ∀ {after : List Char}, (after.all fun x => !isLineEnd x) = true →
      ∀ x ∈ after, isLineEnd x = false := fun h x hx => by
    simpa using List.all_eq_true.1 h x hx
  unfold escapeChar
  by_cases hslash : c = '\\'
  · subst hslash
    exact .inl ⟨['\\'], rfl, plain rfl, single (by decide) (by decide)⟩
  by_cases hfeed : c = '\n'
  · subst hfeed
    exact .inl ⟨['n'], rfl, plain rfl, single (by decide) (by decide)⟩
  by_cases hreturn : c = '\r'
  · subst hreturn
    exact .inl ⟨['r'], rfl, plain rfl, single (by decide) (by decide)⟩
  by_cases htab : c = '\t'
  · subst htab
    exact .inl ⟨['t'], rfl, plain rfl, single (by decide) (by decide)⟩
  simp only [beq_iff_eq, hslash, hfeed, hreturn, htab, if_false]
  split
  · rename_i hline
    rw [hline]
    exact .inl ⟨_, rfl, plain rfl, Escape.unicode (List.all_eq_true.1 rfl)⟩
  rename_i hline
  split
  · rename_i hparagraph
    rw [hparagraph]
    exact .inl ⟨_, rfl, plain rfl, Escape.unicode (List.all_eq_true.1 rfl)⟩
  rename_i hparagraph
  split
  · rename_i hquote
    subst hquote
    rcases hq with rfl | rfl
    · exact .inl ⟨['"'], rfl, plain rfl, single (by decide) (by decide)⟩
    · exact .inl ⟨['\''], rfl, plain rfl, single (by decide) (by decide)⟩
  · rename_i hquote
    split
    · rename_i hcontrol
      have hdigits : ∀ n < 0x20, (['x', Nat.digitChar (n / 16), Nat.digitChar (n % 16)].all fun x =>
          !isLineEnd x) = true := by
        decide
      exact .inl ⟨_, rfl, plain (hdigits _ hcontrol), escape_hexPair hcontrol⟩
    · exact .inr ⟨rfl, hquote, hslash, by simp [isLineEnd, hfeed, hreturn, hline, hparagraph]⟩

theorem stringBody_quoted {q : Char} (hq : IsQuote q) (value rest : List Char) :
    StringBody q (value.flatMap (escapeChar q) ++ q :: rest) (textUnits value) rest := by
  induction value with
  | nil => exact .close rest
  | cons c value ih =>
    rw [List.flatMap_cons, List.append_assoc, textUnits, List.flatMap_cons]
    rcases escapeChar_spells hq c with ⟨after, hspelled, -, hescape⟩ | ⟨hplain, hquote, hslash, hline⟩
    · rw [hspelled]
      exact .escape (hescape _) ih
    · rw [hplain]
      refine .char hquote hslash ?_ ?_ ih
      · rintro rfl
        cases hline
      · rintro rfl
        cases hline

theorem isLineEnd_quoted {q : Char} (hq : IsQuote q) (value : List Char) :
    ∀ x ∈ quoted q value, isLineEnd x = false := by
  have hquote : isLineEnd q = false := by rcases hq with rfl | rfl <;> rfl
  have hspelling : ∀ c, ∀ x ∈ escapeChar q c, isLineEnd x = false := by
    intro c x hx
    rcases escapeChar_spells hq c with ⟨after, hspelled, hplain, -⟩ | ⟨hplain, -, -, hline⟩
    · rw [hspelled] at hx
      rcases List.mem_cons.1 hx with rfl | hx
      · rfl
      · exact hplain x hx
    · rw [hplain, List.mem_singleton] at hx
      rwa [hx]
  intro x hx
  simp only [quoted, List.mem_cons, List.mem_append, List.mem_flatMap, List.not_mem_nil, or_false] at hx
  rcases hx with rfl | ⟨c, -, hx⟩ | rfl
  · exact hquote
  · exact hspelling c x hx
  · exact hquote

/-- A quoted text is a string literal of that text and nothing else, whatever follows: the grammar gives
its code units and the text behind it, no line ends in it, and it is scanned as one token for the text. -/
theorem quoted_literal {q : Char} (hq : IsQuote q) (value rest : List Char) :
    (∀ units after, StringLiteral (quoted q value ++ rest) units after ↔
      units = textUnits value ∧ after = rest) ∧
    (∀ c ∈ quoted q value, isLineEnd c = false) ∧
    readToken (quoted q value ++ rest) =
      some (.string (String.ofList value) (String.ofList (value.flatMap (escapeChar q))), rest) := by
  have htext : quoted q value ++ rest = q :: (value.flatMap (escapeChar q) ++ q :: rest) := by
    rw [quoted, List.cons_append, List.append_assoc, List.singleton_append]
  have hliteral : StringLiteral (quoted q value ++ rest) (textUnits value) rest := by
    rw [htext]
    exact .mk hq (stringBody_quoted hq value rest)
  refine ⟨fun units after => ⟨hliteral.unique, ?_⟩, isLineEnd_quoted hq value, ?_⟩
  · rintro ⟨rfl, rfl⟩
    exact hliteral
  · rw [htext]
    rcases hq with rfl | rfl
    · exact readString_quoted (.inl rfl) value rest
    · exact readString_quoted (.inr rfl) value rest

/-- A text with both quotation marks, a backslash in front of one and another at its end, a control
character in front of a digit, a line separator and a character of two code units. -/
def hostileText : List Char :=
  ['\'', '\\', '"', Char.ofNat 0, '1', '\n', Char.ofNat 0x2028, Char.ofNat 0x1F600, '\\']

theorem hostileText_literal : IsQuote '\'' ∧
    (∀ units after, StringLiteral (quoted '\'' hostileText ++ "';".toList) units after ↔
      units = textUnits hostileText ∧ after = "';".toList) ∧
    (∀ c ∈ quoted '\'' hostileText, isLineEnd c = false) ∧
    readToken (quoted '\'' hostileText ++ "';".toList) =
      some (.string (String.ofList hostileText)
        (String.ofList (hostileText.flatMap (escapeChar '\''))), "';".toList) :=
  ⟨.inr rfl, quoted_literal (.inr rfl) hostileText "';".toList⟩

end CustomElement.Grammar
