import CustomElement.Proofs.Emit.Spelling
import CustomElement.Proofs.Script.TextPlaces
import Mathlib.Data.Bool.AllAny

/-!
# Printed tokens

Where a printed token ends (`Sign.Ends`). Whether two tokens run into each other depends on their kinds and
on the gap between them only: a gap ends every token (`Gap.ends`), and without one a token ends in front
of those that may follow it (`Sign.ends_of_mayFollow`).
-/

namespace CustomElement.Emit

open CustomElement.Text CustomElement.Grammar
open CustomElement.Script (punctuators)

/-- What stands in front of a token. -/
inductive Gap where
  | none
  | blank
  | line (level : Nat)
deriving DecidableEq, Repr

/-- A token. -/
inductive Sign where
  | word (w : String)
  | punct (symbol : String)
  | string (value : String)
deriving DecidableEq, Repr

/-- The text of a gap. -/
def Gap.render (o : Options) : Gap → List Char
  | none => []
  | blank => [' ']
  | line level => '\n' :: List.replicate (level * o.indent) ' '

namespace Sign

/-- The text of a token. -/
def render (o : Options) : Sign → List Char
  | word w => w.toList
  | punct symbol => symbol.toList
  | string value => quoted o.quote value.toList

/-- Whether it is a token of the language. A right angle bracket is left out; it may be part of a longer one. -/
def isToken : Sign → Bool
  | word w => isIdentifierName w.toList
  | punct symbol => punctuators.contains symbol && symbol != ">"
  | string _ => true

/-- Whether a token may stand right behind another one. -/
def mayFollow : Sign → Sign → Bool
  | word _, word _ => false
  | punct symbol, punct next => next.toList.head?.all fun c => !((followers symbol).contains c)
  | _, _ => true

/-- Text that a token does not run into. -/
def Ends : Sign → List Char → Prop
  | word _, rest => WordEnds rest
  | punct symbol, rest => ∀ c ∈ rest.head?, c ∉ followers symbol
  | string _, _ => True

end Sign

section Simp

variable {o : Options} {d : Doc}

@[simp] theorem render_nil : Doc.render o [] = [] :=
  rfl

@[simp] theorem render_line {level : Nat} :
    Doc.render o (.line level :: d) = Gap.render o (.line level) ++ d.render o :=
  rfl

@[simp] theorem render_string {value : String} :
    Doc.render o (.string value :: d) = quoted o.quote value.toList ++ d.render o :=
  rfl

theorem render_guard (o : Options) (d : Doc) :
    Doc.render o (.guard :: d) = (if o.semicolons then [] else [';']) ++ d.render o :=
  rfl

theorem render_stop (o : Options) : Doc.render o [.stop] = if o.semicolons then [';'] else [] := by
  simp [Doc.render, Piece.render]

end Simp

/-! ## Gaps -/

/-- A gap ends every token. -/
theorem Gap.ends (o : Options) {gap : Gap} (h : gap ≠ .none) {s : Sign} (hs : s.isToken = true)
    (rest : List Char) : s.Ends (gap.render o ++ rest) := by
  obtain ⟨c, more, hmore, hc⟩ : ∃ c more, gap.render o ++ rest = c :: more ∧ c ∈ [' ', '\n'] := by
    cases gap with
    | none => exact absurd rfl h
    | blank => exact ⟨' ', rest, rfl, by decide⟩
    | line level => exact ⟨'\n', _, rfl, by decide⟩
  rw [hmore]
  cases s with
  | word w =>
    have hends : ∀ c ∈ [' ', '\n'], isIdentifierPart c = false ∧ c ≠ '\\' :=
      List.all_iff_forall_prop.1 (by decide)
    rintro d ⟨⟩
    exact hends c hc
  | punct symbol =>
    have hnone : ∀ symbol ∈ punctuators, ' ' ∉ followers symbol ∧ '\n' ∉ followers symbol := by decide
    simp only [Sign.isToken, Bool.and_eq_true, List.contains_iff_mem] at hs
    obtain ⟨hblank, hline⟩ := hnone symbol hs.1
    rintro d ⟨⟩
    rcases List.mem_pair.1 hc with rfl | rfl
    · exact hblank
    · exact hline
  | string value => trivial

/-! ## Tokens -/

theorem isQuote_quote (o : Options) : Script.IsQuote o.quote := by
  unfold Options.quote
  split
  · exact .inr rfl
  · exact .inl rfl

/-- What a punctuator starts with ends a word. -/
theorem head_punct {symbol : String} (h : symbol ∈ punctuators) :
    ∃ c more, symbol.toList = c :: more ∧ isIdentifierPart c = false ∧ c ≠ '\\' := by
  have hall : ∀ symbol ∈ punctuators,
      (symbol.toList.head?.any fun c => !isIdentifierPart c && c != '\\') = true := by decide
  cases hlist : symbol.toList with
  | nil =>
    have hc := hall symbol h
    rw [hlist] at hc
    cases hc
  | cons c more =>
    have hc := hall symbol h
    rw [hlist] at hc
    exact ⟨c, more, rfl, by simpa using hc⟩

/-- A token ends in front of one that may follow. -/
theorem Sign.ends_of_mayFollow {s next : Sign} (hs : s.isToken = true) (hnext : next.isToken = true)
    (h : s.mayFollow next = true) (o : Options) (rest : List Char) : s.Ends (next.render o ++ rest) := by
  have hquote : o.quote = '\'' ∨ o.quote = '"' := by
    unfold Options.quote
    split
    · exact .inl rfl
    · exact .inr rfl
  cases s with
  | word w =>
    cases next with
    | word => cases h
    | punct symbol =>
      simp only [Sign.isToken, Bool.and_eq_true, List.contains_iff_mem] at hnext
      obtain ⟨c, more, hcons, hc⟩ := head_punct hnext.1
      rw [Sign.render, hcons]
      rintro d ⟨⟩
      exact hc
    | string value =>
      rintro d ⟨⟩
      rcases hquote with hq | hq <;> rw [hq] <;> decide
  | punct symbol =>
    simp only [Sign.isToken, Bool.and_eq_true, List.contains_iff_mem] at hs
    cases next with
    | word w =>
      have hnone : ∀ symbol ∈ punctuators, ((followers symbol).all fun c => !isIdentifierStart c) = true := by
        decide
      obtain ⟨c, more, hcons, hc⟩ := head_of_identifierName hnext
      rw [Sign.render, hcons]
      rintro d ⟨⟩ hmem
      have hother := List.all_eq_true.1 (hnone symbol hs.1) c hmem
      rw [hc] at hother
      cases hother
    | punct next =>
      simp only [Sign.isToken, Bool.and_eq_true, List.contains_iff_mem] at hnext
      obtain ⟨c, more, hcons, -⟩ := head_punct hnext.1
      rw [Sign.render, hcons]
      rintro d ⟨⟩
      simpa [Sign.mayFollow, hcons] using h
    | string value =>
      have hnone : ∀ symbol ∈ punctuators, '\'' ∉ followers symbol ∧ '"' ∉ followers symbol := by decide
      obtain ⟨hsingle, hdouble⟩ := hnone symbol hs.1
      rintro d ⟨⟩
      rcases hquote with hq | hq <;> rw [hq]
      · exact hsingle
      · exact hdouble
  | string value => trivial

/-! ## Documents -/

/-- Any text. -/
def AnyText (_ : List Char) : Prop :=
  True

/-- Whether nothing continues a token. -/
def Sign.isClosed : Sign → Bool
  | .word _ => false
  | .punct symbol => (followers symbol).isEmpty
  | .string _ => true

/-- Whether a token is a word. -/
def Sign.isWord : Sign → Bool
  | .word _ => true
  | _ => false

theorem Sign.ends_of_isClosed {s : Sign} (h : s.isClosed = true) (rest : List Char) : s.Ends rest := by
  cases s with
  | word => cases h
  | punct symbol =>
    intro c _
    rw [List.isEmpty_iff.1 h]
    exact List.not_mem_nil
  | string => trivial

theorem Sign.ends_of_isWord {s : Sign} (h : s.isWord = true) {rest : List Char} (hrest : WordEnds rest) :
    s.Ends rest := by
  cases s with
  | word => exact hrest
  | _ => cases h

/-! ## Printed parts -/

/-- A part is made without an error, and has a property. -/
def Gives {ε α : Type} (part : Except ε α) (P : α → Prop) : Prop :=
  ∃ a, part = .ok a ∧ P a

namespace Gives

variable {ε α β : Type} {part : Except ε α} {P : α → Prop} {Q : β → Prop}

theorem pure {a : α} (h : P a) : Gives (pure a : Except ε α) P :=
  ⟨a, rfl, h⟩

theorem bind {k : α → Except ε β} (h : Gives part P) (hk : ∀ a, P a → Gives (k a) Q) : Gives (part >>= k) Q := by
  obtain ⟨a, rfl, ha⟩ := h
  exact hk a ha

/-- The last part of a node. -/
theorem last {f : α → β} (h : Gives part P) (hf : ∀ a, P a → Q (f a)) :
    Gives (do let a ← part; Pure.pure (f a)) Q :=
  h.bind fun a ha => .pure (hf a ha)

theorem mono {P' : α → Prop} (h : Gives part P) (hP : ∀ a, P a → P' a) : Gives part P' := by
  obtain ⟨a, ha, hPa⟩ := h
  exact ⟨a, ha, hP a hPa⟩

end Gives

end CustomElement.Emit
