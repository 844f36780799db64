import CustomElement.Emit.Quoted
import CustomElement.Script.QuotedText

/-!
# String literals read back

A quoted text reads back as the text, whatever follows it (`readString_quoted`): every character of
the text is read back from its own spelling (`stringCodes_escapeChar`), and characters are never
surrogates, so their code points are a text again (`stringOfCodes_toNat`).
-/

namespace CustomElement.Script

open CustomElement.Text CustomElement.Emit

/-- A quotation mark of a string literal. -/
def IsQuote (q : Char) : Prop :=
  q = '"' ∨ q = '\''

theorem readEscape_hex {n : Nat} (h : n < 0x20) (text : List Char) :
    readEscape false ('x' :: Nat.digitChar (n / 16) :: Nat.digitChar (n % 16) :: text) =
      some ([n], text) := by
  have hex : ∀ n < 0x20, (isHexDigit (Nat.digitChar (n / 16)) &&
      isHexDigit (Nat.digitChar (n % 16))) = true ∧
      hexNumber [Nat.digitChar (n / 16), Nat.digitChar (n % 16)] = n := by decide
  obtain ⟨hdigits, hvalue⟩ := hex n h
  rw [readEscape, if_pos hdigits, hvalue]

theorem readEscape_unicode {a b c d : Char} {n : Nat} (hne : a ≠ '\x7b')
    (hfour : ∀ text, fourDigits (a :: b :: c :: d :: text) = some (n, text))
    (hlow : isHighSurrogate n = false) (text : List Char) :
    readEscape false ('u' :: a :: b :: c :: d :: text) = some ([n], text) := by
  have h : unicodeEscape (a :: b :: c :: d :: text) = some (n, text) := by
    unfold unicodeEscape
    split
    · rename_i heq
      exact absurd (List.cons.inj heq).1 hne
    · rw [hfour]
      split
      · rename_i heq
        obtain ⟨rfl, rfl⟩ := Prod.mk.inj (Option.some.inj heq)
        simp [hlow]
      · rfl
  simp [readEscape, h]

theorem stringCodes_escape {q : Char} (hq : IsQuote q) {n : Nat} {after rest : List Char}
    (h : readEscape false after = some ([n], rest)) (fuel : Nat) (acc : List Nat) :
    stringCodes q (fuel + 1) acc ('\\' :: after) = stringCodes q fuel (n :: acc) rest := by
  have hslash : ('\\' == q) = false := by
    rcases hq with rfl | rfl <;> rfl
  simp only [stringCodes, hslash, Bool.false_eq_true, if_false, beq_self_eq_true, if_true, h]
  rfl

/-- A character is spelled by an escape that is read back as it, or it stands for itself. -/
theorem escapeChar_cases {q : Char} (hq : IsQuote q) (c : Char) :
    (∃ after, escapeChar q c = '\\' :: after ∧
      ∀ text, readEscape false (after ++ text) = some ([c.toNat], text)) ∨
    escapeChar q c = [c] ∧ c ≠ q ∧ c ≠ '\\' ∧ c ≠ '\n' ∧ c ≠ '\r' := by
  unfold escapeChar
  by_cases hslash : c = '\\'
  · subst hslash
    exact .inl ⟨_, rfl, fun _ => rfl⟩
  by_cases hfeed : c = '\n'
  · subst hfeed
    exact .inl ⟨_, rfl, fun _ => rfl⟩
  by_cases hreturn : c = '\r'
  · subst hreturn
    exact .inl ⟨_, rfl, fun _ => rfl⟩
  by_cases htab : c = '\t'
  · subst htab
    exact .inl ⟨_, rfl, fun _ => rfl⟩
  simp only [beq_iff_eq, hslash, hfeed, hreturn, htab, if_false]
  split
  · rename_i hline
    rw [hline]
    exact .inl ⟨_, rfl, readEscape_unicode (by decide) (fun _ => rfl) rfl⟩
  split
  · rename_i hparagraph
    rw [hparagraph]
    exact .inl ⟨_, rfl, readEscape_unicode (by decide) (fun _ => rfl) rfl⟩
  split
  · rename_i hquote
    subst hquote
    rcases hq with rfl | rfl
    · exact .inl ⟨_, rfl, fun _ => rfl⟩
    · exact .inl ⟨_, rfl, fun _ => rfl⟩
  · rename_i hquote
    split
    · rename_i hcontrol
      exact .inl ⟨_, rfl, readEscape_hex hcontrol⟩
    · exact .inr ⟨rfl, hquote, hslash, hfeed, hreturn⟩

/-- One character of a string literal is read back from its spelling. -/
theorem stringCodes_escapeChar {q : Char} (hq : IsQuote q) (c : Char) (fuel : Nat) (acc : List Nat)
    (text : List Char) :
    stringCodes q (fuel + 1) acc (escapeChar q c ++ text) =
      stringCodes q fuel (c.toNat :: acc) text := by
  rcases escapeChar_cases hq c with ⟨after, hspelled, hread⟩ | ⟨hplain, hquote, hslash, hfeed, hreturn⟩
  · rw [hspelled]
    exact stringCodes_escape hq (hread text) fuel acc
  · rw [hplain]
    simp [stringCodes, hquote, hslash, hfeed, hreturn]

theorem stringCodes_quoted {q : Char} (hq : IsQuote q) (value rest : List Char) (extra : Nat)
    (acc : List Nat) :
    stringCodes q (value.length + extra + 1) acc (value.flatMap (escapeChar q) ++ q :: rest) =
      some (acc.reverse ++ value.map Char.toNat, rest) := by
  induction value generalizing acc with
  | nil => simp [stringCodes]
  | cons c value ih =>
    rw [List.flatMap_cons, List.append_assoc,
      show (c :: value).length + extra + 1 = (value.length + extra + 1) + 1 by
        simp only [List.length_cons]; omega,
      stringCodes_escapeChar hq, ih]
    simp

theorem isSurrogate_toNat (c : Char) : isSurrogate c.toNat = false := by
  have h := c.valid
  simp only [isSurrogate, Bool.and_eq_false_iff, decide_eq_false_iff_not]
  simp only [UInt32.isValidChar, Nat.isValidChar] at h
  change c.toNat < 55296 ∨ 57343 < c.toNat ∧ c.toNat < 1114112 at h
  omega

/-- The code points of a text are that text again. -/
theorem stringOfCodes_toNat (value : List Char) :
    stringOfCodes (value.map Char.toNat) = String.ofList value := by
  have hnone : (value.map Char.toNat).any isSurrogate = false := by
    simp [isSurrogate_toNat]
  rw [stringOfCodes, hnone, if_neg Bool.false_ne_true, List.map_map]
  congr 1
  exact (List.map_congr_left fun c _ => Char.ofNat_toNat c).trans (List.map_id value)

theorem length_le_escaped (q : Char) (value : List Char) :
    value.length ≤ (value.flatMap (escapeChar q)).length := by
  induction value with
  | nil => exact Nat.le_refl _
  | cons c value ih =>
    have hc : 1 ≤ (escapeChar q c).length := by
      unfold escapeChar
      repeat' split
      all_goals simp
    simp only [List.flatMap_cons, List.length_append, List.length_cons]
    omega

/-- A quoted text reads back as the text. -/
theorem readString_quoted {q : Char} (hq : IsQuote q) (value rest : List Char) :
    readString q (value.flatMap (escapeChar q) ++ q :: rest) =
      some (.string (String.ofList value) (String.ofList (value.flatMap (escapeChar q))), rest) := by
  have hle := length_le_escaped q value
  obtain ⟨extra, hextra⟩ : ∃ extra, (value.flatMap (escapeChar q) ++ q :: rest).length + 1 =
      value.length + extra + 1 :=
    ⟨(value.flatMap (escapeChar q) ++ q :: rest).length - value.length, by
      rw [List.length_append]; omega⟩
  have hraw : (value.flatMap (escapeChar q) ++ q :: rest).length - rest.length - 1 =
      (value.flatMap (escapeChar q)).length := by
    rw [List.length_append, List.length_cons]
    omega
  unfold readString
  rw [hextra, stringCodes_quoted hq]
  simp only [List.reverse_nil, List.nil_append, Option.bind_eq_bind, Option.bind_some,
    stringOfCodes_toNat, hraw, List.take_left]

end CustomElement.Script
