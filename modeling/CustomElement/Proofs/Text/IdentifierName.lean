import CustomElement.Text.CharClass

/-!
# Characters of identifiers

A character that may start an identifier may also continue one (`isIdentifierPart_of_start`), so an
identifier is a run of characters that continue identifiers (`all_isIdentifierPart`).
-/

namespace CustomElement.Text

theorem isIdentifierPart_of_start {c : Char} (h : isIdentifierStart c = true) :
    isIdentifierPart c = true := by
  unfold isIdentifierStart at h
  unfold isIdentifierPart
  split
  · rename_i hascii
    rw [if_pos hascii] at h
    simp only [Bool.or_eq_true] at h ⊢
    rcases h with (h | h) | h
    · exact .inl (.inl (.inl h))
    · exact .inl (.inr h)
    · exact .inr h
  · rename_i hascii
    rw [if_neg hascii] at h
    rw [h]
    rfl

theorem all_isIdentifierPart {name : List Char} (h : isIdentifierName name = true) :
    ∀ c ∈ name, isIdentifierPart c = true := by
  cases name with
  | nil => cases h
  | cons a name =>
    simp only [isIdentifierName, Bool.and_eq_true, List.all_eq_true] at h
    intro c hc
    rcases List.mem_cons.1 hc with rfl | hc
    · exact isIdentifierPart_of_start h.1
    · exact h.2 c hc

theorem head_of_identifierName {name : List Char} (h : isIdentifierName name = true) :
    ∃ c cs, name = c :: cs ∧ isIdentifierStart c = true := by
  cases name with
  | nil => cases h
  | cons c cs =>
    simp only [isIdentifierName, Bool.and_eq_true] at h
    exact ⟨c, cs, rfl, h.1⟩

theorem isIdentifierStart_of_digit {c : Char} (h : isAsciiDigit c = true) :
    isIdentifierStart c = false := by
  simp only [isAsciiDigit, Bool.and_eq_true, decide_eq_true_eq, Char.le_def] at h
  have hlow : 48 ≤ c.toNat := h.1
  have hhigh : c.toNat ≤ 57 := h.2
  have hdigits : ∀ k < 10, isIdentifierStart (Char.ofNat (48 + k)) = false := by decide
  have hc := hdigits (c.toNat - 48) (by omega)
  rwa [Nat.add_sub_cancel' hlow, Char.ofNat_toNat] at hc

end CustomElement.Text
