import CustomElement.Proofs.Number.Positional
import CustomElement.Script.NumberText

/-!
# Number literals read back

The text that a program shows for a finite number is a number literal of that value
(`readNumber_render`), and the decimal digits of a natural in front of an `n` are a big integer
(`readNumber_bigint`). Both hold in front of any text that cannot continue a number.
-/

namespace CustomElement.Script

open CustomElement.Text

/-- Text that does not continue a number. -/
def NumberEnds (rest : List Char) : Prop :=
  ∀ c ∈ rest.head?, isAsciiDigit c = false ∧ isIdentifierStart c = false ∧ c ≠ '.'

/-- Text that does not continue a number with a decimal point. -/
def FractionEnds (rest : List Char) : Prop :=
  ∀ c ∈ rest.head?, isAsciiDigit c = false ∧ isIdentifierStart c = false

theorem NumberEnds.fraction {rest : List Char} (h : NumberEnds rest) : FractionEnds rest :=
  fun c hc => ⟨(h c hc).1, (h c hc).2.1⟩

theorem checked_of_ends {rest : List Char} (h : FractionEnds rest) (t : Token) :
    checked t rest = some (t, rest) := by
  cases rest with
  | nil => rfl
  | cons c rest =>
    obtain ⟨hdigit, hstart⟩ := h c rfl
    simp [checked, hdigit, hstart]

theorem optionalExponent_of_ends {rest : List Char} (h : FractionEnds rest) :
    optionalExponent rest = some (0, rest) := by
  unfold optionalExponent
  split
  · exact absurd (h 'e' rfl).2 (by decide)
  · exact absurd (h 'E' rfl).2 (by decide)
  · rfl

theorem moreDigits_append {digits rest : List Char} (hdigits : ∀ c ∈ digits, isAsciiDigit c = true)
    (hrest : ∀ c ∈ rest.head?, isAsciiDigit c = false ∧ c ≠ '_') :
    moreDigits isAsciiDigit (digits ++ rest) = some (digits, rest) := by
  induction digits with
  | nil =>
    cases rest with
    | nil => rfl
    | cons c rest =>
      obtain ⟨hdigit, hne⟩ := hrest c rfl
      simp [moreDigits, hdigit, hne]
  | cons c digits ih =>
    have hc := hdigits c List.mem_cons_self
    have hne : c ≠ '_' := by
      rintro rfl
      cases hc
    have ih := ih fun c hc => hdigits c (List.mem_cons_of_mem _ hc)
    simp [moreDigits, hc, hne, ih]

theorem FractionEnds.digits {rest : List Char} (h : FractionEnds rest) :
    ∀ c ∈ rest.head?, isAsciiDigit c = false ∧ c ≠ '_' := by
  intro c hc
  refine ⟨(h c hc).1, ?_⟩
  rintro rfl
  exact absurd (h '_' hc).2 (by decide)

theorem afterPoint_append {whole fraction rest : List Char}
    (hfraction : ∀ c ∈ fraction, isAsciiDigit c = true) (hne : fraction ≠ []) (h : FractionEnds rest) :
    afterPoint whole (fraction ++ rest) = some (decimalToken whole fraction 0, rest) := by
  cases fraction with
  | nil => exact absurd rfl hne
  | cons c fraction =>
    have hc := hfraction c List.mem_cons_self
    have hmore := moreDigits_append (fun c hc => hfraction c (List.mem_cons_of_mem _ hc)) h.digits
    simp [afterPoint, someDigits, hc, hmore, optionalExponent_of_ends h, checked_of_ends h]

theorem decimalLiteral_whole {c : Char} {digits rest : List Char}
    (hdigits : ∀ c ∈ digits, isAsciiDigit c = true) (h : NumberEnds rest) :
    decimalLiteral c (digits ++ rest) = some (decimalToken (c :: digits) [] 0, rest) := by
  have hmore := moreDigits_append hdigits h.fraction.digits
  simp only [decimalLiteral, hmore, Option.bind_eq_bind, Option.bind_some]
  split
  · exact absurd rfl (h '.' rfl).2.2
  · exact absurd (h 'n' rfl).2.1 (by decide)
  · simp [optionalExponent_of_ends h.fraction, checked_of_ends h.fraction]

theorem decimalLiteral_point {c : Char} {digits fraction rest : List Char}
    (hdigits : ∀ c ∈ digits, isAsciiDigit c = true)
    (hfraction : ∀ c ∈ fraction, isAsciiDigit c = true) (hne : fraction ≠ []) (h : FractionEnds rest) :
    decimalLiteral c (digits ++ '.' :: (fraction ++ rest)) =
      some (decimalToken (c :: digits) fraction 0, rest) := by
  have hmore := @moreDigits_append digits ('.' :: (fraction ++ rest)) hdigits
    fun c hc => by cases hc; decide
  simp [decimalLiteral, hmore, afterPoint_append hfraction hne h]

theorem decimalLiteral_bigint {c : Char} {digits rest : List Char}
    (hdigits : ∀ c ∈ digits, isAsciiDigit c = true) (h : FractionEnds rest) :
    decimalLiteral c (digits ++ 'n' :: rest) =
      some (.bigint (toString (decimalNumber (c :: digits))), rest) := by
  have hmore := @moreDigits_append digits ('n' :: rest) hdigits fun c hc => by cases hc; decide
  simp [decimalLiteral, hmore, checked_of_ends h]

theorem readNumber_of_ne_zero {c : Char} {text : List Char} (hc : c ≠ '0') :
    readNumber (c :: text) = decimalLiteral c text := by
  unfold readNumber
  split
  · rename_i heq
    exact absurd (List.cons.inj heq).1 hc
  · rename_i heq
    obtain ⟨rfl, rfl⟩ := List.cons.inj heq
    rfl
  · rename_i heq
    cases heq

/-! ## Written numbers -/

theorem decimalToken_eq {x : Double} (hfinite : x.isFinite = true) (hpos : x.negative = false)
    (hm : 0 < x.significand) {whole fraction : List Char}
    (h : x.Rounds (decimalNumber (whole ++ fraction) * 10 ^ (-(fraction.length : ℤ)))) :
    decimalToken whole fraction 0 = .number x := by
  rw [decimalToken, Double.ofDecimal_eq hfinite hpos hm]
  rwa [zero_sub]

section Positional

variable {x : Double} (hfinite : x.isFinite = true) (hpos : x.negative = false)
  (hm : 0 < x.significand) {rest : List Char} (h : FractionEnds rest)
include hfinite hpos hm h

theorem readNumber_fraction {digits : List Char} {k : Nat} (hd : x.Spelling ⟨digits, -(k : ℤ)⟩) :
    readNumber ('0' :: '.' :: (List.replicate k '0' ++ digits) ++ rest) =
      some (.number x, rest) := by
  have hfraction : ∀ c ∈ List.replicate k '0' ++ digits, isAsciiDigit c = true := by
    intro c hc
    rcases List.mem_append.1 hc with hc | hc
    · rw [List.eq_of_mem_replicate hc]
      decide
    · exact hd.digit c hc
  have hne : List.replicate k '0' ++ digits ≠ [] := by
    obtain ⟨c, others, hc, -⟩ := hd.leading
    simp [show digits = c :: others from hc]
  change afterPoint ['0'] ((List.replicate k '0' ++ digits) ++ rest) = _
  rw [afterPoint_append hfraction hne h, decimalToken_eq hfinite hpos hm]
  convert hd.rounds using 2
  · exact congrArg _ (Double.decimalNumber_zeros_append digits (k + 1))
  · congr 1
    simp
    omega

omit h in
theorem readNumber_whole {digits : List Char} {k : Nat} (h : NumberEnds rest)
    (hd : x.Spelling ⟨digits, (digits.length + k : ℕ)⟩) :
    readNumber (digits ++ List.replicate k '0' ++ rest) = some (.number x, rest) := by
  obtain ⟨c, others, hcons, hc⟩ := hd.leading
  obtain rfl : digits = c :: others := hcons
  have hothers : ∀ a ∈ others ++ List.replicate k '0', isAsciiDigit a = true := by
    intro a ha
    rcases List.mem_append.1 ha with ha | ha
    · exact hd.digit a (List.mem_cons_of_mem _ ha)
    · rw [List.eq_of_mem_replicate ha]
      decide
  rw [List.cons_append, List.cons_append, readNumber_of_ne_zero hc, decimalLiteral_whole hothers h,
    decimalToken_eq hfinite hpos hm]
  convert hd.rounds using 1
  rw [List.append_nil, ← List.cons_append, Double.decimalNumber_append_zeros]
  push_cast
  rw [show ((c :: others).length : ℤ) + k - (c :: others).length = (k : ℤ) by omega, zpow_natCast]
  simp [mul_comm]

theorem readNumber_split {digits : List Char} {k : Nat} (hk : k + 1 < digits.length)
    (hd : x.Spelling ⟨digits, (k + 1 : ℕ)⟩) :
    readNumber (digits.take (k + 1) ++ '.' :: digits.drop (k + 1) ++ rest) =
      some (.number x, rest) := by
  obtain ⟨c, others, hcons, hc⟩ := hd.leading
  obtain rfl : digits = c :: others := hcons
  have hothers : ∀ a ∈ others, isAsciiDigit a = true :=
    fun a ha => hd.digit a (List.mem_cons_of_mem _ ha)
  have hne : others.drop k ≠ [] := by
    simp only [List.length_cons] at hk
    simp only [ne_eq, List.drop_eq_nil_iff]
    omega
  change readNumber (c :: (others.take k ++ '.' :: others.drop k ++ rest)) = _
  rw [readNumber_of_ne_zero hc, List.append_assoc, List.cons_append,
    decimalLiteral_point (fun a ha => hothers a (List.mem_of_mem_take ha))
      (fun a ha => hothers a (List.mem_of_mem_drop ha)) hne h,
    decimalToken_eq hfinite hpos hm]
  convert hd.rounds using 2
  · rw [List.cons_append, List.take_append_drop]
  · congr 1
    simp only [List.length_drop, List.length_cons] at hk ⊢
    omega

/-- Digits around a point read as the number that they spell. If there is no point among them, none may
follow. -/
theorem readNumber_positional {d : Digits} (hd : x.Spelling d)
    (hwhole : (d.positional []).all isAsciiDigit = true → NumberEnds rest) :
    readNumber (d.positional [] ++ rest) = some (.number x, rest) := by
  obtain ⟨digits, point⟩ := d
  match point with
  | .negSucc k => exact readNumber_fraction hfinite hpos hm h hd
  | .ofNat 0 => exact @readNumber_fraction _ hfinite hpos hm _ h digits 0 hd
  | .ofNat (k + 1) =>
    simp only [Digits.positional]
    split
    · rename_i hle
      have hdigits : ∀ c ∈ digits ++ List.replicate (k + 1 - digits.length) '0',
          isAsciiDigit c = true := by
        intro c hc
        rcases List.mem_append.1 hc with hc | hc
        · exact hd.digit c hc
        · rw [List.eq_of_mem_replicate hc]
          decide
      simp only [Digits.positional, if_pos hle] at hwhole
      rw [List.append_nil] at hwhole ⊢
      refine readNumber_whole hfinite hpos hm (hwhole (List.all_eq_true.2 hdigits)) ?_
      rwa [Nat.add_sub_cancel' hle]
    · rename_i hlt
      exact readNumber_split hfinite hpos hm h (Nat.lt_of_not_le hlt) hd

end Positional

theorem zeroLiteral_of_ends {rest : List Char} (h : NumberEnds rest) :
    zeroLiteral rest = some (.number (.zero false), rest) := by
  cases rest with
  | nil => rfl
  | cons c rest =>
    obtain ⟨hdigit, hstart, hpoint⟩ := h c rfl
    have hletter : ∀ a, isIdentifierStart a = true → (c == a) = false := by
      intro a ha
      rw [beq_eq_false_iff_ne]
      rintro rfl
      rw [hstart] at ha
      cases ha
    simp only [zeroLiteral, hletter 'x' (by decide), hletter 'X' (by decide), hletter 'o' (by decide),
      hletter 'O' (by decide), hletter 'b' (by decide), hletter 'B' (by decide),
      hletter 'e' (by decide), hletter 'E' (by decide), hletter 'n' (by decide), hdigit,
      beq_eq_false_iff_ne.2 hpoint, Bool.or_self, Bool.false_eq_true, if_false]
    exact checked_of_ends h.fraction _

theorem significand_pos {x : Double} (h : x.isZero = false) : 0 < x.significand := by
  unfold Double.significand
  unfold Double.isZero at h
  split
  · rename_i hexp
    simp only [hexp, beq_self_eq_true, Bool.true_and, beq_eq_false_iff_ne] at h
    omega
  · simp only [Nat.pow_eq]
    omega

theorem eq_zero_of_isZero {x : Double} (h : x.isZero = true) (hpos : x.negative = false) :
    x = .zero false := by
  obtain ⟨negative, exponent, fraction⟩ := x
  simp only [Double.isZero, Bool.and_eq_true, beq_iff_eq] at h
  obtain rfl : negative = false := hpos
  obtain rfl : exponent = 0 := Fin.ext h.1
  obtain rfl : fraction = 0 := Fin.ext h.2
  decide

theorem toList_render {x : Double} (hfinite : x.isFinite = true) (hpos : x.negative = false) :
    x.render.toList = if x.isZero then ['0'] else (x.shortest .up).positional [] := by
  have hnan : x.isNaN = false := by
    unfold Double.isFinite at hfinite
    simp [Double.isNaN, bne_iff_ne.1 hfinite]
  simp [Double.render, hnan, hfinite, hpos]

/-- The text of a finite number that is not negative is a literal for that number, also in front of a
point if it has one itself. -/
theorem readNumber_render_fraction {x : Double} (hfinite : x.isFinite = true)
    (hpos : x.negative = false) {rest : List Char} (h : FractionEnds rest)
    (hwhole : x.render.toList.all isAsciiDigit = true → NumberEnds rest) :
    readNumber (x.render.toList ++ rest) = some (.number x, rest) := by
  rw [toList_render hfinite hpos] at hwhole ⊢
  split at hwhole
  · rename_i hzero
    rw [if_pos hzero, eq_zero_of_isZero hzero hpos]
    exact zeroLiteral_of_ends (hwhole rfl)
  · rename_i hzero
    have hm := significand_pos (Bool.eq_false_iff.2 hzero)
    rw [if_neg hzero]
    exact readNumber_positional hfinite hpos hm h (Double.spelling_shortest .up hm) hwhole

/-- The text of a finite number that is not negative is a literal for that number. -/
theorem readNumber_render {x : Double} (hfinite : x.isFinite = true) (hpos : x.negative = false)
    {rest : List Char} (h : NumberEnds rest) :
    readNumber (x.render.toList ++ rest) = some (.number x, rest) :=
  readNumber_render_fraction hfinite hpos h.fraction fun _ => h

/-- The text of a finite number that is not negative starts with a digit. -/
theorem head_render {x : Double} (hfinite : x.isFinite = true) (hpos : x.negative = false) :
    ∃ c text, x.render.toList = c :: text ∧ isAsciiDigit c = true := by
  rw [toList_render hfinite hpos]
  split
  · exact ⟨'0', [], rfl, by decide⟩
  · rename_i hzero
    have hd := Double.spelling_shortest .up (significand_pos (Bool.eq_false_iff.2 hzero))
    generalize x.shortest .up = d at hd
    obtain ⟨digits, point⟩ := d
    obtain ⟨c, others, hcons, -⟩ := hd.leading
    obtain rfl : digits = c :: others := hcons
    match point with
    | .negSucc k => exact ⟨'0', _, rfl, by decide⟩
    | .ofNat 0 => exact ⟨'0', _, rfl, by decide⟩
    | .ofNat (k + 1) =>
      have hc := hd.digit c List.mem_cons_self
      simp only [Digits.positional]
      split
      · exact ⟨c, _, rfl, hc⟩
      · exact ⟨c, _, rfl, hc⟩

theorem toList_toString (n : Nat) : (toString n).toList = Nat.toDigits 10 n := by
  rw [Nat.toString_eq_ofList_toDigits, String.toList_ofList]

theorem head_toString (n : Nat) : ∃ c more, (toString n).toList = c :: more ∧ isAsciiDigit c = true := by
  cases hcons : (toString n).toList with
  | nil =>
    rw [toList_toString] at hcons
    exact absurd hcons Nat.toDigits_ne_nil
  | cons c more =>
    refine ⟨c, more, rfl, Double.isAsciiDigit_of_mem_toDigits (n := n) ?_⟩
    rw [← toList_toString, hcons]
    exact List.mem_cons_self

/-- The digits of a natural and an `n` are a big integer. -/
theorem readNumber_bigint (n : Nat) {rest : List Char} (h : FractionEnds rest) :
    readNumber ((toString n).toList ++ 'n' :: rest) = some (.bigint (toString n), rest) := by
  rw [toList_toString]
  rcases Nat.eq_zero_or_pos n with rfl | hn
  · change checked (.bigint "0") rest = _
    rw [checked_of_ends h]
    rfl
  · obtain ⟨c, others, hcons, hc⟩ := Double.toDigits_leading hn
    have hothers : ∀ a ∈ others, isAsciiDigit a = true := by
      intro a ha
      refine Double.isAsciiDigit_of_mem_toDigits (n := n) ?_
      rw [hcons]
      exact List.mem_cons_of_mem _ ha
    rw [hcons, List.cons_append, readNumber_of_ne_zero hc, decimalLiteral_bigint hothers h, ← hcons,
      Double.decimalNumber_toDigits]

end CustomElement.Script
