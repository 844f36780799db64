import CustomElement.Number.Notation
import CustomElement.Proofs.Number.Digits
import CustomElement.Text.CharClass

/-!
# Decimals read back

A decimal that rounds to a finite number reads back as that number: it lies far within the exponents
at which `ofDecimal` cuts off (`ofDecimal_eq`). Digits without their trailing zeros still spell the
same decimal (`spelling_shortest`), so what is left for a written form is to keep the digits and the
place of the point.
-/

namespace CustomElement.Double

open CustomElement.Text

/-! ## The range of finite numbers -/

theorem Rounds.pos {x : Double} {v : ℚ} (hm : 0 < x.significand) (h : x.Rounds v) :
    x.ulp ≤ 2 * v := by
  have hmargin := x.margins_le
  have hone : (1 : ℚ) ≤ x.significand := by exact_mod_cast hm
  have hulp := x.ulp_pos
  have hlow := h.low
  nlinarith

theorem ulp_ge (x : Double) : (2 : ℚ) ^ (-1074 : ℤ) ≤ x.ulp :=
  zpow_le_zpow_right₀ (by norm_num) (by omega)

theorem ulp_le {x : Double} (hfinite : x.isFinite = true) : x.ulp ≤ 2 ^ (971 : ℤ) := by
  have hexp : x.exponent.val ≠ 2047 := by simpa [isFinite, topExponent] using hfinite
  have hlt := x.exponent.isLt
  refine zpow_le_zpow_right₀ (by norm_num) ?_
  rw [shift]
  omega

theorem two_zpow_le_ten_zpow : (2 : ℚ) ^ (1200 : ℤ) ≤ 10 ^ (400 : ℤ) := by
  have h : ((2 : ℚ) ^ (3 : ℤ)) ^ (400 : ℤ) ≤ 10 ^ (400 : ℤ) :=
    zpow_le_zpow_left₀ (by norm_num) (by norm_num) (by norm_num)
  rwa [← zpow_mul] at h

theorem Rounds.lt {x : Double} {v : ℚ} (hfinite : x.isFinite = true) (h : x.Rounds v) :
    v < 10 ^ (400 : ℤ) := by
  have hm : (x.significand : ℚ) ≤ 2 ^ 53 - 1 := by
    have := x.significand_lt
    rw [le_sub_iff_add_le]
    exact_mod_cast this
  have hulp := x.ulp_pos
  have hle := ulp_le hfinite
  have hhigh := h.high
  calc v < 2 ^ 53 * x.ulp := by nlinarith
    _ ≤ 2 ^ 53 * 2 ^ (971 : ℤ) := by gcongr
    _ = 2 ^ (1024 : ℤ) := by rw [← zpow_natCast, ← zpow_add₀ two_ne_zero]; rfl
    _ ≤ 2 ^ (1200 : ℤ) := zpow_le_zpow_right₀ (by norm_num) (by norm_num)
    _ ≤ 10 ^ (400 : ℤ) := two_zpow_le_ten_zpow

theorem Rounds.gt {x : Double} {v : ℚ} (hm : 0 < x.significand) (h : x.Rounds v) :
    10 ^ (-400 : ℤ) < v := by
  have hge := x.ulp_ge
  have hpos := h.pos hm
  calc (10 : ℚ) ^ (-400 : ℤ) = (10 ^ (400 : ℤ))⁻¹ := zpow_neg _ _
    _ ≤ (2 ^ (1200 : ℤ))⁻¹ := inv_anti₀ (two_zpow_pos _) two_zpow_le_ten_zpow
    _ = 2 ^ (-1200 : ℤ) := (zpow_neg _ _).symm
    _ < 2 ^ (-1075 : ℤ) := zpow_lt_zpow_right₀ (by norm_num) (by norm_num)
    _ = 2 ^ (-1074 : ℤ) / 2 := by rw [div_eq_mul_inv, ← zpow_sub_one₀ two_ne_zero]; rfl
    _ ≤ v := by linarith

/-! ## Reading decimals -/

theorem zpow_decimalLength_le {n : Nat} (hn : 0 < n) (e : ℤ) :
    (10 : ℚ) ^ (e + decimalLength n - 1) ≤ n * 10 ^ e := by
  have hle : ((10 ^ (decimalLength n - 1) : ℕ) : ℚ) ≤ n := by
    exact_mod_cast pow_decimalLength_le hn
  have hlen := decimalLength_pos n
  rw [show e + decimalLength n - 1 = ((decimalLength n - 1 : ℕ) : ℤ) + e by omega,
    zpow_add₀ (by norm_num), zpow_natCast]
  push_cast at hle
  gcongr

theorem lt_zpow_decimalLength (n : Nat) (e : ℤ) :
    (n * 10 ^ e : ℚ) < 10 ^ (e + decimalLength n) := by
  have hlt : (n : ℚ) < ((10 ^ decimalLength n : ℕ) : ℚ) := by
    exact_mod_cast pow_decimalLength_gt n
  rw [add_comm, zpow_add₀ (by norm_num), zpow_natCast]
  push_cast at hlt
  gcongr

/-- A decimal that rounds to a finite number reads back as that number. -/
theorem ofDecimal_eq {x : Double} (hfinite : x.isFinite = true) (hpos : x.negative = false)
    (hm : 0 < x.significand) {n : Nat} {e : ℤ} (h : x.Rounds (n * 10 ^ e)) :
    ofDecimal n e = x := by
  have hgt := h.gt hm
  have hlt := h.lt hfinite
  have hn : 0 < n := by
    rcases Nat.eq_zero_or_pos n with rfl | hn
    · have : (0 : ℚ) < 10 ^ (-400 : ℤ) := by positivity
      simp only [Nat.cast_zero, zero_mul] at hgt
      linarith
    · exact hn
  have htop : e + decimalLength n - 1 < 400 :=
    (zpow_lt_zpow_iff_right₀ (by norm_num)).1 ((zpow_decimalLength_le hn e).trans_lt hlt)
  have hbottom : -400 < e + decimalLength n :=
    (zpow_lt_zpow_iff_right₀ (by norm_num)).1 (hgt.trans (lt_zpow_decimalLength n e))
  unfold ofDecimal
  rw [if_neg hn.ne', if_neg (by omega), if_neg (by omega)]
  cases e with
  | ofNat k =>
    refine ofRatio_eq hfinite hpos hm one_pos ?_
    convert h using 1
    simp
  | negSucc k =>
    refine ofRatio_eq hfinite hpos hm (by simp only [Nat.pow_eq]; positivity) ?_
    convert h using 1
    simp only [Nat.pow_eq, zpow_negSucc]
    push_cast
    rw [div_eq_mul_inv]

/-! ## Digits of decimals -/

theorem decimalNumber_append_zeros (digits : List Char) (k : Nat) :
    decimalNumber (digits ++ List.replicate k '0') = 10 ^ k * decimalNumber digits := by
  unfold decimalNumber
  simp only [← Nat.ofDigitChars_eq_foldl, Nat.ofDigitChars_append, Nat.ofDigitChars_replicate_zero]

theorem decimalNumber_zeros_append (digits : List Char) (k : Nat) :
    decimalNumber (List.replicate k '0' ++ digits) = decimalNumber digits := by
  unfold decimalNumber
  simp only [← Nat.ofDigitChars_eq_foldl, Nat.ofDigitChars_append, Nat.ofDigitChars_replicate_zero,
    Nat.mul_zero]

theorem decimalNumber_toDigits (n : Nat) : decimalNumber (Nat.toDigits 10 n) = n := by
  unfold decimalNumber
  rw [← Nat.ofDigitChars_eq_foldl, Nat.ofDigitChars_ten_toDigits]

theorem isAsciiDigit_of_mem_toDigits {n : Nat} {c : Char} (h : c ∈ Nat.toDigits 10 n) :
    isAsciiDigit c = true := by
  have := Nat.isDigit_of_mem_toDigits (by decide) (by decide) h
  simpa [isAsciiDigit, Char.isDigit, Char.le_def] using this

/-- The digits of a positive natural do not start with a zero. -/
theorem toDigits_leading {n : Nat} (hn : 0 < n) :
    ∃ c rest, Nat.toDigits 10 n = c :: rest ∧ c ≠ '0' := by
  induction n using Nat.strongRecOn with
  | _ n ih =>
    rcases Nat.lt_or_ge n 10 with hlt | hge
    · have hdigit : ∀ k < 10, 0 < k → Nat.digitChar k ≠ '0' := by decide
      exact ⟨n.digitChar, [], Nat.toDigits_of_lt_base hlt, hdigit n hlt hn⟩
    · obtain ⟨c, rest, hc, hne⟩ := ih (n / 10) (by omega) (by omega)
      refine ⟨c, rest ++ [(n % 10).digitChar], ?_, hne⟩
      rw [Nat.toDigits_of_base_le (by decide) hge, hc, List.cons_append]

theorem trimZeros_append (digits : List Char) :
    ∃ k, digits = trimZeros digits ++ List.replicate k '0' := by
  refine ⟨(digits.reverse.takeWhile (· == '0')).length, ?_⟩
  have hzeros : digits.reverse.takeWhile (· == '0') =
      List.replicate (digits.reverse.takeWhile (· == '0')).length '0' := by
    rw [List.eq_replicate_iff]
    exact ⟨rfl, fun c hc => by
      simpa using List.all_eq_true.1 List.all_takeWhile c hc⟩
  rw [trimZeros, ← List.reverse_replicate, ← hzeros, ← List.reverse_append,
    List.takeWhile_append_dropWhile, List.reverse_reverse]

/-- Digits with a point that spell a decimal which rounds to a number. -/
structure Spelling (x : Double) (d : Digits) : Prop where
  digit : ∀ c ∈ d.digits, isAsciiDigit c = true
  leading : ∃ c rest, d.digits = c :: rest ∧ c ≠ '0'
  rounds : x.Rounds (decimalNumber d.digits * 10 ^ (d.point - d.digits.length))

theorem spelling_digitsOf {x : Double} (hm : 0 < x.significand) {n : Nat} {e : ℤ}
    (h : x.Rounds (n * 10 ^ e)) : x.Spelling (digitsOf n e) := by
  have hn : 0 < n := by
    rcases Nat.eq_zero_or_pos n with rfl | hn
    · have hpos := h.pos hm
      have hulp := x.ulp_pos
      simp only [Nat.cast_zero, zero_mul, mul_zero] at hpos
      linarith
    · exact hn
  obtain ⟨k, hk⟩ := trimZeros_append (Nat.toDigits 10 n)
  have hvalue : n = 10 ^ k * decimalNumber (trimZeros (Nat.toDigits 10 n)) := by
    rw [← decimalNumber_append_zeros, ← hk, decimalNumber_toDigits]
  have hlength : ((Nat.toDigits 10 n).length : ℤ) = (trimZeros (Nat.toDigits 10 n)).length + k := by
    conv_lhs => rw [hk]
    simp
  refine ⟨fun c hc => ?_, ?_, ?_⟩
  · refine isAsciiDigit_of_mem_toDigits (n := n) ?_
    rw [hk]
    exact List.mem_append_left _ hc
  · obtain ⟨c, rest, hc, hne⟩ := toDigits_leading hn
    rw [hc] at hk
    change ∃ c rest, trimZeros (Nat.toDigits 10 n) = c :: rest ∧ c ≠ '0'
    rw [hc]
    cases htrim : trimZeros (c :: rest) with
    | nil =>
      rw [htrim, List.nil_append] at hk
      exact absurd (List.eq_of_mem_replicate (hk ▸ List.mem_cons_self)) hne
    | cons c' rest' =>
      rw [htrim, List.cons_append] at hk
      exact ⟨c', rest', rfl, (List.cons.inj hk).1 ▸ hne⟩
  · convert h using 1
    change (decimalNumber (trimZeros (Nat.toDigits 10 n)) : ℚ) *
      10 ^ (e + (Nat.toDigits 10 n).length - (trimZeros (Nat.toDigits 10 n)).length : ℤ) = _
    conv_rhs => rw [hvalue]
    rw [show e + (Nat.toDigits 10 n).length - (trimZeros (Nat.toDigits 10 n)).length = k + e by
      omega, zpow_add₀ (by norm_num), zpow_natCast]
    push_cast
    ring

theorem spelling_shortest (tie : Tie) {x : Double} (hm : 0 < x.significand) :
    x.Spelling (x.shortest tie) := by
  obtain ⟨n, e, hshortest, hrounds⟩ := shortest_rounds tie hm
  rw [hshortest]
  exact spelling_digitsOf hm hrounds

end CustomElement.Double
