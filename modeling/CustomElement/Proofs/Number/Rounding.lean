import CustomElement.Number.Shortest
import Mathlib.Algebra.Order.Field.Power
import Mathlib.Tactic.FieldSimp
import Mathlib.Tactic.Linarith
import Mathlib.Tactic.LinearCombination
import Mathlib.Tactic.NormNum
import Mathlib.Tactic.Positivity
import Mathlib.Tactic.Ring

/-!
# Rounding to a double

A finite number `x` is `significand * ulp`, and a value rounds to `x` if it lies between the two
half-way points around it (`Rounds`); the half-way points themselves belong to the even one of two
neighbours. Below a power of two the lower neighbour is only half as far away. `ofRatio_eq` says
that the number nearest to a fraction is the one that the fraction rounds to: the fraction lies in
the binade of `x`, or just below it (`ofRatio_of_lower_binade`).
-/

namespace CustomElement.Double

/-! ## Rounding to a natural -/

/-- A natural at most one half away from a fraction, and even if it is that far. -/
theorem roundHalfEven_eq {num den m : Nat} (hden : 0 < den) (hlow : 2 * m * den ≤ 2 * num + den)
    (hhigh : 2 * num ≤ (2 * m + 1) * den)
    (htie : 2 * m * den = 2 * num + den ∨ 2 * num = (2 * m + 1) * den → m % 2 = 0) :
    roundHalfEven num den = m := by
  have hnum := Nat.div_add_mod num den
  have hmod := Nat.mod_lt num hden
  unfold roundHalfEven
  generalize num / den = q at *
  generalize num % den = r at *
  subst hnum
  have hqm : q ≤ m := by
    by_contra hlt
    have : den * (m + 1) ≤ den * q := Nat.mul_le_mul_left den (by omega)
    nlinarith
  have hmq : m ≤ q + 1 := by
    by_contra hlt
    have : den * (q + 2) ≤ den * m := Nat.mul_le_mul_left den (by omega)
    nlinarith
  rcases (show m = q ∨ m = q + 1 by omega) with rfl | rfl
  · have hr : 2 * r ≤ den := by nlinarith
    rcases Nat.lt_or_eq_of_le hr with hr | hr
    · simp only [hr, if_true]
    · have heven := htie (.inr (by nlinarith))
      simp only [hr, lt_irrefl, if_false, heven, Nat.add_zero]
  · have hr : den ≤ 2 * r := by nlinarith
    rcases Nat.lt_or_eq_of_le hr with hr | hr
    · simp only [hr, Nat.lt_asymm hr, if_true, if_false]
    · have heven := htie (.inl (by nlinarith))
      simp only [← hr, lt_irrefl, if_false]
      omega

/-! ## The binade of a fraction -/

theorem two_zpow_pos (e : ℤ) : (0 : ℚ) < 2 ^ e :=
  zpow_pos two_pos e

theorem reaches_iff {num den : Nat} (hden : 0 < den) (e : ℤ) :
    reaches num den e = true ↔ (2 : ℚ) ^ e ≤ num / den := by
  have hd : (0 : ℚ) < den := by exact_mod_cast hden
  rw [le_div_iff₀ hd]
  cases e with
  | ofNat k =>
    simp only [reaches, decide_eq_true_eq, Int.ofNat_eq_natCast, zpow_natCast, Nat.pow_eq]
    rw [mul_comm]
    exact_mod_cast Iff.rfl
  | negSucc k =>
    simp only [reaches, decide_eq_true_eq, zpow_negSucc, Nat.pow_eq]
    rw [inv_mul_le_iff₀ (by positivity), mul_comm]
    exact_mod_cast Iff.rfl

/-- The exponent of the greatest power of two that a fraction reaches. -/
def lead (num den : Nat) : ℤ :=
  let estimate : ℤ := (num.log2 : ℤ) - den.log2
  if reaches num den estimate then estimate else estimate - 1

theorem zpow_lead_le {num den : Nat} (hnum : 0 < num) (hden : 0 < den) :
    (2 : ℚ) ^ lead num den ≤ num / den ∧ (num : ℚ) / den < 2 ^ (lead num den + 1) := by
  have hn : (2 : ℚ) ^ (num.log2 : ℤ) ≤ num := by
    exact_mod_cast Nat.log2_self_le (Nat.pos_iff_ne_zero.1 hnum)
  have hn' : (num : ℚ) < 2 ^ ((num.log2 : ℤ) + 1) := by exact_mod_cast Nat.lt_log2_self (n := num)
  have hd : (2 : ℚ) ^ (den.log2 : ℤ) ≤ den := by
    exact_mod_cast Nat.log2_self_le (Nat.pos_iff_ne_zero.1 hden)
  have hd' : (den : ℚ) < 2 ^ ((den.log2 : ℤ) + 1) := by exact_mod_cast Nat.lt_log2_self (n := den)
  have hdq : (0 : ℚ) < den := by exact_mod_cast hden
  have hlow : (2 : ℚ) ^ ((num.log2 : ℤ) - den.log2 - 1) ≤ num / den := by
    rw [le_div_iff₀ hdq]
    calc (2 : ℚ) ^ ((num.log2 : ℤ) - den.log2 - 1) * den
        ≤ 2 ^ ((num.log2 : ℤ) - den.log2 - 1) * 2 ^ ((den.log2 : ℤ) + 1) :=
          mul_le_mul_of_nonneg_left hd'.le (two_zpow_pos _).le
      _ = 2 ^ (num.log2 : ℤ) := by rw [← zpow_add₀ two_ne_zero]; congr 1; ring
      _ ≤ num := hn
  have hhigh : (num : ℚ) / den < 2 ^ ((num.log2 : ℤ) - den.log2 + 1) := by
    rw [div_lt_iff₀ hdq]
    calc (num : ℚ) < 2 ^ ((num.log2 : ℤ) + 1) := hn'
      _ = 2 ^ ((num.log2 : ℤ) - den.log2 + 1) * 2 ^ (den.log2 : ℤ) := by
          rw [← zpow_add₀ two_ne_zero]; congr 1; ring
      _ ≤ 2 ^ ((num.log2 : ℤ) - den.log2 + 1) * den :=
          mul_le_mul_of_nonneg_left hd (two_zpow_pos _).le
  simp only [lead]
  split
  · rename_i h
    exact ⟨(reaches_iff hden _).1 h, hhigh⟩
  · rename_i h
    rw [sub_add_cancel]
    exact ⟨hlow, lt_of_not_ge fun hge => h ((reaches_iff hden _).2 hge)⟩

/-! ## The interval of a double -/

/-- The distance between neighbours in the binade of a finite number. -/
def ulp (x : Double) : ℚ :=
  2 ^ ((x.shift : ℤ) - 1074)

/-- A value that rounds to a finite number: it lies between the half-way points to the neighbours,
and on one only if the number is even. -/
structure Rounds (x : Double) (v : ℚ) : Prop where
  low : (4 * x.significand - x.margins.1 : ℚ) * x.ulp ≤ 4 * v
  high : 4 * v ≤ (4 * x.significand + 2) * x.ulp
  even : (4 * x.significand - x.margins.1 : ℚ) * x.ulp = 4 * v ∨
    4 * v = (4 * x.significand + 2) * x.ulp → x.significand % 2 = 0

theorem ulp_pos (x : Double) : 0 < x.ulp :=
  two_zpow_pos _

/-- The exponent and fraction of a finite number, read as one natural. -/
def code (x : Double) : Nat :=
  x.shift * 2 ^ 52 + x.significand

theorem significand_lt (x : Double) : x.significand < 2 ^ 53 := by
  have := x.fraction.isLt
  simp only [Nat.pow_eq] at this
  unfold significand
  split <;> simp only [Nat.pow_eq] <;> omega

/-- A number with a shift has a full significand. -/
theorem significand_ge {x : Double} (h : 0 < x.shift) : 2 ^ 52 ≤ x.significand := by
  unfold shift at h
  unfold significand
  rw [if_neg (by omega)]
  simp only [Nat.pow_eq]
  omega

theorem ofCode_code {x : Double} (hfinite : x.isFinite = true) (hpos : x.negative = false) :
    ofCode false x.code = x := by
  obtain ⟨negative, exponent, fraction⟩ := x
  obtain rfl : negative = false := hpos
  have hexp : exponent.val ≠ 2047 := by simpa [isFinite, topExponent] using hfinite
  have hlt := exponent.isLt
  have hfr : fraction.val < 2 ^ 52 := fraction.isLt
  have hcode : code ⟨false, exponent, fraction⟩ = exponent.val * 2 ^ 52 + fraction.val := by
    unfold code shift significand
    split <;> simp only [Nat.pow_eq] at * <;> omega
  rw [hcode, ofCode, if_pos (by simp only [topExponent, Nat.pow_eq]; omega)]
  congr 1
  · apply Fin.ext
    simp only [Fin.ofNat, Nat.pow_eq]
    omega
  · apply Fin.ext
    simp only [Fin.ofNat, Nat.pow_eq]
    omega

/-! ## The nearest double -/

/-- The natural nearest to `num / den` in units of `2 ^ e`. -/
def scaled (num den : Nat) (e : ℤ) : Nat :=
  match e with
  | .ofNat k => roundHalfEven num (den * 2 ^ k)
  | .negSucc k => roundHalfEven (num * 2 ^ (k + 1)) den

theorem ofRatio_eq_ofCode {num den : Nat} (hnum : 0 < num) (hden : 0 < den) (negative : Bool) :
    ofRatio negative num den =
      ofCode negative ((max (lead num den - 52) (-1074) + 1074).toNat * 2 ^ 52 +
        scaled num den (max (lead num den - 52) (-1074))) := by
  rw [ofRatio, if_neg (by omega)]
  rfl

theorem scaled_eq {num den m : Nat} {e : ℤ} (hden : 0 < den)
    (hlow : (2 * m - 1 : ℚ) * 2 ^ e ≤ 2 * (num / den))
    (hhigh : 2 * ((num : ℚ) / den) ≤ (2 * m + 1) * 2 ^ e)
    (htie : (2 * m - 1 : ℚ) * 2 ^ e = 2 * (num / den) ∨
      2 * ((num : ℚ) / den) = (2 * m + 1) * 2 ^ e → m % 2 = 0) :
    scaled num den e = m := by
  have hd : (0 : ℚ) < den := by exact_mod_cast hden
  -- Both sides are multiplied by the denominator; the power of two goes to where it is a natural.
  rw [← mul_div_assoc, le_div_iff₀ hd] at hlow
  rw [← mul_div_assoc, div_le_iff₀ hd] at hhigh
  rw [← mul_div_assoc, eq_div_iff hd.ne', div_eq_iff hd.ne'] at htie
  cases e with
  | ofNat k =>
    simp only [Int.ofNat_eq_natCast, zpow_natCast] at hlow hhigh htie
    refine roundHalfEven_eq (by positivity) ?_ ?_ fun h => htie (h.imp (fun h => ?_) fun h => ?_)
    · have : (2 * m * (den * 2 ^ k) : ℚ) ≤ 2 * num + den * 2 ^ k := by linarith
      exact_mod_cast this
    · have : (2 * num : ℚ) ≤ (2 * m + 1) * (den * 2 ^ k) := by linarith
      exact_mod_cast this
    · have : (2 * m * (den * 2 ^ k) : ℚ) = 2 * num + den * 2 ^ k := by exact_mod_cast h
      linarith
    · have : (2 * num : ℚ) = (2 * m + 1) * (den * 2 ^ k) := by exact_mod_cast h
      linarith
  | negSucc k =>
    have hpow : (0 : ℚ) < 2 ^ (k + 1) := by positivity
    have hinv : (2 : ℚ) ^ Int.negSucc k * 2 ^ (k + 1) = 1 := by
      rw [zpow_negSucc, inv_mul_cancel₀ hpow.ne']
    generalize (2 : ℚ) ^ Int.negSucc k = p at *
    refine roundHalfEven_eq hden ?_ ?_ fun h => htie (h.imp (fun h => ?_) fun h => ?_)
    · have := mul_le_mul_of_nonneg_right hlow hpow.le
      have : (2 * m * den : ℚ) ≤ 2 * (num * 2 ^ (k + 1)) + den := by
        linear_combination this - (2 * m - 1) * den * hinv
      exact_mod_cast this
    · have := mul_le_mul_of_nonneg_right hhigh hpow.le
      have : (2 * (num * 2 ^ (k + 1)) : ℚ) ≤ (2 * m + 1) * den := by
        linear_combination this + (2 * m + 1) * den * hinv
      exact_mod_cast this
    · have : (2 * m * den : ℚ) = 2 * (num * 2 ^ (k + 1)) + den := by exact_mod_cast h
      linear_combination p * this + 2 * num * hinv
    · have : (2 * (num * 2 ^ (k + 1)) : ℚ) = (2 * m + 1) * den := by exact_mod_cast h
      linear_combination p * this - 2 * num * hinv

/-- The margins of a number: the smaller one is that of a power of two. -/
theorem margins_eq (x : Double) :
    x.margins.1 = 2 ∨ x.margins.1 = 1 ∧ 0 < x.shift ∧ x.significand = 2 ^ 52 := by
  unfold margins shift significand
  by_cases h : x.fraction.val = 0 ∧ 1 < x.exponent.val
  · obtain ⟨hf, he⟩ := h
    refine .inr ⟨if_pos ⟨hf, he⟩, by omega, ?_⟩
    rw [if_neg (by omega), hf]
    rfl
  · exact .inl (if_neg h)

/-- A number with a full significand that is not above its power of two has the smaller margin. -/
theorem margins_of_power {x : Double} (hs : 0 < x.shift) (hm : x.significand = 2 ^ 52) :
    x.margins.1 = 1 := by
  unfold shift at hs
  unfold significand at hm
  rw [if_neg (by omega)] at hm
  simp only [Nat.pow_eq] at hm
  exact if_pos ⟨by omega, by omega⟩

theorem margins_le (x : Double) : (x.margins.1 : ℚ) ≤ 2 := by
  rcases x.margins_eq with h | ⟨h, -⟩ <;> rw [h] <;> norm_num

theorem pow_mul_ulp (x : Double) (k : ℕ) : (2 : ℚ) ^ k * x.ulp = 2 ^ ((x.shift : ℤ) - 1074 + k) := by
  rw [ulp, zpow_add₀ two_ne_zero, zpow_natCast, mul_comm]

theorem le_lead {num den : Nat} (hnum : 0 < num) (hden : 0 < den) {e : ℤ}
    (h : (2 : ℚ) ^ e ≤ num / den) : e ≤ lead num den := by
  have hlt := lt_of_le_of_lt h (zpow_lead_le hnum hden).2
  have := (zpow_lt_zpow_iff_right₀ one_lt_two).1 hlt
  omega

theorem lead_lt {num den : Nat} (hnum : 0 < num) (hden : 0 < den) {e : ℤ}
    (h : (num : ℚ) / den < 2 ^ e) : lead num den < e :=
  (zpow_lt_zpow_iff_right₀ one_lt_two).1 (lt_of_le_of_lt (zpow_lead_le hnum hden).1 h)

/-- A value in the binade of a number, or below the least one, has the units of the number. -/
theorem unit_of_binade {x : Double} {num den : Nat} (hnum : 0 < num) (hden : 0 < den)
    (h : x.Rounds (num / den)) (hbinade : x.shift = 0 ∨ 2 ^ 52 * x.ulp ≤ num / den) :
    max (lead num den - 52) (-1074) = (x.shift : ℤ) - 1074 := by
  have hupper : (num : ℚ) / den < 2 ^ 53 * x.ulp := by
    have hm : (x.significand : ℚ) + 1 ≤ 2 ^ 53 := by exact_mod_cast x.significand_lt
    have := h.high
    nlinarith [x.ulp_pos]
  rw [pow_mul_ulp] at hupper
  have hlt := lead_lt hnum hden hupper
  rcases hbinade with hs | hlow
  · rw [hs] at hlt ⊢
    push_cast at hlt ⊢
    omega
  · rw [pow_mul_ulp] at hlow
    have hle := le_lead hnum hden hlow
    push_cast at hlt hle ⊢
    omega

theorem scaled_of_binade {x : Double} {num den : Nat} (hden : 0 < den)
    (h : x.Rounds (num / den)) : scaled num den ((x.shift : ℤ) - 1074) = x.significand := by
  have hulp := x.ulp_pos
  have hmargin : (x.margins.1 : ℚ) = 2 ∨ (x.margins.1 : ℚ) = 1 := by
    rcases x.margins_eq with h | ⟨h, -⟩ <;> rw [h] <;> norm_num
  obtain ⟨hlow, hhigh, heven⟩ := h
  refine scaled_eq hden ?_ ?_ fun htie => heven ?_
  all_goals rw [← ulp] at *
  · rcases hmargin with hm | hm <;> rw [hm] at hlow <;> linarith
  · linarith
  · rcases htie with htie | htie
    · left
      rcases hmargin with hm | hm <;> rw [hm] at hlow ⊢ <;> linarith
    · right
      linarith

/-- Below a power of two a value that rounds to it is counted in halves of its units, and is rounded
up to the power. -/
theorem ofRatio_of_lower_binade {x : Double} (hfinite : x.isFinite = true)
    (hpos : x.negative = false) {num den : Nat} (hnum : 0 < num) (hden : 0 < den)
    (h : x.Rounds (num / den)) (hs : 0 < x.shift) (hlt : (num : ℚ) / den < 2 ^ 52 * x.ulp) :
    ofRatio false num den = x := by
  have hulp := x.ulp_pos
  have hhalf : x.ulp = 2 * 2 ^ ((x.shift : ℤ) - 1075) := by
    rw [ulp, ← zpow_one_add₀ two_ne_zero]
    congr 1
    ring
  have hm : x.significand = 2 ^ 52 := by
    have hge := significand_ge hs
    have hle : (x.significand : ℚ) < 2 ^ 52 + 1 := by
      have := h.low
      nlinarith [x.margins_le]
    have : x.significand < 2 ^ 52 + 1 := by exact_mod_cast hle
    omega
  have hlow := h.low
  rw [hm, margins_of_power hs hm] at hlow
  push_cast at hlow
  have hlead : lead num den = (x.shift : ℤ) - 1023 := by
    have hge : (2 : ℚ) ^ 51 * x.ulp ≤ num / den := by linarith
    rw [pow_mul_ulp] at hge
    have hlt' := hlt
    rw [pow_mul_ulp] at hlt'
    have := le_lead hnum hden hge
    have := lead_lt hnum hden hlt'
    push_cast at *
    omega
  have hunit : max (lead num den - 52) (-1074) = (x.shift : ℤ) - 1075 := by omega
  have hscaled : scaled num den ((x.shift : ℤ) - 1075) = 2 ^ 53 := by
    rw [hhalf] at hlow hlt
    refine scaled_eq hden ?_ ?_ fun _ => by norm_num
    all_goals push_cast; linarith
  have hcode : ((x.shift : ℤ) - 1075 + 1074).toNat * 2 ^ 52 + 2 ^ 53 = x.code := by
    rw [code, hm]
    omega
  rw [ofRatio_eq_ofCode hnum hden, hunit, hscaled, hcode]
  exact ofCode_code hfinite hpos

/-- The number that a fraction rounds to is the number nearest to it. -/
theorem ofRatio_eq {x : Double} (hfinite : x.isFinite = true) (hpos : x.negative = false)
    (hm : 0 < x.significand) {num den : Nat} (hden : 0 < den) (h : x.Rounds (num / den)) :
    ofRatio false num den = x := by
  have hnum : 0 < num := by
    rcases Nat.eq_zero_or_pos num with rfl | hpos
    · have hmq : (1 : ℚ) ≤ x.significand := by exact_mod_cast hm
      have := h.low
      rw [Nat.cast_zero, zero_div] at this
      nlinarith [x.ulp_pos, x.margins_le]
    · exact hpos
  by_cases hbinade : x.shift = 0 ∨ 2 ^ 52 * x.ulp ≤ num / den
  · rw [ofRatio_eq_ofCode hnum hden, unit_of_binade hnum hden h hbinade, scaled_of_binade hden h,
      sub_add_cancel, Int.toNat_natCast]
    exact ofCode_code hfinite hpos
  · simp only [not_or, not_le] at hbinade
    exact ofRatio_of_lower_binade hfinite hpos hnum hden h (Nat.pos_of_ne_zero hbinade.1) hbinade.2

end CustomElement.Double
