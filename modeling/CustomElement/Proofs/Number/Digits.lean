import CustomElement.Proofs.Number.Rounding

/-!
# Shortest digits read back

A candidate for the shortest digits of a number lies on a decimal grid and rounds to the number
(`candidate_some`, `roundsOn_iff`). On the grid with seventeen digits the step is less than one unit
of the significand, because the significand has less than 53 bits and `2 ^ 53 < 10 ^ 16`; so one of
the two grid points around the number rounds to it, and there always are shortest digits
(`shortest_rounds`).
-/

namespace CustomElement.Double

/-! ## Grids -/

theorem quarterUnit_pos (x : Double) : 0 < x.quarterUnit.1 ∧ 0 < x.quarterUnit.2 := by
  unfold quarterUnit
  split <;> simp only [Nat.pow_eq] <;> exact ⟨by positivity, by positivity⟩

theorem quarterUnit_eq (x : Double) :
    (4 * x.quarterUnit.1 : ℚ) = x.ulp * x.quarterUnit.2 := by
  unfold quarterUnit ulp
  split
  · rename_i h
    obtain ⟨k, hk⟩ := Nat.exists_eq_add_of_le h
    rw [hk]
    push_cast
    simp only [Nat.pow_eq, Nat.cast_pow, Nat.add_sub_cancel_left]
    rw [show (1076 : ℤ) + k - 1074 = (2 : ℕ) + (k : ℕ) by ring, zpow_add₀ two_ne_zero, zpow_natCast,
      zpow_natCast]
    norm_num
  · rename_i h
    obtain ⟨k, hk⟩ := Nat.exists_eq_add_of_le (Nat.le_of_not_le h)
    simp only [Nat.pow_eq, Nat.cast_pow]
    rw [show 1076 - x.shift = k by omega]
    have : (x.shift : ℤ) - 1074 = (2 : ℕ) - (k : ℕ) := by push_cast; omega
    rw [this, zpow_sub₀ two_ne_zero, zpow_natCast, zpow_natCast]
    field_simp
    norm_num

theorem powerOfTen_pos (e : ℤ) : 0 < (powerOfTen e).1 ∧ 0 < (powerOfTen e).2 := by
  cases e <;> simp only [powerOfTen, Nat.pow_eq] <;> exact ⟨by positivity, by positivity⟩

theorem powerOfTen_eq (e : ℤ) : ((powerOfTen e).1 : ℚ) = 10 ^ e * (powerOfTen e).2 := by
  cases e with
  | ofNat k => simp [powerOfTen]
  | negSucc k =>
    simp only [powerOfTen, Nat.pow_eq, Nat.cast_pow, zpow_negSucc]
    push_cast
    field_simp

section Grid

variable (x : Double) (grid : ℤ)

/-- The size of the units in which steps and quarters are naturals. -/
def gridScale : ℚ :=
  x.quarterUnit.2 * (powerOfTen grid).2 / 4

theorem gridScale_pos : 0 < x.gridScale grid := by
  have hu : (0 : ℚ) < x.quarterUnit.2 := by exact_mod_cast x.quarterUnit_pos.2
  have hp : (0 : ℚ) < (powerOfTen grid).2 := by exact_mod_cast (powerOfTen_pos grid).2
  unfold gridScale
  positivity

theorem cast_gridStep : (x.gridStep grid : ℚ) = x.gridScale grid * (4 * 10 ^ grid) := by
  unfold gridStep gridScale
  push_cast
  rw [powerOfTen_eq]
  ring

theorem cast_gridQuarter : (x.gridQuarter grid : ℚ) = x.gridScale grid * x.ulp := by
  have := x.quarterUnit_eq
  unfold gridQuarter gridScale
  push_cast
  linear_combination (powerOfTen grid).2 / 4 * this

variable {x grid}

theorem quarters_le_steps {q n : Nat} :
    q * x.gridQuarter grid ≤ n * x.gridStep grid ↔ (q * x.ulp : ℚ) ≤ 4 * (n * 10 ^ grid) := by
  rw [← Nat.cast_le (α := ℚ), Nat.cast_mul, Nat.cast_mul, cast_gridStep, cast_gridQuarter,
    mul_left_comm, mul_left_comm (n : ℚ), mul_le_mul_iff_of_pos_left (x.gridScale_pos grid),
    mul_left_comm (n : ℚ)]

theorem steps_le_quarters {q n : Nat} :
    n * x.gridStep grid ≤ q * x.gridQuarter grid ↔ (4 * (n * 10 ^ grid) : ℚ) ≤ q * x.ulp := by
  rw [← Nat.cast_le (α := ℚ), Nat.cast_mul, Nat.cast_mul, cast_gridStep, cast_gridQuarter,
    mul_left_comm, mul_left_comm (q : ℚ), mul_le_mul_iff_of_pos_left (x.gridScale_pos grid),
    mul_left_comm (n : ℚ)]

theorem roundsOn_iff (hm : 0 < x.significand) {n : Nat} :
    x.roundsOn grid n = true ↔ x.Rounds (n * 10 ^ grid) := by
  have hle : x.margins.1 ≤ 4 * x.significand := by
    rcases x.margins_eq with h | ⟨h, -⟩ <;> omega
  have hlow : ((4 * x.significand - x.margins.1 : ℕ) : ℚ) = 4 * x.significand - x.margins.1 := by
    push_cast [Nat.cast_sub hle]
    ring
  have hhigh : ((4 * x.significand + x.margins.2 : ℕ) : ℚ) = 4 * x.significand + 2 := by
    push_cast
    rfl
  unfold roundsOn
  by_cases heven : x.significand % 2 = 0
  · simp only [heven, beq_self_eq_true, if_true, Bool.and_eq_true, decide_eq_true_eq,
      quarters_le_steps, steps_le_quarters, hlow, hhigh]
    exact ⟨fun h => ⟨h.1, h.2, fun _ => heven⟩, fun h => ⟨h.low, h.high⟩⟩
  · simp only [heven, beq_iff_eq, if_false, Bool.and_eq_true, decide_eq_true_eq, ← not_le,
      quarters_le_steps, steps_le_quarters, hlow, hhigh]
    simp only [not_le]
    refine ⟨fun h => ⟨h.1.le, h.2.le, fun he => ?_⟩, fun h => ⟨?_, ?_⟩⟩
    · rcases he with he | he
      · exact absurd he h.1.ne
      · exact absurd he h.2.ne
    · exact lt_of_le_of_ne h.low fun he => heven (h.even (.inl he))
    · exact lt_of_le_of_ne h.high fun he => heven (h.even (.inr he))

end Grid

/-! ## Candidates -/

theorem candidate_some {tie : Tie} {x : Double} {count : Nat} {d : Digits}
    (h : candidate tie x count = some d) :
    ∃ n, x.roundsOn (x.gridOf count) n = true ∧ d = digitsOf n (x.gridOf count) := by
  simp only [candidate] at h
  split at h
  · cases h
  · rename_i hbelow _
    exact ⟨_, hbelow, (Option.some.inj h).symm⟩
  · rename_i _ habove
    exact ⟨_, habove, (Option.some.inj h).symm⟩
  · rename_i hbelow habove
    split at h
    · exact ⟨_, habove, (Option.some.inj h).symm⟩
    · exact ⟨_, hbelow, (Option.some.inj h).symm⟩

theorem candidate_none {tie : Tie} {x : Double} {count : Nat}
    (h : candidate tie x count = none) :
    x.roundsOn (x.gridOf count) (x.stepsBelow (x.gridOf count)) = false ∧
      x.roundsOn (x.gridOf count) (x.stepsBelow (x.gridOf count) + 1) = false := by
  simp only [candidate] at h
  split at h
  · rename_i hbelow habove
    exact ⟨hbelow, habove⟩
  all_goals cases h

/-! ## Seventeen digits -/

theorem pow_decimalLength_gt (n : Nat) : n < 10 ^ decimalLength n :=
  (Nat.length_toDigits_le_iff (by norm_num) (Nat.length_toDigits_pos)).1 (Nat.le_refl _)

theorem decimalLength_pos (n : Nat) : 0 < decimalLength n :=
  Nat.length_toDigits_pos

theorem pow_decimalLength_le {n : Nat} (hn : 0 < n) : 10 ^ (decimalLength n - 1) ≤ n := by
  rcases Nat.eq_or_lt_of_le (decimalLength_pos n) with h | h
  · rw [← h]
    exact hn
  · by_contra hlt
    have := (Nat.length_toDigits_le_iff (b := 10) (by norm_num)
      (show 0 < decimalLength n - 1 by omega)).2 (Nat.lt_of_not_le hlt)
    change decimalLength n ≤ decimalLength n - 1 at this
    omega

/-- The leading digit of a fraction stands at a power of ten that the fraction reaches. -/
theorem zpow_leadingExponent_le {num den : Nat} (hnum : 0 < num) (hden : 0 < den) :
    (10 : ℚ) ^ leadingExponent num den ≤ num / den := by
  have hn : (0 : ℚ) < num := by exact_mod_cast hnum
  have hd : (0 : ℚ) < den := by exact_mod_cast hden
  unfold leadingExponent
  split
  · rename_i hle
    have hq : 0 < num / den := Nat.div_pos hle hden
    have hpow := pow_decimalLength_le hq
    have hlen := decimalLength_pos (num / den)
    rw [show (decimalLength (num / den) : ℤ) - 1 = ((decimalLength (num / den) - 1 : ℕ) : ℤ) by omega,
      zpow_natCast, le_div_iff₀ hd]
    have : 10 ^ (decimalLength (num / den) - 1) * den ≤ num :=
      le_trans (Nat.mul_le_mul_right den hpow) (Nat.div_mul_le_self num den)
    exact_mod_cast this
  · rename_i hlt
    have hpow := pow_decimalLength_gt ((den + num - 1) / num - 1)
    have hceil : den ≤ num * ((den + num - 1) / num) := by
      have := Nat.div_add_mod (den + num - 1) num
      have := Nat.mod_lt (den + num - 1) hnum
      omega
    have hmul : den ≤ num * 10 ^ decimalLength ((den + num - 1) / num - 1) :=
      le_trans hceil (Nat.mul_le_mul_left num (by omega))
    rw [zpow_neg, zpow_natCast, inv_le_iff_one_le_mul₀ (by positivity), div_mul_eq_mul_div,
      le_div_iff₀ hd, one_mul]
    exact_mod_cast hmul

theorem value_eq (x : Double) :
    ((4 * x.significand * x.quarterUnit.1 : ℕ) : ℚ) / x.quarterUnit.2 = x.significand * x.ulp := by
  have hunit := x.quarterUnit_eq
  have hu : (0 : ℚ) < x.quarterUnit.2 := by exact_mod_cast x.quarterUnit_pos.2
  rw [div_eq_iff hu.ne']
  push_cast
  linear_combination (x.significand : ℚ) * hunit

/-- With seventeen digits the steps of the grid are less than a unit of the significand. -/
theorem zpow_gridOf_le {x : Double} (hm : 0 < x.significand) :
    (10 : ℚ) ^ x.gridOf 17 * 10 ^ 16 ≤ x.significand * x.ulp := by
  obtain ⟨hu, hu'⟩ := x.quarterUnit_pos
  have h := @zpow_leadingExponent_le (4 * x.significand * x.quarterUnit.1) _ (by positivity) hu'
  rw [value_eq] at h
  rw [gridOf, ← zpow_natCast, ← zpow_add₀ (by norm_num)]
  convert h using 2
  push_cast
  ring

/-- A number lies between the two points of a grid around it. -/
theorem stepsBelow_spec (x : Double) (grid : ℤ) :
    (x.stepsBelow grid : ℚ) * 10 ^ grid ≤ x.significand * x.ulp ∧
      x.significand * x.ulp < ((x.stepsBelow grid + 1 : ℕ) : ℚ) * 10 ^ grid := by
  have hstep : 0 < x.gridStep grid :=
    Nat.mul_pos (powerOfTen_pos grid).1 x.quarterUnit_pos.2
  have hle : x.stepsBelow grid * x.gridStep grid ≤ 4 * x.significand * x.gridQuarter grid :=
    Nat.div_mul_le_self _ _
  have hlt : 4 * x.significand * x.gridQuarter grid < (x.stepsBelow grid + 1) * x.gridStep grid := by
    rw [Nat.mul_comm (x.stepsBelow grid + 1)]
    exact Nat.lt_mul_div_succ _ hstep
  rw [steps_le_quarters] at hle
  rw [← not_le, steps_le_quarters, not_le] at hlt
  push_cast at hle hlt ⊢
  constructor <;> linarith

theorem Rounds.of_lt {x : Double} {v : ℚ}
    (hlow : (4 * x.significand - x.margins.1 : ℚ) * x.ulp < 4 * v)
    (hhigh : 4 * v < (4 * x.significand + 2) * x.ulp) : x.Rounds v :=
  ⟨hlow.le, hhigh.le, fun h => h.elim (fun h => absurd h hlow.ne) fun h => absurd h hhigh.ne⟩

/-- One of the two points around a number on its grid with seventeen digits rounds to it. -/
theorem rounds_seventeen {x : Double} (hm : 0 < x.significand) :
    x.Rounds (x.stepsBelow (x.gridOf 17) * 10 ^ x.gridOf 17) ∨
      x.Rounds ((x.stepsBelow (x.gridOf 17) + 1 : ℕ) * 10 ^ x.gridOf 17) := by
  obtain ⟨hle, hlt⟩ := x.stepsBelow_spec (x.gridOf 17)
  have hstep := zpow_gridOf_le hm
  have hulp := x.ulp_pos
  have hlt53 : (x.significand : ℚ) < 2 ^ 53 := by exact_mod_cast x.significand_lt
  push_cast at hlt ⊢
  generalize (x.stepsBelow (x.gridOf 17) : ℚ) = n at *
  generalize (10 : ℚ) ^ x.gridOf 17 = d at *
  rcases x.margins_eq with hmargin | ⟨hmargin, -, hpower⟩
  · -- The nearer of the two points is at most half a step away.
    have hd : d < x.ulp := by nlinarith
    rcases le_total (2 * (x.significand * x.ulp - n * d)) d with hnear | hnear
    · left
      apply Rounds.of_lt <;> rw [hmargin] at * <;> push_cast <;> nlinarith
    · right
      apply Rounds.of_lt <;> rw [hmargin] at * <;> push_cast <;> nlinarith
  · -- Below a power of two only the upper point is sure to be near enough.
    right
    rw [hpower] at hstep hlt hle
    push_cast at hstep hlt hle
    have hd : 2 * d < x.ulp := by nlinarith
    apply Rounds.of_lt <;> simp only [hmargin, hpower] <;> push_cast <;> nlinarith

theorem candidate_seventeen (tie : Tie) {x : Double} (hm : 0 < x.significand) :
    candidate tie x 17 ≠ none := by
  intro hnone
  obtain ⟨hbelow, habove⟩ := candidate_none hnone
  rcases rounds_seventeen hm with h | h
  · rw [(roundsOn_iff hm).2 h] at hbelow
    cases hbelow
  · rw [(roundsOn_iff hm).2 h] at habove
    cases habove

/-- The shortest digits of a number are those of a decimal that rounds to it. -/
theorem shortest_rounds (tie : Tie) {x : Double} (hm : 0 < x.significand) :
    ∃ (n : Nat) (e : ℤ), x.shortest tie = digitsOf n e ∧ x.Rounds (n * 10 ^ e) := by
  have hsome : ((List.range 17).findSome? fun k => candidate tie x (k + 1)) ≠ none := by
    intro hnone
    exact candidate_seventeen tie hm (List.findSome?_eq_none_iff.1 hnone 16 (by decide))
  obtain ⟨d, hd⟩ := Option.ne_none_iff_exists'.1 hsome
  obtain ⟨k, -, hk⟩ := List.exists_of_findSome?_eq_some hd
  obtain ⟨n, hn, rfl⟩ := candidate_some hk
  exact ⟨n, _, by rw [shortest, hd]; rfl, (roundsOn_iff hm).1 hn⟩

end CustomElement.Double
