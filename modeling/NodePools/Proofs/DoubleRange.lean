import NodePools.Decimal.Binary64

/-!
# Which whole numbers are doubles, once rounded

A whole number is rounded to fifty-three bits, and it is beyond all doubles if the power of two
that goes with them is too large.  This is so from the middle between the greatest double,
`(2 ^ 53 - 1) * 2 ^ 971`, and the next power of two on, since the middle itself goes to the even
mantissa, which is the upper one (`ofInt?_isSome_iff`).
-/

namespace NodePools.Decimal.Binary64

theorem roundDiv_bounds (num den : Nat) :
    num / den ≤ roundDiv num den ∧ roundDiv num den ≤ num / den + 1 := by
  rw [roundDiv]
  split
  · omega
  · split
    · omega
    · split <;> omega

theorem roundDiv_one (num : Nat) : roundDiv num 1 = num := by
  rw [roundDiv]
  simp only [Nat.div_one, Nat.mod_one, Nat.mul_zero, Nat.zero_lt_one, if_true]

/-- Below an even number of parts, what is in the upper half of the last part goes up. -/
theorem roundDiv_eq_iff {num half parts : Nat} (pos : 0 < half) (even : parts % 2 = 0)
    (below : num < parts * (2 * half)) :
    roundDiv num (2 * half) = parts ↔ parts * (2 * half) - half ≤ num := by
  have least : num / (2 * half) < parts := Nat.div_lt_of_lt_mul (by rwa [Nat.mul_comm])
  have bounds := roundDiv_bounds num (2 * half)
  have whole := Nat.div_add_mod num (2 * half)
  have rest := Nat.mod_lt num (show 0 < 2 * half by omega)
  by_cases last : num / (2 * half) + 1 = parts
  · have same : parts * (2 * half) = 2 * half * (num / (2 * half)) + 2 * half := by
      rw [← last, Nat.add_mul, Nat.one_mul, Nat.mul_comm]
    rw [same, roundDiv]
    split
    · omega
    · split
      · omega
      · rw [if_neg (by omega)]
        omega
  · have earlier : 2 * half * (num / (2 * half)) + 2 * half + 2 * half ≤ parts * (2 * half) := by
      have room : num / (2 * half) + 1 + 1 ≤ parts := by omega
      have scaled := Nat.mul_le_mul_right (2 * half) room
      rwa [Nat.add_mul, Nat.add_mul, Nat.one_mul, Nat.mul_comm (num / (2 * half))] at scaled
    omega

theorem exponentOf_whole {n : Nat} (pos : n ≠ 0) : exponentOf n 1 = (Nat.log2 n : Int) - 52 := by
  have least : ¬n < 1 * Nat.pow 2 (Nat.log2 n) := by
    rw [Nat.one_mul, Nat.not_lt]
    exact Nat.log2_self_le pos
  have one : Nat.log2 1 = 0 := rfl
  rw [exponentOf, one]
  simp only [Int.natCast_zero, Int.sub_zero, Int.natCast_nonneg, if_true, Int.toNat_natCast,
    if_neg least]
  omega

/-- The mantissa of a whole number, with fifty-three bits or the power of two behind them. -/
def mantissaOf (n : Nat) : Nat :=
  if 52 ≤ Nat.log2 n then roundDiv n (Nat.pow 2 (Nat.log2 n - 52))
  else n * Nat.pow 2 (52 - Nat.log2 n)

theorem mantissaOf_bounds {n : Nat} (pos : n ≠ 0) :
    Nat.pow 2 52 ≤ mantissaOf n ∧ mantissaOf n ≤ Nat.pow 2 53 := by
  have low : 2 ^ Nat.log2 n ≤ n := Nat.log2_self_le pos
  have high : n < 2 ^ (Nat.log2 n + 1) := Nat.lt_log2_self
  rw [mantissaOf]
  split
  next large =>
    obtain ⟨least, most⟩ := roundDiv_bounds n (Nat.pow 2 (Nat.log2 n - 52))
    have lower : 2 ^ 52 ≤ n / 2 ^ (Nat.log2 n - 52) := by
      rw [Nat.le_div_iff_mul_le (Nat.two_pow_pos _), ← Nat.pow_add]
      rwa [show 52 + (Nat.log2 n - 52) = Nat.log2 n by omega]
    have upper : n / 2 ^ (Nat.log2 n - 52) < 2 ^ 53 := by
      refine Nat.div_lt_of_lt_mul ?_
      rw [← Nat.pow_add]
      rwa [show Nat.log2 n - 52 + 53 = Nat.log2 n + 1 by omega]
    exact ⟨Nat.le_trans lower least, Nat.le_trans most upper⟩
  next small =>
    have lower : 2 ^ Nat.log2 n * 2 ^ (52 - Nat.log2 n) ≤ n * 2 ^ (52 - Nat.log2 n) :=
      Nat.mul_le_mul_right _ low
    have upper : n * 2 ^ (52 - Nat.log2 n) ≤ 2 ^ (Nat.log2 n + 1) * 2 ^ (52 - Nat.log2 n) :=
      Nat.mul_le_mul_right _ (Nat.le_of_lt high)
    rw [← Nat.pow_add] at lower upper
    rw [show Nat.log2 n + (52 - Nat.log2 n) = 52 by omega] at lower
    rw [show Nat.log2 n + 1 + (52 - Nat.log2 n) = 53 by omega] at upper
    exact ⟨lower, upper⟩

theorem ratioBits_whole {n : Nat} (pos : n ≠ 0) :
    ratioBits n 1 = 2047 * Nat.pow 2 52 ↔
      1024 ≤ Nat.log2 n ∨ Nat.log2 n = 1023 ∧ mantissaOf n = Nat.pow 2 53 := by
  obtain ⟨least, most⟩ := mantissaOf_bounds pos
  have rounded : (if 0 ≤ (Nat.log2 n : Int) - 52 then
        roundDiv n (1 * Nat.pow 2 ((Nat.log2 n : Int) - 52).toNat)
      else roundDiv (n * Nat.pow 2 (-((Nat.log2 n : Int) - 52)).toNat) 1) = mantissaOf n := by
    rw [mantissaOf]
    by_cases large : 52 ≤ Nat.log2 n
    · rw [if_pos large, if_pos (by omega), Nat.one_mul,
        show ((Nat.log2 n : Int) - 52).toNat = Nat.log2 n - 52 by omega]
    · rw [if_neg large, if_neg (by omega), roundDiv_one,
        show (-((Nat.log2 n : Int) - 52)).toNat = 52 - Nat.log2 n by omega]
  rw [ratioBits, if_neg pos, exponentOf_whole pos]
  simp only [rounded]
  simp only [Nat.pow_eq] at least most ⊢
  generalize mantissaOf n = q at *
  generalize Nat.log2 n = l at *
  by_cases carried : q = 2 ^ 53
  · simp only [carried, beq_self_eq_true, if_true, Nat.lt_irrefl, if_false, and_true]
    split <;> omega
  · simp only [beq_eq_false_iff_ne.mpr carried, Bool.false_eq_true, if_false,
      if_neg (Nat.not_lt.mpr least)]
    split <;> omega

/-- A whole number is rounded to infinity from the middle between the greatest double and the
next power of two on. -/
theorem ratioBits_infinite (n : Nat) :
    ratioBits n 1 = 2047 * Nat.pow 2 52 ↔ (Nat.pow 2 54 - 1) * Nat.pow 2 970 ≤ n := by
  generalize of_k : 970 = k
  simp only [Nat.pow_eq]
  have half : 0 < 2 ^ k := Nat.two_pow_pos _
  by_cases zero : n = 0
  · subst zero
    exact ⟨nofun, fun none => by omega⟩
  rw [ratioBits_whole zero]
  have below : 2 ^ (53 + k) = 2 ^ 53 * 2 ^ k := Nat.pow_add ..
  have top : 2 ^ (54 + k) = 2 ^ 53 * (2 * 2 ^ k) := by
    rw [← Nat.pow_succ', ← Nat.pow_add, Nat.add_succ, ← Nat.succ_add]
  rcases Nat.lt_trichotomy (Nat.log2 n) 1023 with small | last | large
  · have low : n < 2 ^ (53 + k) := (Nat.log2_lt zero).mp (by omega)
    omega
  · have high : n < 2 ^ (54 + k) := (Nat.log2_lt zero).mp (by omega)
    have rounded : mantissaOf n = roundDiv n (2 * 2 ^ k) := by
      rw [mantissaOf, last, if_pos (by omega), show 1023 - 52 = k + 1 by omega, Nat.pow_eq,
        Nat.pow_succ']
    rw [top] at high
    have up := roundDiv_eq_iff half (by decide : 2 ^ 53 % 2 = 0) high
    rw [rounded, last, Nat.pow_eq, up]
    omega
  · have high : 2 ^ (54 + k) ≤ n := (Nat.le_log2 zero).mp (by omega)
    exact ⟨fun _ => by omega, fun _ => .inl large⟩

/-- The whole numbers that can be rounded to a double. -/
theorem ofInt?_isSome_iff {n : Int} : (ofInt? n).isSome ↔
    n.natAbs < (Nat.pow 2 54 - 1) * Nat.pow 2 970 := by
  rw [ofInt?, ← Nat.not_le, ← ratioBits_infinite]
  split
  next far => exact ⟨nofun, fun near => absurd far near⟩
  next near => exact ⟨fun _ => near, fun _ => rfl⟩

end NodePools.Decimal.Binary64
