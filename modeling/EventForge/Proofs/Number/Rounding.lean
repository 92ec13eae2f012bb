import EventForge.Number.Binary64
import Mathlib.Algebra.Order.Field.Power
import Mathlib.Data.Nat.Cast.Order.Field
import Mathlib.Data.Rat.Cast.Order
import Mathlib.Tactic.FieldSimp
import Mathlib.Tactic.Linarith
import Mathlib.Tactic.NormNum
import Mathlib.Tactic.Positivity
import Mathlib.Tactic.Ring

/-!
# Bounds on rounded numbers

The double nearest to a ratio is at most a power of two if the ratio is.  The bits of a double grow
with it, so that the bits of a rounded ratio are compared with those of the power.
-/

namespace EventForge

namespace Binary64

theorem twoTo_cast (exponent : Nat) : ((twoTo exponent : Nat) : ℚ) = 2 ^ (exponent : Int) := by
  rw [zpow_natCast]
  exact Nat.cast_pow 2 exponent

/-!
## Scaled ratios
-/

theorem scaleBinary_pos (numerator denominator : Nat) (exponent : Int) (positive : 0 < denominator) :
    0 < (scaleBinary numerator denominator exponent).2 := by
  cases exponent with
  | ofNat shift => exact positive
  | negSucc shift => exact Nat.mul_pos positive (Nat.two_pow_pos _)

theorem scaleBinary_eq (numerator denominator : Nat) (exponent : Int) :
    ((scaleBinary numerator denominator exponent).1 : ℚ) /
        (scaleBinary numerator denominator exponent).2 =
      (numerator : ℚ) / denominator * 2 ^ exponent := by
  cases exponent with
  | ofNat shift =>
      rw [scaleBinary, Nat.cast_mul, twoTo_cast]
      exact mul_div_right_comm _ _ _
  | negSucc shift =>
      rw [scaleBinary, Nat.cast_mul, twoTo_cast, zpow_negSucc, ← zpow_natCast, ← div_eq_mul_inv,
        div_div]

/-- The bounds of a number by its binary digits. -/
theorem bitLength_bounds (number : Nat) (positive : 0 < number) :
    (2 : ℚ) ^ ((bitLength number : Int) - 1) ≤ number ∧ (number : ℚ) < 2 ^ (bitLength number : Int) := by
  have nonzero : number ≠ 0 := by omega
  have length : bitLength number = Nat.log2 number + 1 := if_neg nonzero
  have below := Nat.log2_self_le nonzero
  have above := Nat.lt_log2_self (n := number)
  rw [length, zpow_natCast]
  constructor
  · rw [Nat.cast_add, Nat.cast_one, add_sub_cancel_right, zpow_natCast]
    exact_mod_cast below
  · exact_mod_cast above

/-!
## Rounding
-/

theorem roundHalfEven_le (numerator denominator bound : Nat) (positive : 0 < denominator)
    (most : (numerator : ℚ) / denominator ≤ bound) :
    roundHalfEven numerator denominator ≤ bound := by
  have whole : numerator ≤ bound * denominator := by
    rw [div_le_iff₀ (by exact_mod_cast positive)] at most
    exact_mod_cast most
  have quotient : numerator / denominator ≤ bound :=
    Nat.div_le_of_le_mul (by rwa [Nat.mul_comm])
  unfold roundHalfEven
  rcases Nat.lt_or_eq_of_le quotient with less | equal
  · dsimp only
    split <;> omega
  · -- A ratio that reaches the bound leaves no remainder.
    have split := Nat.div_add_mod numerator denominator
    rw [equal, Nat.mul_comm] at split
    have remainder : numerator % denominator = 0 := by omega
    have apart : (0 == denominator) = false := by simpa using positive.ne
    simp [remainder, apart, quotient]

/-- A ratio that is shifted by the places that are found for it lies below 2 ^ 53, and above 2 ^ 51. -/
theorem shift_spec (numerator denominator : Nat) (positive : 0 < numerator)
    (divides : 0 < denominator) :
    let guess : Int := 53 - ((bitLength numerator : Int) - bitLength denominator)
    let wide := scaleBinary numerator denominator guess
    let shift := if twoTo 53 ≤ wide.1 / wide.2 then guess - 1 else guess
    (2 : ℚ) ^ (51 - shift) < (numerator : ℚ) / denominator ∧
      (numerator : ℚ) / denominator * 2 ^ shift < 2 ^ ((53 : Nat) : Int) := by
  intro guess wide shift
  obtain ⟨least, most⟩ := bitLength_bounds numerator positive
  obtain ⟨divisorLeast, divisorMost⟩ := bitLength_bounds denominator divides
  have divisor : (0 : ℚ) < denominator := by exact_mod_cast divides
  have two : (2 : ℚ) ≠ 0 := by norm_num
  have below : (numerator : ℚ) / denominator < 2 ^ (54 - guess) := by
    rw [div_lt_iff₀ divisor]
    calc (numerator : ℚ) < 2 ^ (bitLength numerator : Int) := most
      _ = 2 ^ (54 - guess) * 2 ^ ((bitLength denominator : Int) - 1) := by
          rw [← zpow_add₀ two]
          congr 1
          omega
      _ ≤ 2 ^ (54 - guess) * denominator := by gcongr
  have above : (2 : ℚ) ^ (52 - guess) < (numerator : ℚ) / denominator := by
    rw [lt_div_iff₀ divisor]
    calc (2 : ℚ) ^ (52 - guess) * denominator
        < 2 ^ (52 - guess) * 2 ^ (bitLength denominator : Int) := by gcongr
      _ = 2 ^ ((bitLength numerator : Int) - 1) := by
          rw [← zpow_add₀ two]
          congr 1
          omega
      _ ≤ numerator := least
  have scaled := scaleBinary_eq numerator denominator guess
  have inhabited := scaleBinary_pos numerator denominator guess divides
  by_cases long : twoTo 53 ≤ wide.1 / wide.2
  · have shifted : shift = guess - 1 := if_pos long
    rw [shifted]
    refine ⟨by convert above using 2; omega, ?_⟩
    calc (numerator : ℚ) / denominator * 2 ^ (guess - 1)
        < 2 ^ (54 - guess) * 2 ^ (guess - 1) := by gcongr
      _ = 2 ^ ((53 : Nat) : Int) := by
          rw [← zpow_add₀ two]
          congr 1
          omega
  · have shifted : shift = guess := if_neg long
    rw [shifted]
    refine ⟨lt_of_le_of_lt (zpow_le_zpow_right₀ (by norm_num) (by omega)) above, ?_⟩
    rw [← scaled, div_lt_iff₀ (by exact_mod_cast inhabited), ← twoTo_cast]
    have short := (Nat.div_lt_iff_lt_mul inhabited).mp (Nat.lt_of_not_le long)
    exact_mod_cast short

/-- The bits of a ratio that is at most a power of two are at most those of the power. -/
theorem nearestBits_le (numerator denominator power : Nat) (positive : 0 < numerator)
    (divides : 0 < denominator) (most : (numerator : ℚ) / denominator ≤ 2 ^ (power : Int)) :
    nearestBits numerator denominator ≤ (power + 1023) * twoTo 52 := by
  obtain ⟨least, short⟩ := shift_spec numerator denominator positive divides
  have two : (1 : ℚ) < 2 := by norm_num
  unfold nearestBits
  generalize (53 : Int) - ((bitLength numerator : Int) - bitLength denominator) = guess at *
  dsimp only at least short ⊢
  generalize (if twoTo 53 ≤ (scaleBinary numerator denominator guess).1 /
    (scaleBinary numerator denominator guess).2 then guess - 1 else guess) = wanted at *
  have enough : 51 - wanted < power := (zpow_lt_zpow_iff_right₀ two).mp (least.trans_le most)
  obtain ⟨shift, stops⟩ : ∃ shift, shift = min wanted 1074 := ⟨_, rfl⟩
  rw [← stops]
  have inhabited := scaleBinary_pos numerator denominator shift divides
  have scaled := scaleBinary_eq numerator denominator shift
  have nonnegative : (0 : ℚ) ≤ (numerator : ℚ) / denominator := by positivity
  refine (Nat.min_le_left _ _).trans ?_
  by_cases tight : shift = 52 - power
  · -- The power itself has the least significand of 53 digits.
    have significand : roundHalfEven (scaleBinary numerator denominator shift).1
        (scaleBinary numerator denominator shift).2 ≤ twoTo 52 := by
      refine roundHalfEven_le _ _ _ inhabited ?_
      rw [scaled, twoTo_cast, tight]
      calc (numerator : ℚ) / denominator * 2 ^ (52 - power : Int)
          ≤ 2 ^ (power : Int) * 2 ^ (52 - power : Int) := by gcongr
        _ = 2 ^ ((52 : Nat) : Int) := by
            rw [← zpow_add₀ two_ne_zero]
            congr 1
            omega
    have places : (1074 - shift).toNat = power + 1022 := by omega
    have parts : (power + 1023) * twoTo 52 = twoTo 52 + (power + 1022) * twoTo 52 := by ring
    rw [places, parts]
    exact Nat.add_le_add_right significand _
  · have significand : roundHalfEven (scaleBinary numerator denominator shift).1
        (scaleBinary numerator denominator shift).2 ≤ twoTo 53 := by
      refine roundHalfEven_le _ _ _ inhabited ?_
      rw [scaled, twoTo_cast]
      refine le_trans ?_ short.le
      gcongr
      · norm_num
      · omega
    have places : (1074 - shift).toNat ≤ power + 1021 := by omega
    have parts : (power + 1023) * twoTo 52 = 2 * twoTo 52 + (power + 1021) * twoTo 52 := by ring
    rw [parts]
    exact Nat.add_le_add significand (Nat.mul_le_mul_right _ places)

/-!
## The number of some bits
-/

/-- A finite double whose bits, without the sign, are at most those of a power of two is at most the
power. -/
theorem ofBits_le (bits power : Nat) (negative : Bool) (significand : Nat) (exponent : Int)
    (found : ofBits bits = .finite negative significand exponent)
    (most : bits % twoTo 63 ≤ (power + 1023) * twoTo 52) :
    (significand : ℚ) * 2 ^ exponent ≤ 2 ^ (power : Int) := by
  have two : (1 : ℚ) < 2 := by norm_num
  have places : twoTo 63 = twoTo 11 * twoTo 52 := rfl
  have biases : twoTo 11 = 2048 := rfl
  have unitPositive : 0 < twoTo 52 := Nat.two_pow_pos 52
  have unitCast := twoTo_cast 52
  unfold ofBits at found
  dsimp only at found
  rw [places, Nat.mul_comm, Nat.mod_mul] at most
  obtain ⟨biased, biasedIs⟩ : ∃ biased, biased = bits / twoTo 52 % twoTo 11 := ⟨_, rfl⟩
  obtain ⟨fraction, fractionIs⟩ : ∃ fraction, fraction = bits % twoTo 52 := ⟨_, rfl⟩
  have short : fraction < twoTo 52 := fractionIs ▸ Nat.mod_lt _ unitPositive
  rw [← biasedIs, ← fractionIs] at found most
  split at found
  · split at found <;> cases found
  · split at found
    · obtain ⟨rfl, rfl, rfl⟩ := Binary64.finite.inj found
      calc (fraction : ℚ) * 2 ^ (-1074 : Int)
          ≤ 2 ^ ((52 : Nat) : Int) * 2 ^ (-1074 : Int) := by
            rw [← unitCast]
            gcongr
        _ = 2 ^ (-1022 : Int) := by rw [← zpow_add₀ two_ne_zero]; rfl
        _ ≤ 2 ^ (power : Int) := zpow_le_zpow_right₀ two.le (by omega)
    · obtain ⟨rfl, rfl, rfl⟩ := Binary64.finite.inj found
      by_cases less : biased ≤ power + 1022
      · have digits : ((twoTo 52 + fraction : Nat) : ℚ) ≤ 2 ^ ((53 : Nat) : Int) := by
          rw [← twoTo_cast]
          have double : twoTo 53 = twoTo 52 + twoTo 52 := rfl
          exact_mod_cast double ▸ Nat.add_le_add_left short.le _
        have lower : (biased : Int) - 1075 ≤ power - 53 := by omega
        calc ((twoTo 52 + fraction : Nat) : ℚ) * 2 ^ ((biased : Int) - 1075)
            ≤ 2 ^ ((53 : Nat) : Int) * 2 ^ ((power : Int) - 53) :=
              mul_le_mul digits (zpow_le_zpow_right₀ two.le lower) (by positivity) (by positivity)
          _ = 2 ^ (power : Int) := by
              rw [← zpow_add₀ two_ne_zero]
              congr 1
              omega
      · -- The bits are those of the power.
        have whole : twoTo 52 * (power + 1023) ≤ twoTo 52 * biased :=
          Nat.mul_le_mul_left _ (by omega)
        rw [Nat.mul_comm (power + 1023)] at most
        have bias : biased ≤ power + 1023 :=
          Nat.le_of_mul_le_mul_left (by omega) unitPositive
        have nothing : fraction = 0 := by omega
        have same : biased = power + 1023 := by omega
        rw [nothing, same, Nat.add_zero, unitCast, ← zpow_add₀ two_ne_zero]
        exact zpow_le_zpow_right₀ two.le (by omega)

/-- A ratio that is at most a power of two is rounded to a number that is. -/
theorem rounded_le (negative : Bool) (numerator denominator power : Nat) (divides : 0 < denominator)
    (finite : power ≤ 1023) (most : (numerator : ℚ) / denominator ≤ 2 ^ (power : Int)) (sign : Bool)
    (significand : Nat) (exponent : Int)
    (found : ofBits (signedBits negative numerator denominator) =
      .finite sign significand exponent) : (significand : ℚ) * 2 ^ exponent ≤ 2 ^ (power : Int) := by
  refine ofBits_le _ power sign significand exponent found ?_
  have unsigned : (if numerator = 0 then 0 else nearestBits numerator denominator) ≤
      (power + 1023) * twoTo 52 := by
    split
    · exact Nat.zero_le _
    · exact nearestBits_le numerator denominator power (by omega) divides most
  have below : (power + 1023) * twoTo 52 < twoTo 63 :=
    lt_of_le_of_lt (Nat.mul_le_mul_right _ (by omega : power + 1023 ≤ 2046)) (by decide)
  unfold signedBits
  dsimp only
  split
  · rw [Nat.add_mod_left, Nat.mod_eq_of_lt (unsigned.trans_lt below)]
    exact unsigned
  · rw [Nat.mod_eq_of_lt (unsigned.trans_lt below)]
    exact unsigned

/-- A number that is at most a power of two is cut off to an integer that is. -/
theorem natAbs_truncate_le (negative : Bool) (significand : Nat) (exponent : Int) (power : Nat)
    (most : (significand : ℚ) * 2 ^ exponent ≤ 2 ^ (power : Int)) :
    (truncate negative significand exponent).natAbs ≤ twoTo power := by
  have scaled := scaleBinary_eq significand 1 exponent
  rw [Nat.cast_one, div_one] at scaled
  have magnitude : (truncate negative significand exponent).natAbs =
      (scaleBinary significand 1 exponent).1 / (scaleBinary significand 1 exponent).2 := by
    cases negative with
    | false => exact Int.natAbs_natCast _
    | true => exact (Int.natAbs_neg _).trans (Int.natAbs_natCast _)
  rw [magnitude]
  have whole := (Nat.cast_div_le (α := ℚ)).trans (scaled.le.trans most)
  rw [← twoTo_cast] at whole
  exact_mod_cast whole

end Binary64

end EventForge
