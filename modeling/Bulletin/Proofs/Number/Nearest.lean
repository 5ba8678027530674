import Bulletin.Number.Decimal
import Bulletin.Proofs.Number.Rounding

/-!
# The nearest double of a numeral

The double of a decimal numeral is its value rounded once, whatever the exponent: where the exponent
alone settles the double, rounding would give the same. So numerals of one value denote one double,
however many zeros they end in.
-/

namespace Bulletin

theorem Double.rounded_eq_finite {negative : Bool} {n d units : Nat}
    (bounded : Fits units ∧ units < overflowUnits) (h : roundBits n d = units) :
    rounded negative n d = .finite negative units bounded := by
  subst h
  exact dif_pos bounded.2

theorem Double.rounded_congr {negative : Bool} {n d n' d' : Nat}
    (h : roundBits n d = roundBits n' d') : rounded negative n d = rounded negative n' d' := by
  simp only [rounded, h]

theorem Double.rounded_eq_infinite {negative : Bool} {n d : Nat}
    (h : overflowUnits ≤ roundBits n d) : rounded negative n d = .infinite negative :=
  dif_neg (Nat.not_lt.mpr h)

namespace Decimal

theorem ratio_pos (coefficient : Nat) (exponent : Int) : 0 < (ratio coefficient exponent).2 := by
  unfold ratio
  split
  · exact Nat.one_pos
  · exact Nat.pow_pos (by decide)

/-- The quotient of a numeral, with the exponent written as a difference. -/
theorem roundBits_ratio (coefficient : Nat) {exponent : Int} (up down : Nat)
    (h : exponent = up - down) :
    roundBits (ratio coefficient exponent).1 (ratio coefficient exponent).2 =
      roundBits (coefficient * Nat.pow 10 up * unitsPerOne) (Nat.pow 10 down) := by
  refine roundBits_congr (ratio_pos ..) (Nat.pow_pos (by decide)) ?_
  unfold ratio
  generalize unitsPerOne = units
  split
  · obtain rfl : up = exponent.toNat + down := by omega
    simp only [Nat.pow_eq, Nat.pow_add]
    ac_rfl
  · obtain rfl : down = up + (-exponent).toNat := by omega
    simp only [Nat.pow_eq, Nat.pow_add]
    ac_rfl

/-- A numeral of a number that is not larger is not rounded to a larger one. The numbers are
compared with both exponents raised by the same amount. -/
theorem roundBits_ratio_mono {c c' : Nat} {e e' : Int}
    (h : ∀ up up' : Nat, (up : Int) - e = up' - e' → c * Nat.pow 10 up ≤ c' * Nat.pow 10 up') :
    roundBits (ratio c e).1 (ratio c e).2 ≤ roundBits (ratio c' e').1 (ratio c' e').2 := by
  obtain ⟨down, up, up', he, he'⟩ : ∃ down up up' : Nat, e = up - down ∧ e' = up' - down :=
    ⟨e.natAbs + e'.natAbs, (e + (e.natAbs + e'.natAbs)).toNat, (e' + (e.natAbs + e'.natAbs)).toNat,
      by omega, by omega⟩
  rw [roundBits_ratio c up down he, roundBits_ratio c' up' down he']
  have positive : 0 < Nat.pow 10 down := Nat.pow_pos (by decide)
  exact roundBits_mono positive positive
    (Nat.mul_le_mul_right _ (Nat.mul_le_mul_right _ (h up up' (by omega))))

theorem two_pow_le_ten_pow (n : Nat) : Nat.pow 2 (3 * n) ≤ Nat.pow 10 n := by
  rw [Nat.pow_eq, Nat.pow_mul]
  exact Nat.pow_le_pow_left (by decide) n

/-- Above `10 ^ 400` there is no finite double. -/
theorem overflow_le_roundBits {coefficient : Nat} {exponent : Int} (hc : coefficient ≠ 0)
    (h : 400 < exponent) :
    overflowUnits ≤ roundBits (ratio coefficient exponent).1 (ratio coefficient exponent).2 := by
  rw [roundBits_ratio coefficient exponent.toNat 0 (by omega)]
  obtain ⟨k, hk⟩ : ∃ k, overflowUnits = Nat.pow 2 k := ⟨2098, by decide +kernel⟩
  rw [hk]
  refine two_pow_le_roundBits Nat.one_pos ?_
  rw [show Nat.pow 10 0 = 1 from rfl, Nat.mul_one, ← hk]
  obtain ⟨n, hn, large⟩ : ∃ n, n = 3 * 401 ∧ overflowUnits ≤ Nat.pow 2 n * unitsPerOne :=
    ⟨3 * 401, rfl, by decide +kernel⟩
  -- Already `8 ^ 401` has more units than a finite double.
  calc overflowUnits
      ≤ Nat.pow 2 n * unitsPerOne := large
    _ ≤ Nat.pow 2 (3 * exponent.toNat) * unitsPerOne :=
        Nat.mul_le_mul_right _ (Nat.pow_le_pow_right (by decide) (by omega))
    _ ≤ Nat.pow 10 exponent.toNat * unitsPerOne :=
        Nat.mul_le_mul_right _ (two_pow_le_ten_pow _)
    _ ≤ coefficient * Nat.pow 10 exponent.toNat * unitsPerOne :=
        Nat.mul_le_mul_right _ (Nat.le_mul_of_pos_left _ (Nat.pos_of_ne_zero hc))

/-- A coefficient much shorter than a negative exponent makes less than half a unit. -/
theorem roundBits_ratio_eq_zero {coefficient : Nat} {exponent : Int}
    (h : exponent < -((coefficient.log2 : Int) + 401)) :
    roundBits (ratio coefficient exponent).1 (ratio coefficient exponent).2 = 0 := by
  rw [roundBits_ratio coefficient 0 (-exponent).toNat (by omega)]
  refine roundBits_eq_zero ?_
  have hlog : coefficient < Nat.pow 2 (coefficient.log2 + 1) := Nat.lt_log2_self
  obtain ⟨k, hk, half⟩ : ∃ k, k = 1075 ∧ 2 * unitsPerOne = Nat.pow 2 k :=
    ⟨1075, rfl, by decide +kernel⟩
  rw [show Nat.pow 10 0 = 1 from rfl, Nat.mul_one]
  calc 2 * (coefficient * unitsPerOne)
      = coefficient * Nat.pow 2 k := by rw [Nat.mul_left_comm, half]
    _ < Nat.pow 2 (coefficient.log2 + 1) * Nat.pow 2 k :=
        Nat.mul_lt_mul_of_pos_right hlog (Nat.two_pow_pos k)
    _ = Nat.pow 2 (coefficient.log2 + 1 + k) := (Nat.pow_add ..).symm
    _ ≤ Nat.pow 2 (3 * (-exponent).toNat) := Nat.pow_le_pow_right (by decide) (by omega)
    _ ≤ Nat.pow 10 (-exponent).toNat := two_pow_le_ten_pow _

/-- Every numeral but zero denotes its value, rounded once. -/
theorem toDouble_eq_rounded {d : Decimal} (h : d.coefficient ≠ 0) :
    d.toDouble = .rounded d.negative (ratio d.coefficient d.exponent).1
      (ratio d.coefficient d.exponent).2 := by
  rw [toDouble, if_neg h]
  split
  · next large => exact (Double.rounded_eq_infinite (overflow_le_roundBits h large)).symm
  · split
    · next small =>
      exact (Double.rounded_eq_finite _ (roundBits_ratio_eq_zero small)).symm
    · rfl

/-- No numeral denotes NaN. -/
theorem isNaN_toDouble (d : Decimal) : d.toDouble.isNaN = false := by
  simp only [toDouble, Double.rounded]
  split
  · rfl
  · split
    · rfl
    · split
      · rfl
      · split <;> rfl

/-- Zeros at the end of a coefficient can be moved into the exponent. -/
theorem toDouble_zeros (negative : Bool) {coefficient : Nat} (h : coefficient ≠ 0) (zeros : Nat)
    (exponent : Int) :
    toDouble ⟨negative, Nat.pow 10 zeros * coefficient, exponent⟩ =
      toDouble ⟨negative, coefficient, exponent + zeros⟩ := by
  have hzeros : Nat.pow 10 zeros * coefficient ≠ 0 :=
    Nat.mul_ne_zero (Nat.ne_of_gt (Nat.pow_pos (by decide))) h
  rw [toDouble_eq_rounded hzeros, toDouble_eq_rounded h]
  refine Double.rounded_congr ?_
  have hexponent : exponent = exponent.toNat - (-exponent).toNat := by omega
  have hshifted :
      exponent + zeros = (exponent.toNat + zeros : Nat) - ((-exponent).toNat : Int) := by omega
  rw [roundBits_ratio _ _ _ hexponent, roundBits_ratio _ _ _ hshifted]
  have moved : Nat.pow 10 zeros * coefficient * Nat.pow 10 exponent.toNat =
      coefficient * Nat.pow 10 (exponent.toNat + zeros) := by
    simp only [Nat.pow_eq, Nat.pow_add]
    ac_rfl
  simp only [moved]

/-- A numeral with more zeros at the end of its coefficient. -/
def shift (zeros : Nat) (d : Decimal) : Decimal :=
  ⟨d.negative, Nat.pow 10 zeros * d.coefficient, d.exponent - zeros⟩

theorem shift_zero (d : Decimal) : d.shift 0 = d := by
  simp [shift]

theorem toDouble_shift (zeros : Nat) (d : Decimal) : (d.shift zeros).toDouble = d.toDouble := by
  by_cases h : d.coefficient = 0
  · simp [toDouble, shift, h]
  · rw [shift, toDouble_zeros d.negative h zeros, Int.sub_add_cancel]

end Decimal

end Bulletin
