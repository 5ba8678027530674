import Bulletin.Proofs.Number.NearestDouble
import Bulletin.Proofs.Number.PlainText
import Mathlib.Tactic.FieldSimp

/-!
# Written numbers

A number may be written with a point, with zeros or with an exponent, and its texts are compared by
what they denote. All layouts of a double denote the number that its fewest digits denote. The
double nearest to an integer is an integer itself; below `10 ^ 21` it is written in all its digits.
-/

namespace Bulletin

theorem Decimal.value_shift (zeros : Nat) (d : Decimal) : (d.shift zeros).value = d.value := by
  have ten : (10 : ℚ) ≠ 0 := by decide
  have power : (10 : ℚ) ^ zeros ≠ 0 := pow_ne_zero zeros ten
  have coefficient : (Double.signed d.negative (Nat.pow 10 zeros * d.coefficient) : ℚ) =
      Double.signed d.negative d.coefficient * 10 ^ zeros := by
    rw [Nat.mul_comm, Double.signed_mul, Int.cast_mul, Int.cast_natCast, Nat.pow_eq, Nat.cast_pow,
      Nat.cast_ofNat]
  rw [value, value, shift, coefficient, zpow_sub₀ ten, zpow_natCast]
  field_simp

/-- A number whose digits start above a power of ten is not below it. -/
theorem Digits.IsNormal.power_le_abs_value {d : Digits} (h : d.IsNormal) (negative : Bool) {p : ℤ}
    (hp : p < d.point) : (10 : ℚ) ^ p ≤ |(d.decimal negative).value| := by
  have ten : (1 : ℚ) ≤ 10 := by decide
  have positive : (0 : ℚ) < 10 := by decide
  have length := List.length_pos_iff.mpr h.ne_nil
  have magnitude : |(d.decimal negative).value| =
      digitsValue d.digits * 10 ^ (d.point - d.digits.length) := by
    rw [Decimal.value, abs_mul, abs_of_pos (zpow_pos positive _), ← Int.cast_abs,
      ← Int.natCast_natAbs, Double.natAbs_signed, Int.cast_natCast]
    rfl
  rw [magnitude]
  calc (10 : ℚ) ^ p
      ≤ 10 ^ (((d.digits.length - 1 : Nat) : ℤ) + (d.point - d.digits.length)) :=
        zpow_le_zpow_right₀ ten (by omega)
    _ = (Nat.pow 10 (d.digits.length - 1) : Nat) * 10 ^ (d.point - d.digits.length) := by
        rw [zpow_add₀ positive.ne', zpow_natCast, Nat.pow_eq, Nat.cast_pow, Nat.cast_ofNat]
    _ ≤ digitsValue d.digits * 10 ^ (d.point - d.digits.length) :=
        mul_le_mul_of_nonneg_right (Nat.cast_le.mpr h.pow_le_digitsValue) (zpow_pos positive _).le

def WrittenNumeral.value (n : WrittenNumeral) : ℚ := n.decimal.value

theorem WrittenNumeral.value_ofInt (n : ℤ) : (ofInt n).value = n := by
  rw [value, decimal_ofInt, Decimal.value_integer, Double.signed_natAbs]

def SameNumber (s t : List Char) : Prop :=
  ∃ m n : WrittenNumeral, m.text = s ∧ n.text = t ∧ m.value = n.value

theorem sameNumber_iff (m n : WrittenNumeral) : SameNumber m.text n.text ↔ m.value = n.value := by
  have text_value {m m' : WrittenNumeral} (h : m'.text = m.text) : m'.value = m.value := by
    have read := m'.read?_text
    rw [h, m.read?_text] at read
    rw [WrittenNumeral.value, WrittenNumeral.value, Option.some.inj read]
  constructor
  · rintro ⟨m', n', hm, hn, same⟩
    rw [← text_value hm, ← text_value hn, same]
  · intro same
    exact ⟨m, n, rfl, rfl, same⟩

/-! ### Doubles -/

namespace Double

/-- Whatever the layout, the digits of a double are written as one number. -/
theorem exists_numeral (layout : Layout) (negative : Bool) {units : Nat}
    (bounded : Fits units ∧ units < overflowUnits) (h : units ≠ 0) :
    ∃ n : WrittenNumeral,
      n.text = signText negative ++ layout.write (Digits.shortest units) ∧
        n.value = ((Digits.shortest units).decimal negative).value := by
  obtain ⟨normal, -⟩ := Digits.toDouble_shortest negative bounded h
  obtain ⟨n, text, ⟨zeros, decimal⟩, -⟩ := layout.exists_write negative normal
  exact ⟨n, text, by rw [WrittenNumeral.value, decimal, Decimal.value_shift]⟩

/-- The double nearest to an integer is an integer. -/
theorem unitsPerOne_dvd_roundBits (m : Nat) : unitsPerOne ∣ roundBits (m * unitsPerOne) 1 := by
  obtain ⟨k, one⟩ : ∃ k, unitsPerOne = Nat.pow 2 k := ⟨1074, by decide +kernel⟩
  rw [one]
  generalize hu : m * Nat.pow 2 k = u
  have whole : Nat.pow 2 k ∣ u := hu ▸ Nat.dvd_mul_left _ m
  by_cases le : u.log2 - 52 ≤ k
  · rw [roundBits_of_fits (Nat.dvd_trans (Nat.pow_dvd_pow 2 le) whole)]
    exact whole
  · rw [roundBits, Nat.div_one]
    exact Nat.dvd_mul_left_of_dvd (Nat.pow_dvd_pow 2 (by omega)) _

theorem le_abs_value_shortest (negative : Bool) {units : Nat}
    (bounded : Fits units ∧ units < overflowUnits) (h : Nat.pow 10 21 * unitsPerOne ≤ units) :
    (10 : ℚ) ^ 21 ≤ |((Digits.shortest units).decimal negative).value| := by
  have nonzero : units ≠ 0 := by
    have positive : 0 < Nat.pow 10 21 * unitsPerOne := by decide +kernel
    exact Nat.ne_of_gt (Nat.lt_of_lt_of_le positive h)
  have above := (Digits.lt_point_shortest_iff bounded nonzero
    (show (Digits.shortest (Decimal.power 21).units).point = 21 + 1 by decide +kernel)).mpr
      (sextillion_units ▸ h)
  exact (Digits.toDouble_shortest negative bounded nonzero).1.power_le_abs_value negative above

section Integers

variable {n : ℤ} {negative : Bool} {units : Nat} {bounded : Fits units ∧ units < overflowUnits}

theorem units_of_ofInt (h : ofInt n = .finite negative units bounded) :
    units = roundBits (n.natAbs * unitsPerOne) 1 := by
  rw [ofInt, rounded] at h
  split at h
  · exact (finite.inj h).2.symm
  · cases h

theorem toSmallInt?_eq_none_iff (h : ofInt n = .finite negative units bounded) :
    (ofInt n).toSmallInt? = none ↔ Nat.pow 10 21 * unitsPerOne ≤ units := by
  have whole : units % unitsPerOne = 0 := by
    rw [units_of_ofInt h]
    exact Nat.mod_eq_zero_of_dvd (unitsPerOne_dvd_roundBits _)
  rw [h, toSmallInt?, belowLarge, toInt?, if_pos whole]
  simp

theorem isDouble_int_iff : IsDouble n ↔ (ofInt n).eqInt n := by
  rw [eqInt_iff]
  refine ⟨?_, fun h => ⟨_, h⟩⟩
  rintro ⟨x, hx⟩
  obtain ⟨q, same, isX⟩ := eq_iff.mp (ofInt_eq_of_eqInt (eqInt_iff.mpr hx))
  rw [same, ← isX, hx]

end Integers

end Double

end Bulletin
