import Bulletin.Proofs.Number.NearestDouble
import Bulletin.Value.Operators
import Mathlib.Data.Rat.Floor

/-!
# Division and remainder

The arithmetic underneath refuses some operands: it has no quotient for a zero divisor, and no
remainder for an infinite dividend or a zero divisor. The tests before it answer for these operands,
so both operations have a result for all values. The quotient is the double nearest to the exact
one, and the remainder of two finite doubles is a double itself, so it is not rounded at all. The
sign of a quotient is the product of the signs, and the sign of a remainder is that of the dividend,
also if the result is a zero.
-/

namespace Bulletin

/-- A remainder has no more significant bits than the operands. -/
theorem fits_mod {m n : Nat} (hm : Fits m) (hn : Fits n) : Fits (m % n) := by
  by_cases zero : n = 0
  · rwa [zero, Nat.mod_zero]
  by_cases less : m < n
  · rwa [Nat.mod_eq_of_lt less]
  · have smaller : m % n < n := Nat.mod_lt m (Nat.pos_of_ne_zero zero)
    -- The spacing at the divisor divides both operands, and that of the remainder divides it.
    have dividend : spacing n ∣ m :=
      Nat.dvd_trans (spacing_dvd_spacing (log2_mono (Nat.le_of_not_lt less))) hm
    exact Nat.dvd_trans (spacing_dvd_spacing (log2_mono (Nat.le_of_lt smaller)))
      ((Nat.dvd_mod_iff hn).mpr dividend)

/-- The whole part of a number, without its fraction. -/
def wholePart (q : ℚ) : ℤ := if q < 0 then ⌈q⌉ else ⌊q⌋

theorem wholePart_neg (q : ℚ) : wholePart (-q) = -wholePart q := by
  rcases lt_trichotomy q 0 with negative | rfl | positive
  · simp [wholePart, negative, negative.not_gt, Int.floor_neg]
  · simp [wholePart]
  · simp [wholePart, positive, positive.not_gt, Int.ceil_neg]

namespace Double

theorem wholePart_signed (a : Bool) (m n : Nat) :
    wholePart ((signed a m : ℚ) / n) = signed a (m / n) := by
  have unsigned : wholePart ((m : ℚ) / n) = (m / n : Nat) := by
    have nonneg : (0 : ℚ) ≤ m / n := div_nonneg (Nat.cast_nonneg m) (Nat.cast_nonneg n)
    rw [wholePart, if_neg (not_lt.mpr nonneg), Rat.floor_natCast_div_natCast, Int.natCast_ediv]
  cases a
  · exact unsigned
  · simp only [signed, if_true, Int.cast_neg, Int.cast_natCast, neg_div, wholePart_neg, unsigned]

theorem signed_div_signed (a b : Bool) (m n : Nat) :
    (signed a m : ℚ) / signed b n = signed (a != b) m / n := by
  cases a <;> cases b <;> simp [signed, neg_div, div_neg]

theorem signed_div_ne_zero_iff {b : Bool} {n : Nat} :
    (signed b n : ℚ) / unitsPerOne ≠ 0 ↔ n ≠ 0 := by
  rw [div_ne_zero_iff, and_iff_left unitsPerOne_ne_zero, Int.cast_ne_zero, ← Int.natAbs_ne_zero,
    natAbs_signed]

theorem lt_zero_iff_isNegative {x : Double} {p : ℚ} (h : x.quantity? = some (.rational p))
    (nonzero : p ≠ 0) : p < 0 ↔ x.isNegative := by
  obtain ⟨a, m, _, rfl, rfl⟩ := exists_of_quantity? h
  have positive : 0 < m := Nat.pos_of_ne_zero (signed_div_ne_zero_iff.mp nonzero)
  rw [div_lt_iff₀ (Nat.cast_pos.mpr unitsPerOne_pos), zero_mul, Int.cast_lt_zero]
  cases a <;> simp [signed, isNegative, positive]

theorem signed_mod (a b : Bool) (m n : Nat) :
    signed a (m % n) = signed a m - signed b n * signed (a != b) (m / n) := by
  have parts : (n : ℤ) * (m / n : Nat) + (m % n : Nat) = m := by
    rw [← Nat.cast_mul, ← Nat.cast_add, Nat.div_add_mod]
  cases a <;> cases b <;>
    simp only [signed, bne_self_eq_false, Bool.true_bne, Bool.false_bne,
      Bool.not_false, Bool.false_eq_true, if_true, if_false, Int.neg_mul, Int.mul_neg] <;>
    omega

variable {x y z : Double}

theorem eq_of_isNegative (same : x.eq y) (sign : x.isNegative = y.isNegative) : x = y := by
  cases x with
  | nan => cases same
  | infinite a =>
    cases y with
    | infinite b => exact congrArg infinite sign
    | _ => cases same
  | finite a m _ =>
    cases y with
    | finite b n _ =>
      obtain rfl : a = b := sign
      have magnitude := congrArg Int.natAbs (beq_iff_eq.mp same)
      rw [natAbs_signed, natAbs_signed] at magnitude
      subst magnitude
      rfl
    | _ => cases same

theorem isNaN_iff : x.isNaN ↔ x = .nan := by
  cases x <;> simp [isNaN]

theorem isZero_iff : x.isZero ↔ ∃ negative, x = .zero negative := by
  cases x <;> simp [isZero, zero]

theorem isInfinite_iff : x.isInfinite ↔ ∃ negative, x = .infinite negative := by
  cases x <;> simp [isInfinite]

theorem exists_of_isFinite (h : x.isFinite) :
    ∃ negative units bounded, x = .finite negative units bounded := by
  cases x with
  | finite negative units bounded => exact ⟨negative, units, bounded, rfl⟩
  | _ => cases h

/-! ### Division -/

/-- What the quotient of two doubles is. The sign of a result that is a number is the product of the
signs, which zeros have as well. -/
inductive IsQuotient (x y : Double) : Double → Prop where
  | nan (h : x.isNaN ∨ y.isNaN ∨ x.isZero ∧ y.isZero ∨ x.isInfinite ∧ y.isInfinite) :
    IsQuotient x y .nan
  | byZero (number : x.isNaN = false) (nonzero : x.isZero = false) (zero : y.isZero) :
    IsQuotient x y (.infinite (x.isNegative != y.isNegative))
  | ofInfinite (infinite : x.isInfinite) (finite : y.isFinite) :
    IsQuotient x y (.infinite (x.isNegative != y.isNegative))
  | byInfinite (finite : x.isFinite) (infinite : y.isInfinite) :
    IsQuotient x y (.zero (x.isNegative != y.isNegative))
  | rounded {z : Double} {p q : ℚ} (dividend : x.quantity? = some (.rational p))
      (divisor : y.quantity? = some (.rational q)) (nonzero : q ≠ 0) (nearest : z.IsNearest (p / q))
      (sign : z.isNegative = (x.isNegative != y.isNegative)) :
    IsQuotient x y z

/-- The quotient of the arithmetic underneath, which refuses a zero divisor. -/
def quotient? (x y : Double) : Option Double := if y.isZero then none else some (x.div y)

/-- Division with the tests that keep a zero divisor from being refused. -/
def guardedQuotient? (x y : Double) : Option Double :=
  if y.isZero then
    if x.isZero || x.isNaN then some .nan else some (.infinite (x.isNegative != y.isNegative))
  else quotient? x y

theorem guardedQuotient?_eq (x y : Double) : guardedQuotient? x y = some (x.div y) := by
  unfold guardedQuotient? quotient?
  split
  · next zero =>
    obtain ⟨b, rfl⟩ := isZero_iff.mp zero
    cases x with
    | finite a m _ =>
      by_cases hm : m = 0 <;> simp [div, Double.zero, isZero, isNaN, isNegative, hm]
    | _ => rfl
  · rfl

theorem isNearest_div {p q : ℚ} (dividend : x.quantity? = some (.rational p))
    (divisor : y.quantity? = some (.rational q)) (nonzero : q ≠ 0) :
    (x.div y).IsNearest (p / q) ∧ (x.div y).isNegative = (x.isNegative != y.isNegative) := by
  obtain ⟨a, m, _, rfl, rfl⟩ := exists_of_quantity? dividend
  obtain ⟨b, n, _, rfl, rfl⟩ := exists_of_quantity? divisor
  have nonzero := signed_div_ne_zero_iff.mp nonzero
  have nearest := isNearest_rounded (a != b) (m * unitsPerOne) (Nat.pos_of_ne_zero nonzero)
  rw [signed_mul, Int.cast_mul, Int.cast_natCast, mul_div_mul_right _ _ unitsPerOne_ne_zero,
    ← signed_div_signed, ← div_div_div_cancel_right₀ unitsPerOne_ne_zero] at nearest
  rw [div, if_neg nonzero]
  exact ⟨nearest, isNegative_rounded _ _ _⟩

theorem isQuotient_div (x y : Double) : IsQuotient x y (x.div y) := by
  cases x with
  | nan => exact .nan (.inl rfl)
  | infinite a =>
    cases y with
    | nan => exact .nan (.inr (.inl rfl))
    | infinite b => exact .nan (.inr (.inr (.inr ⟨rfl, rfl⟩)))
    | finite b n _ => exact .ofInfinite rfl rfl
  | finite a m hm =>
    cases y with
    | nan => exact .nan (.inr (.inl rfl))
    | infinite b => exact .byInfinite rfl rfl
    | finite b n hn =>
      by_cases zero : n = 0
      · rw [div, if_pos zero]
        split
        · next both => exact .nan (.inr (.inr (.inl ⟨beq_iff_eq.mpr both, beq_iff_eq.mpr zero⟩)))
        · next nonzero => exact .byZero rfl (beq_eq_false_iff_ne.mpr nonzero) (beq_iff_eq.mpr zero)
      · have nonzero : (signed b n : ℚ) / unitsPerOne ≠ 0 := signed_div_ne_zero_iff.mpr zero
        obtain ⟨nearest, sign⟩ := isNearest_div (x := .finite a m hm) (y := .finite b n hn)
          rfl rfl nonzero
        exact .rounded rfl rfl nonzero nearest sign

/-- Division gives the quotient and no other double. -/
theorem isQuotient_iff : IsQuotient x y z ↔ z = x.div y := by
  refine ⟨fun h => ?_, fun h => h ▸ isQuotient_div x y⟩
  cases h with
  | nan h =>
    rcases h with h | h | ⟨hx, hy⟩ | ⟨hx, hy⟩
    · obtain rfl := isNaN_iff.mp h
      rfl
    · obtain rfl := isNaN_iff.mp h
      cases x <;> rfl
    · obtain ⟨a, rfl⟩ := isZero_iff.mp hx
      obtain ⟨b, rfl⟩ := isZero_iff.mp hy
      rfl
    · obtain ⟨a, rfl⟩ := isInfinite_iff.mp hx
      obtain ⟨b, rfl⟩ := isInfinite_iff.mp hy
      rfl
  | byZero number nonzero zero =>
    obtain ⟨b, rfl⟩ := isZero_iff.mp zero
    cases x with
    | nan => cases number
    | infinite a => rfl
    | finite a m _ =>
      rw [Double.zero, div, if_pos rfl, if_neg (beq_eq_false_iff_ne.mp nonzero)]
      rfl
  | ofInfinite infinite finite =>
    obtain ⟨a, rfl⟩ := isInfinite_iff.mp infinite
    obtain ⟨b, n, _, rfl⟩ := exists_of_isFinite finite
    rfl
  | byInfinite finite infinite =>
    obtain ⟨a, m, _, rfl⟩ := exists_of_isFinite finite
    obtain ⟨b, rfl⟩ := isInfinite_iff.mp infinite
    rfl
  | rounded dividend divisor nonzero nearest sign =>
    obtain ⟨nearest', sign'⟩ := isNearest_div dividend divisor nonzero
    exact eq_of_isNegative (nearest.unique nearest') (sign.trans sign'.symm)

/-! ### Remainder -/

/-- What the remainder of two doubles is. That of finite doubles is exactly what is left of the
dividend, on its side of zero, and also a zero has its sign. -/
inductive IsRemainder (x y : Double) : Double → Prop where
  | nan (h : x.isNaN ∨ x.isInfinite ∨ y.isNaN ∨ y.isZero) : IsRemainder x y .nan
  | whole (finite : x.isFinite) (infinite : y.isInfinite) : IsRemainder x y x
  | exact {z : Double} {p q r : ℚ} (dividend : x.quantity? = some (.rational p))
      (divisor : y.quantity? = some (.rational q)) (nonzero : q ≠ 0)
      (value : z.quantity? = some (.rational r)) (left : r = p - q * wholePart (p / q))
      (smaller : |r| < |q|) (side : r = 0 ∨ (r < 0 ↔ p < 0)) (sign : z.isNegative = x.isNegative) :
    IsRemainder x y z

/-- The remainder of the arithmetic underneath, which refuses an infinite dividend and a zero
divisor unless the other operand is a NaN. -/
def remainder? (x y : Double) : Option Double :=
  if x.isNaN || y.isNaN then some .nan
  else if x.isInfinite || y.isZero then none
  else some (x.rem y)

/-- The remainder with the tests that keep operands from being refused. -/
def guardedRemainder? (x y : Double) : Option Double :=
  if y.isZero || x.isInfinite || x.isNaN then some .nan
  else if y.isNaN then some .nan
  else if y.isInfinite then some x
  else remainder? x y

theorem guardedRemainder?_eq (x y : Double) : guardedRemainder? x y = some (x.rem y) := by
  cases x with
  | finite a m _ =>
    cases y with
    | finite b n _ =>
      by_cases hn : n = 0 <;>
        simp [guardedRemainder?, remainder?, rem, isZero, isNaN, isInfinite, hn]
    | _ => rfl
  | nan => simp [guardedRemainder?, rem, isNaN]
  | infinite _ => cases y <;> simp [guardedRemainder?, rem, isInfinite]

theorem exists_rem {p q : ℚ} (dividend : x.quantity? = some (.rational p))
    (divisor : y.quantity? = some (.rational q)) (nonzero : q ≠ 0) :
    (x.rem y).quantity? = some (.rational (p - q * wholePart (p / q))) ∧
      (x.rem y).isNegative = x.isNegative ∧ |p - q * wholePart (p / q)| < |q| := by
  obtain ⟨a, m, hm, rfl, rfl⟩ := exists_of_quantity? dividend
  obtain ⟨b, n, hn, rfl, rfl⟩ := exists_of_quantity? divisor
  have nonzero := signed_div_ne_zero_iff.mp nonzero
  have bounded : Fits (m % n) ∧ m % n < overflowUnits :=
    ⟨fits_mod hm.1 hn.1, Nat.lt_of_le_of_lt (Nat.mod_le m n) hm.2⟩
  have value : (signed a m : ℚ) / unitsPerOne - signed b n / unitsPerOne *
      wholePart (signed a m / unitsPerOne / (signed b n / unitsPerOne)) =
        signed a (m % n) / unitsPerOne := by
    rw [div_div_div_cancel_right₀ unitsPerOne_ne_zero, signed_div_signed, wholePart_signed,
      signed_mod a b, Int.cast_sub, Int.cast_mul, sub_div, div_mul_eq_mul_div]
  rw [value, rem, if_neg nonzero, rounded_eq_finite bounded (roundBits_of_fits bounded.1)]
  refine ⟨rfl, rfl, ?_⟩
  rw [abs_signed_div, abs_signed_div, div_lt_div_iff_of_pos_right (abs_pos.mpr unitsPerOne_ne_zero),
    Nat.cast_lt]
  exact Nat.mod_lt m (Nat.pos_of_ne_zero nonzero)

theorem isRemainder_rem (x y : Double) : IsRemainder x y (x.rem y) := by
  cases x with
  | nan => exact .nan (.inl rfl)
  | infinite a => cases y <;> exact .nan (.inr (.inl rfl))
  | finite a m hm =>
    cases y with
    | nan => exact .nan (.inr (.inr (.inl rfl)))
    | infinite b => exact .whole rfl rfl
    | finite b n hn =>
      by_cases zero : n = 0
      · rw [rem, if_pos zero]
        exact .nan (.inr (.inr (.inr (beq_iff_eq.mpr zero))))
      · have nonzero : (signed b n : ℚ) / unitsPerOne ≠ 0 := signed_div_ne_zero_iff.mpr zero
        obtain ⟨value, sign, smaller⟩ := exists_rem (x := .finite a m hm) (y := .finite b n hn)
          rfl rfl nonzero
        refine .exact rfl rfl nonzero value rfl smaller ?_ sign
        refine or_iff_not_imp_left.mpr fun rest => ?_
        have dividend : (signed a m : ℚ) / unitsPerOne ≠ 0 := by
          intro none
          rw [none, zero_div, wholePart, if_neg (lt_irrefl 0), Int.floor_zero] at rest
          exact rest (by rw [Int.cast_zero, mul_zero, sub_zero])
        rw [lt_zero_iff_isNegative value rest, sign,
          lt_zero_iff_isNegative (x := .finite a m hm) rfl dividend]

/-- The remainder is given and no other double. -/
theorem isRemainder_iff : IsRemainder x y z ↔ z = x.rem y := by
  refine ⟨fun h => ?_, fun h => h ▸ isRemainder_rem x y⟩
  cases h with
  | nan h =>
    rcases h with h | h | h | h
    · obtain rfl := isNaN_iff.mp h
      rfl
    · obtain ⟨a, rfl⟩ := isInfinite_iff.mp h
      cases y <;> rfl
    · obtain rfl := isNaN_iff.mp h
      cases x <;> rfl
    · obtain ⟨b, rfl⟩ := isZero_iff.mp h
      cases x <;> rfl
  | whole finite infinite =>
    obtain ⟨a, m, _, rfl⟩ := exists_of_isFinite finite
    obtain ⟨b, rfl⟩ := isInfinite_iff.mp infinite
    rfl
  | exact dividend divisor nonzero value left smaller side sign =>
    obtain ⟨value', sign', -⟩ := exists_rem dividend divisor nonzero
    exact eq_of_isNegative (eq_of_quantity? value (left ▸ value')) (sign.trans sign'.symm)

end Double

/-- Division and remainder have a result for all values, and their tests keep every operand away
that the arithmetic underneath refuses. The result is the quotient or the remainder of the numbers
that the values count as, and nothing else is. -/
theorem Value.div_and_rem_total (l r : Value) :
    (∃ z, l.div r = .double z ∧ Double.guardedQuotient? l.toNumber r.toNumber = some z ∧
        ∀ z', Double.IsQuotient l.toNumber r.toNumber z' ↔ z' = z) ∧
      ∃ z, l.rem r = .double z ∧ Double.guardedRemainder? l.toNumber r.toNumber = some z ∧
        ∀ z', Double.IsRemainder l.toNumber r.toNumber z' ↔ z' = z :=
  ⟨⟨_, rfl, Double.guardedQuotient?_eq _ _, fun _ => Double.isQuotient_iff⟩,
    ⟨_, rfl, Double.guardedRemainder?_eq _ _, fun _ => Double.isRemainder_iff⟩⟩

end Bulletin
