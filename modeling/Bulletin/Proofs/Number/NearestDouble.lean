import Bulletin.Proofs.Number.Exact
import Bulletin.Proofs.Number.TiesToEven
import Mathlib.Algebra.Order.Group.Abs
import Mathlib.Tactic.Linarith

/-!
# The double nearest to a number

What it is for a double to be the nearest one to a rational number, said without rounding anything:
no finite double is nearer, a tie goes to a clear last bit, and large numbers go to the infinities.
There is one such double, up to the sign of a zero. Rounding gives it, for quotients of units, for
numerals and for integers.
-/

namespace Bulletin

/-- The least magnitude that is rounded to an infinity. -/
def overflowThreshold : ℚ := 2 ^ 1024 - 2 ^ 970

theorem overflowHalfway_eq : (overflowHalfway : ℚ) = overflowThreshold * unitsPerOne := by
  obtain ⟨a, b, c, halfway, le, one, threshold⟩ : ∃ a b c : ℕ,
      overflowHalfway = Nat.pow 2 (a + c) - Nat.pow 2 (b + c) ∧
        Nat.pow 2 (b + c) ≤ Nat.pow 2 (a + c) ∧ unitsPerOne = Nat.pow 2 c ∧
          overflowThreshold = 2 ^ a - 2 ^ b :=
    ⟨1024, 970, 1074, by decide +kernel, by decide +kernel, by decide +kernel, rfl⟩
  have power (k : ℕ) : ((Nat.pow 2 k : ℕ) : ℚ) = 2 ^ k := Nat.cast_pow 2 k
  rw [halfway, Nat.cast_sub le, one, threshold, power, power, power, pow_add, pow_add, sub_mul]

namespace Double

def HasClearLastBit : Double → Prop
  | .finite _ units _ => LastBitClear units
  | _ => False

/-- A double is the nearest one to a number: no finite double is nearer, and of two at the same
distance it is the one with a clear last bit. From the overflow threshold on, it is the infinity of
the number's sign. -/
inductive IsNearest (q : ℚ) : Double → Prop where
  | finite {x : Double} {p : ℚ} (value : x.quantity? = some (.rational p))
      (below : |q| < overflowThreshold)
      (nearest : ∀ (y : Double) (r : ℚ), y.quantity? = some (.rational r) → |q - p| ≤ |q - r|)
      (even : ∀ (y : Double) (r : ℚ), y.quantity? = some (.rational r) → r ≠ p → |q - r| = |q - p| →
        x.HasClearLastBit) : IsNearest q x
  | infinite {negative : Bool} (beyond : overflowThreshold ≤ |q|) (sign : negative ↔ q < 0) :
    IsNearest q (.infinite negative)

theorem exists_of_quantity? {x : Double} {p : ℚ} (h : x.quantity? = some (.rational p)) :
    ∃ negative units bounded, x = .finite negative units bounded ∧
      signed negative units / unitsPerOne = p := by
  cases x with
  | nan => cases h
  | infinite negative => cases h
  | finite negative units bounded =>
    exact ⟨negative, units, bounded, rfl, Quantity.rational.inj (Option.some.inj h)⟩

/-! ### Distances in units -/

/-- The distance from a quotient of units to a double. -/
theorem abs_sub_signed (a b : Bool) (n v : Nat) {d : Nat} (hd : 0 < d) :
    |(signed a n : ℚ) / (d * unitsPerOne) - signed b v / unitsPerOne| =
      ((signed a n - signed b v * d).natAbs : ℚ) / (d * unitsPerOne) := by
  have hd : (d : ℚ) ≠ 0 := Nat.cast_ne_zero.mpr (Nat.ne_of_gt hd)
  have positive : (0 : ℚ) ≤ d * unitsPerOne :=
    mul_nonneg (Nat.cast_nonneg _) (Nat.cast_nonneg _)
  rw [← mul_div_mul_right (signed b v : ℚ) _ hd, mul_comm (unitsPerOne : ℚ), ← sub_div, abs_div,
    abs_of_nonneg positive, Nat.cast_natAbs, Int.cast_abs]
  push_cast
  rfl

theorem natAbs_signed_sub (a b : Bool) (n v d : Nat) :
    (signed a n - signed b v * d).natAbs =
      if a = b then partsBetween n d v else n + v * d := by
  cases a <;> cases b <;>
    simp only [signed, partsBetween, Bool.false_eq_true, reduceCtorEq, if_true, if_false,
      Int.neg_mul, ← Nat.cast_mul] <;> omega

theorem abs_signed_div (a : Bool) (n : Nat) (d : ℚ) : |(signed a n : ℚ) / d| = n / |d| := by
  rw [abs_div, ← Int.cast_abs, ← Int.natCast_natAbs, natAbs_signed, Int.cast_natCast]

/-- What `roundBits_nearest` says, with signs. -/
theorem signed_roundBits_nearest (a b : Bool) (n : Nat) {d : Nat} (hd : 0 < d) {v : Nat}
    (h : Fits v) :
    signed b v = signed a (roundBits n d) ∨
      (signed a n - signed a (roundBits n d) * d).natAbs < (signed a n - signed b v * d).natAbs ∨
      (signed a n - signed a (roundBits n d) * d).natAbs = (signed a n - signed b v * d).natAbs ∧
        LastBitClear (roundBits n d) := by
  rw [natAbs_signed_sub, natAbs_signed_sub, if_pos rfl]
  have nearest := roundBits_nearest n hd h
  by_cases same : a = b
  · subst same
    rw [if_pos rfl]
    exact nearest.imp_left fun hv => congrArg (signed a) hv
  · rw [if_neg same]
    have apart (k : Nat) : partsBetween n d k ≤ n + k * d := by
      rw [partsBetween, ← Nat.cast_mul]
      omega
    rcases nearest with rfl | nearer | ⟨tie, clear⟩
    · by_cases zero : roundBits n d = 0
      · rw [zero]
        exact .inl (by cases a <;> cases b <;> rfl)
      · have hn : n ≠ 0 := by
          rintro rfl
          exact zero (roundBits_eq_zero (by omega))
        have hmul : 0 < roundBits n d * d := Nat.mul_pos (Nat.pos_of_ne_zero zero) hd
        refine .inr (.inl ?_)
        rw [partsBetween, ← Nat.cast_mul]
        omega
    · exact .inr (.inl (Nat.lt_of_lt_of_le nearer (apart v)))
    · rcases Nat.lt_or_eq_of_le (apart v) with lt | eq
      · exact .inr (.inl (tie ▸ lt))
      · exact .inr (.inr ⟨tie.trans eq, clear⟩)

/-- Rounding a quotient of units gives the nearest double to it. -/
theorem isNearest_rounded (negative : Bool) (n : Nat) {d : Nat} (hd : 0 < d) :
    IsNearest (signed negative n / (d * unitsPerOne)) (rounded negative n d) := by
  have positive : (0 : ℚ) < d * unitsPerOne :=
    mul_pos (Nat.cast_pos.mpr hd) (Nat.cast_pos.mpr unitsPerOne_pos)
  have below_iff : |(signed negative n : ℚ) / (d * unitsPerOne)| < overflowThreshold ↔
      roundBits n d < overflowUnits := by
    have threshold : overflowThreshold * (d * unitsPerOne) = (overflowHalfway * d : Nat) := by
      rw [Nat.cast_mul, overflowHalfway_eq, mul_assoc, mul_comm (d : ℚ)]
    rw [roundBits_lt_overflowUnits_iff n hd, abs_signed_div, abs_of_pos positive,
      div_lt_iff₀ positive, threshold, Nat.cast_lt]
  by_cases small : roundBits n d < overflowUnits
  · rw [rounded, dif_pos small]
    refine .finite rfl (below_iff.mpr small) ?_ ?_
    · intro y r hy
      obtain ⟨b, v, bounded, rfl, rfl⟩ := exists_of_quantity? hy
      rw [abs_sub_signed _ _ _ _ hd, abs_sub_signed _ _ _ _ hd,
        div_le_div_iff_of_pos_right positive, Nat.cast_le]
      rcases signed_roundBits_nearest negative b n hd bounded.1 with same | nearer | ⟨tie, -⟩
      · rw [same]
      · exact Nat.le_of_lt nearer
      · exact Nat.le_of_eq tie
    · intro y r hy hne tie
      obtain ⟨b, v, bounded, rfl, rfl⟩ := exists_of_quantity? hy
      rw [abs_sub_signed _ _ _ _ hd, abs_sub_signed _ _ _ _ hd,
        div_left_inj' positive.ne', Nat.cast_inj] at tie
      rcases signed_roundBits_nearest negative b n hd bounded.1 with same | nearer | ⟨-, clear⟩
      · exact absurd (congrArg (fun k : ℤ => (k : ℚ) / unitsPerOne) same) hne
      · omega
      · exact clear
  · have large := not_lt.mp (mt below_iff.mp small)
    have nonzero : n ≠ 0 := by
      rintro rfl
      exact small (by rw [roundBits_eq_zero (by omega)]; exact overflowUnits_pos)
    rw [rounded, dif_neg small]
    refine .infinite large ?_
    rw [div_lt_iff₀ positive, zero_mul, Int.cast_lt_zero]
    cases negative <;> simp [signed, Nat.pos_of_ne_zero nonzero]

theorem isNegative_rounded (negative : Bool) (n d : Nat) :
    (rounded negative n d).isNegative = negative := by
  unfold rounded
  split <;> rfl

/-- An integer counts as the double nearest to it. -/
theorem isNearest_ofInt (n : ℤ) : (ofInt n).IsNearest n := by
  have nearest := isNearest_rounded (n < 0) (n.natAbs * unitsPerOne) Nat.one_pos
  rw [signed_mul, signed_natAbs, Int.cast_mul, Int.cast_natCast, Nat.cast_one, one_mul,
    mul_div_cancel_right₀ _ unitsPerOne_ne_zero] at nearest
  exact nearest

/-- A double is the nearest one to the number that it is. -/
theorem isNearest_of_quantity? {x : Double} {p : ℚ} (h : x.quantity? = some (.rational p)) :
    x.IsNearest p := by
  obtain ⟨negative, units, bounded, rfl, rfl⟩ := exists_of_quantity? h
  have nearest := isNearest_rounded negative units Nat.one_pos
  rw [rounded_eq_finite bounded (roundBits_of_fits bounded.1), Nat.cast_one, one_mul] at nearest
  exact nearest

theorem IsNearest.eq_infinite_iff {q : ℚ} {x : Double} (h : x.IsNearest q) (nonneg : 0 ≤ q) :
    x = .infinite false ↔ overflowThreshold ≤ q := by
  rw [← abs_of_nonneg nonneg]
  cases h with
  | finite value below =>
    refine iff_of_false ?_ (not_le.mpr below)
    rintro rfl
    cases value
  | @infinite negative beyond sign =>
    obtain rfl : negative = false := Bool.eq_false_iff.mpr fun h => not_lt.mpr nonneg (sign.mp h)
    exact iff_of_true rfl beyond

/-! ### The nearest double is the only one -/

theorem IsNearest.of_eq {q : ℚ} {x y : Double} (h : IsNearest q x) (same : x.eq y) :
    IsNearest q y := by
  obtain ⟨p, hx, hy⟩ := eq_iff.mp same
  cases h with
  | infinite beyond sign =>
    cases Option.some.inj hx
    cases y with
    | nan => cases hy
    | infinite negative =>
      cases Option.some.inj hy
      exact .infinite beyond sign
    | finite _ _ _ => cases Option.some.inj hy
  | finite value below nearest even =>
    cases Option.some.inj (value.symm.trans hx)
    refine .finite hy below nearest fun z r hz hne tie => ?_
    have clear := even z r hz hne tie
    obtain ⟨a, m, _, rfl, hm⟩ := exists_of_quantity? hx
    obtain ⟨b, n, _, rfl, hn⟩ := exists_of_quantity? hy
    have magnitude : m = n := by
      rw [← natAbs_signed a m, beq_iff_eq.mp same, natAbs_signed]
    rw [HasClearLastBit, ← magnitude]
    exact clear

theorem signed_of_nonneg {b : Bool} {n : Nat} (h : 0 ≤ signed b n) : signed b n = n := by
  have := natAbs_signed b n
  omega

theorem signed_of_nonpos {b : Bool} {n : Nat} (h : signed b n ≤ 0) : signed b n = -n := by
  have := natAbs_signed b n
  omega

/-- Between two doubles with clear last bits there is a third one. -/
theorem exists_between {a b : Bool} {m n : Nat} (hm : Fits m ∧ m < overflowUnits)
    (hn : Fits n ∧ n < overflowUnits) (clearM : LastBitClear m) (clearN : LastBitClear n)
    (h : signed a m < signed b n) :
    ∃ c v, (Fits v ∧ v < overflowUnits) ∧ signed a m < signed c v ∧ signed c v < signed b n := by
  by_cases hpos : 0 ≤ signed a m
  · have first := signed_of_nonneg hpos
    have last := signed_of_nonneg (Int.le_of_lt (Int.lt_of_le_of_lt hpos h))
    have lt := add_spacing_lt hm.1 hn.1 clearM clearN (by omega)
    have positive := spacing_pos m
    refine ⟨false, m + spacing m, ⟨fits_add_spacing hm.1, by omega⟩, ?_⟩
    rw [first, last, signed, if_neg Bool.false_ne_true]
    omega
  · by_cases hneg : signed b n ≤ 0
    · have first := signed_of_nonpos (Int.le_of_not_le hpos)
      have last := signed_of_nonpos hneg
      have lt := add_spacing_lt hn.1 hm.1 clearN clearM (by omega)
      have positive := spacing_pos n
      refine ⟨true, n + spacing n, ⟨fits_add_spacing hn.1, by omega⟩, ?_⟩
      rw [first, last, signed, if_pos rfl]
      omega
    · refine ⟨false, 0, ⟨fits_zero, overflowUnits_pos⟩, ?_⟩
      rw [show signed false 0 = 0 from rfl]
      omega

/-- A number in the middle between two doubles with clear last bits has a nearer double. -/
theorem not_lt_of_tie {q p p' : ℚ} {x y : Double} (hx : x.quantity? = some (.rational p))
    (hy : y.quantity? = some (.rational p')) (clearX : x.HasClearLastBit)
    (clearY : y.HasClearLastBit) (tie : |q - p| = |q - p'|)
    (nearest : ∀ (z : Double) (r : ℚ), z.quantity? = some (.rational r) → |q - p| ≤ |q - r|) :
    ¬ p < p' := by
  intro lt
  obtain ⟨a, m, hm, rfl, rfl⟩ := exists_of_quantity? hx
  obtain ⟨b, n, hn, rfl, rfl⟩ := exists_of_quantity? hy
  have positive : (0 : ℚ) < unitsPerOne := Nat.cast_pos.mpr unitsPerOne_pos
  have lt_iff {i j : ℤ} : (i : ℚ) / unitsPerOne < j / unitsPerOne ↔ i < j := by
    rw [div_lt_div_iff_of_pos_right positive, Int.cast_lt]
  obtain ⟨c, v, hv, left, right⟩ := exists_between hm hn clearX clearY (lt_iff.mp lt)
  have left := lt_iff.mpr left
  have right := lt_iff.mpr right
  have middle := nearest (.finite c v hv) _ rfl
  rcases abs_eq_abs.mp tie with same | opposite
  · linarith
  · have nearer : |q - (signed c v : ℚ) / unitsPerOne| < q - (signed a m : ℚ) / unitsPerOne := by
      rw [abs_lt]
      constructor <;> linarith
    exact absurd middle (not_le.mpr (nearer.trans_le (le_abs_self _)))

/-- Only one double is the nearest one to a number, up to the sign of a zero. -/
theorem IsNearest.unique {q : ℚ} {x y : Double} (hx : IsNearest q x) (hy : IsNearest q y) :
    x.eq y := by
  cases hx with
  | infinite beyond sign =>
    cases hy with
    | infinite _ sign' => exact beq_iff_eq.mpr (Bool.eq_iff_iff.mpr (sign.trans sign'.symm))
    | finite _ below => exact absurd beyond (not_le.mpr below)
  | @finite _ p valueX below nearestX evenX =>
    cases hy with
    | infinite beyond => exact absurd beyond (not_le.mpr below)
    | @finite _ p' valueY _ nearestY evenY =>
      have tie : |q - p| = |q - p'| :=
        le_antisymm (nearestX y p' valueY) (nearestY x p valueX)
      by_cases same : p = p'
      · exact eq_of_quantity? valueX (same ▸ valueY)
      · have clearX := evenX y p' valueY (Ne.symm same) tie.symm
        have clearY := evenY x p valueX same tie
        rcases lt_or_gt_of_ne same with lt | lt
        · exact absurd lt (not_lt_of_tie valueX valueY clearX clearY tie nearestX)
        · exact absurd lt (not_lt_of_tie valueY valueX clearY clearX tie.symm nearestY)

end Double

/-! ### Numbers that are doubles -/

def IsDouble (q : ℚ) : Prop := ∃ x : Double, x.quantity? = some (.rational q)

theorem isDouble_int {n : ℤ} (h : |n| ≤ 2 ^ 53) : IsDouble n := by
  have magnitude : n.natAbs ≤ Nat.pow 2 53 := by
    have := Int.abs_eq_natAbs n
    rw [Nat.pow_eq]
    omega
  have fits : Fits (n.natAbs * unitsPerOne) := by
    obtain ⟨k, one⟩ : ∃ k, unitsPerOne = Nat.pow 2 k := ⟨1074, by decide +kernel⟩
    rw [one]
    exact fits_of_le magnitude
  have small : n.natAbs * unitsPerOne < overflowUnits :=
    Nat.lt_of_le_of_lt (Nat.mul_le_mul_right _ magnitude) (by decide +kernel)
  refine ⟨.finite (n < 0) _ ⟨fits, small⟩, Double.eqInt_iff.mp ?_⟩
  rw [Double.eqInt, Double.signed_mul, Double.signed_natAbs, beq_self_eq_true]

/-! ### Numerals -/

namespace Decimal

def value (d : Decimal) : ℚ := Double.signed d.negative d.coefficient * 10 ^ d.exponent

theorem value_integer (negative : Bool) (coefficient : Nat) :
    value ⟨negative, coefficient, 0⟩ = Double.signed negative coefficient := by
  rw [value, zpow_zero, mul_one]

theorem ratio_eq (coefficient : Nat) (exponent : Int) :
    ((ratio coefficient exponent).1 : ℚ) / ((ratio coefficient exponent).2 * unitsPerOne) =
      coefficient * 10 ^ exponent := by
  unfold ratio
  split
  · next up =>
    obtain ⟨k, rfl⟩ := Int.eq_ofNat_of_zero_le up
    simp only [Nat.pow_eq, Nat.cast_mul, Nat.cast_pow, Nat.cast_ofNat, Nat.cast_one, one_mul,
      Int.toNat_natCast, zpow_natCast]
    exact mul_div_cancel_right₀ _ unitsPerOne_ne_zero
  · next down =>
    obtain ⟨k, rfl⟩ : ∃ k : ℕ, exponent = -k := ⟨(-exponent).toNat, by omega⟩
    simp only [Nat.pow_eq, Nat.cast_mul, Nat.cast_pow, Nat.cast_ofNat, Int.neg_neg,
      Int.toNat_natCast, zpow_neg, zpow_natCast]
    exact mul_div_mul_right _ _ unitsPerOne_ne_zero

/-- A numeral stands for the double nearest to the number that it denotes. -/
theorem isNearest_toDouble (d : Decimal) : d.toDouble.IsNearest d.value := by
  by_cases zero : d.coefficient = 0
  · have nearest := Double.isNearest_rounded d.negative 0 Nat.one_pos
    have none : Double.signed d.negative 0 = 0 := by cases d.negative <;> rfl
    have rounds : Double.rounded d.negative 0 1 = .zero d.negative :=
      Double.rounded_eq_finite _ (roundBits_eq_zero (by decide))
    rw [none, Int.cast_zero, zero_div, rounds] at nearest
    rw [toDouble, if_pos zero, value, zero, none, Int.cast_zero, zero_mul]
    exact nearest
  · have nearest := Double.isNearest_rounded d.negative (ratio d.coefficient d.exponent).1
      (ratio_pos d.coefficient d.exponent)
    have same : d.value = Double.signed d.negative (ratio d.coefficient d.exponent).1 /
        ((ratio d.coefficient d.exponent).2 * unitsPerOne) := by
      have magnitude := ratio_eq d.coefficient d.exponent
      rw [value]
      cases d.negative
      · exact magnitude.symm
      · simp only [Double.signed, if_true, Int.cast_neg, Int.cast_natCast, neg_mul, neg_div,
          magnitude]
    rw [toDouble_eq_rounded zero, same]
    exact nearest

end Decimal

end Bulletin
