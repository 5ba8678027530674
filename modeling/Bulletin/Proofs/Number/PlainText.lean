import Bulletin.Proofs.Number.Exact
import Bulletin.Proofs.Number.Plain

/-!
# Numbers in rendered text

The text of a number in rendered text is read back as that number. It has an exponent below
`10 ^ -6` and from `10 ^ 21` on, and is a plain numeral in between. The bounds are the doubles
nearest to these powers of ten: rounding keeps the order of numerals, so digits that start below
such a power are those of a double below its nearest one, unless that double itself is written with
digits that start below the power.
-/

namespace Bulletin

/-! ### Powers of ten among the doubles -/

namespace Decimal

def units (d : Decimal) : Nat :=
  roundBits (ratio d.coefficient d.exponent).1 (ratio d.coefficient d.exponent).2

def power (exponent : Int) : Decimal := ⟨false, 1, exponent⟩

theorem toDouble_eq_finite {d : Decimal} (h : d.coefficient ≠ 0)
    (bounded : Fits d.units ∧ d.units < overflowUnits) :
    d.toDouble = .finite d.negative d.units bounded := by
  rw [toDouble_eq_rounded h]
  exact Double.rounded_eq_finite bounded rfl

theorem units_eq {d : Decimal} {negative : Bool} {units : Nat}
    {bounded : Fits units ∧ units < overflowUnits} (hd : d.coefficient ≠ 0)
    (h : d.toDouble = .finite negative units bounded) : d.units = units := by
  rw [toDouble_eq_rounded hd, Double.rounded] at h
  split at h
  · exact (Double.finite.inj h).2
  · cases h

end Decimal

namespace Digits

open Decimal

variable {p : Int} {d : Digits}

/-- Digits that start at a power of ten or above are not rounded below it. -/
theorem IsNormal.power_le (h : d.IsNormal) (negative : Bool) (hp : p < d.point) :
    (power p).units ≤ (d.decimal negative).units := by
  have hlength := List.length_pos_iff.mpr h.ne_nil
  refine roundBits_ratio_mono fun up up' hup => ?_
  have hup : (up : Int) - p = up' - (d.point - d.digits.length) := hup
  calc 1 * Nat.pow 10 up
      ≤ Nat.pow 10 (d.digits.length - 1 + up') := by
        rw [Nat.one_mul]
        exact Nat.pow_le_pow_right (by decide) (by omega)
    _ = Nat.pow 10 (d.digits.length - 1) * Nat.pow 10 up' := Nat.pow_add ..
    _ ≤ digitsValue d.digits * Nat.pow 10 up' := Nat.mul_le_mul_right _ h.pow_le_digitsValue

/-- Digits that start below a power of ten are not rounded above it. -/
theorem IsNormal.le_power (h : d.IsNormal) (negative : Bool) (hp : d.point ≤ p) :
    (d.decimal negative).units ≤ (power p).units := by
  refine roundBits_ratio_mono fun up up' hup => ?_
  have hup : (up : Int) - (d.point - d.digits.length) = up' - p := hup
  calc digitsValue d.digits * Nat.pow 10 up
      ≤ Nat.pow 10 d.digits.length * Nat.pow 10 up :=
        Nat.mul_le_mul_right _ (Nat.le_of_lt (digitsValue_lt h.isDigit))
    _ = Nat.pow 10 (d.digits.length + up) := (Nat.pow_add ..).symm
    _ ≤ 1 * Nat.pow 10 up' := by
        rw [Nat.one_mul]
        exact Nat.pow_le_pow_right (by decide) (by omega)

/-- Where the first digit of a magnitude stands, seen from a power of ten that is written with the
digit one in its own place. -/
theorem lt_point_shortest_iff {units : Nat} (bounded : Fits units ∧ units < overflowUnits)
    (h : units ≠ 0) (own : (shortest (power p).units).point = p + 1) :
    p < (shortest units).point ↔ (power p).units ≤ units := by
  obtain ⟨normal, hdouble⟩ := toDouble_shortest false bounded h
  have hunits : ((shortest units).decimal false).units = units :=
    units_eq normal.digitsValue_ne_zero hdouble
  constructor
  · intro above
    exact hunits ▸ normal.power_le false above
  · intro le
    refine Int.not_le.mp fun below => ?_
    -- The digits would be those of the power itself, and they start higher.
    have same : (power p).units = units :=
      Nat.le_antisymm le (hunits ▸ normal.le_power false below)
    rw [same] at own
    omega

end Digits

/-- An exponent that is not filled up has no zero in front. -/
theorem WrittenExponent.head?_ofInt {n : Int} (h : n ≠ 0) :
    (ofInt 1 n).digits.head? ≠ some '0' := by
  have full : Layout.padZeros 1 (decimalDigits n.natAbs) = decimalDigits n.natAbs := by
    have hlength := List.length_pos_iff.mpr (decimalDigits_ne_nil n.natAbs)
    rw [Layout.padZeros, Nat.sub_eq_zero_of_le hlength, List.replicate_zero, List.nil_append]
  show (Layout.padZeros 1 (decimalDigits n.natAbs)).head? ≠ some '0'
  rw [full]
  exact head?_decimalDigits (Int.natAbs_ne_zero.mpr h)

namespace Double

def abs : Double → Double
  | .nan => .nan
  | .infinite _ => .infinite false
  | .finite _ units bounded => .finite false units bounded

def millionth : Double := (Decimal.power (-6)).toDouble

def sextillion : Double := (Decimal.power 21).toDouble

section Bounds

variable {negative : Bool} {units : Nat} (bounded : Fits units ∧ units < overflowUnits)
variable {p : Int} (finite_power : (Decimal.power p).units < overflowUnits)
include finite_power

theorem abs_lt_power_iff : (finite negative units bounded).abs.lt (Decimal.power p).toDouble ↔
    units < (Decimal.power p).units := by
  rw [Decimal.toDouble_eq_finite Nat.one_ne_zero ⟨fits_roundBits .., finite_power⟩]
  exact decide_eq_true_iff.trans Int.ofNat_lt

theorem power_le_abs_iff : (Decimal.power p).toDouble.le (finite negative units bounded).abs ↔
    (Decimal.power p).units ≤ units := by
  rw [Decimal.toDouble_eq_finite Nat.one_ne_zero ⟨fits_roundBits .., finite_power⟩, le,
    Bool.or_eq_true, Nat.le_iff_lt_or_eq]
  exact or_congr (decide_eq_true_iff.trans Int.ofNat_lt) (beq_iff_eq.trans Int.ofNat_inj)

end Bounds

/-- The magnitude is neither below a millionth nor a sextillion or above. -/
def IsModerate (x : Double) : Prop := ¬ (x.abs.lt millionth ∨ sextillion.le x.abs)

theorem sextillion_units : (Decimal.power 21).units = Nat.pow 10 21 * unitsPerOne := by
  decide +kernel

theorem isModerate_iff {negative : Bool} {units : Nat}
    (bounded : Fits units ∧ units < overflowUnits) :
    (finite negative units bounded).IsModerate ↔
      (Decimal.power (-6)).units ≤ units ∧ units < (Decimal.power 21).units := by
  rw [IsModerate, millionth, sextillion, abs_lt_power_iff bounded (by decide +kernel),
    power_le_abs_iff bounded (by decide +kernel)]
  omega

/-! ### The text as a numeral -/

theorem plainText_of_toSmallInt? {x : Double} {n : ℤ} (h : x.toSmallInt? = some n) :
    x.plainText = intText n := by
  cases x with
  | finite negative units bounded =>
    unfold plainText
    simp only [h]
  | _ => cases h

theorem plainText_of_toSmallInt?_eq_none {negative : Bool} {units : Nat}
    {bounded : Fits units ∧ units < overflowUnits}
    (h : (finite negative units bounded).toSmallInt? = none) :
    units ≠ 0 ∧ (finite negative units bounded).plainText =
      signText negative ++ Layout.plain.write (Digits.shortest units) := by
  constructor
  · rintro rfl
    rw [toSmallInt?_zero] at h
    cases h
  · unfold plainText
    simp only [h]

theorem toDouble_natAbs (n : Int) : Decimal.toDouble ⟨n < 0, n.natAbs, 0⟩ = ofInt n := by
  by_cases h : n = 0
  · subst h
    decide +kernel
  · have whole : roundBits (Decimal.ratio n.natAbs 0).1 (Decimal.ratio n.natAbs 0).2 =
        roundBits (n.natAbs * unitsPerOne) 1 := by
      rw [Decimal.roundBits_ratio n.natAbs 0 0 (by rfl), show Nat.pow 10 0 = 1 from rfl,
        Nat.mul_one]
    exact (Decimal.toDouble_eq_rounded (Int.natAbs_ne_zero.mpr h)).trans (rounded_congr whole)

/-- A small whole number is written digit by digit, and it is moderate unless it is zero. -/
theorem of_toSmallInt? {x : Double} {n : Int} (h : x.toSmallInt? = some n) :
    x.eqInt n ∧ (x.isZero = false → x.IsModerate) := by
  obtain ⟨small, h⟩ := Option.ite_none_right_eq_some.mp h
  cases x with
  | nan => cases h
  | infinite negative => cases h
  | finite negative units bounded =>
    obtain ⟨whole, h⟩ := Option.ite_none_right_eq_some.mp h
    have exact : units = units / unitsPerOne * unitsPerOne :=
      (Nat.div_mul_cancel (Nat.dvd_of_mod_eq_zero whole)).symm
    refine ⟨?_, fun nonzero => (isModerate_iff bounded).mpr ⟨?_, ?_⟩⟩
    · rw [eqInt, ← Option.some.inj h, ← signed_mul, ← exact]
      exact beq_self_eq_true _
    · have below : (Decimal.power (-6)).units ≤ unitsPerOne := by decide +kernel
      have positive : 0 < units := Nat.pos_of_ne_zero (by simpa [isZero] using nonzero)
      exact Nat.le_trans below (Nat.le_of_dvd positive (Nat.dvd_of_mod_eq_zero whole))
    · rw [belowLarge, decide_eq_true_iff] at small
      rwa [sextillion_units]

/-- A magnitude is moderate if its first digit stands where no exponent is written. -/
theorem isPositional_iff {negative : Bool} {units : Nat}
    (bounded : Fits units ∧ units < overflowUnits) (h : units ≠ 0) :
    Layout.plain.IsPositional ((Digits.shortest units).point - 1) ↔
      (finite negative units bounded).IsModerate := by
  have low := Digits.lt_point_shortest_iff bounded h
    (show (Digits.shortest (Decimal.power (-6)).units).point = -6 + 1 by decide +kernel)
  have high := Digits.lt_point_shortest_iff bounded h
    (show (Digits.shortest (Decimal.power 21).units).point = 21 + 1 by decide +kernel)
  rw [isModerate_iff, ← low, ← Nat.not_le, ← high, Layout.IsPositional]
  show -6 ≤ _ ∧ _ < 21 ↔ _
  omega

/-- The text of a finite double is a numeral of that double. It has an exponent unless the double
is a zero or moderate, and no exponent starts with a zero. -/
theorem exists_plainText {x : Double} (h : x.isFinite) :
    ∃ n : WrittenNumeral, n.text = x.plainText ∧ n.decimal.toDouble.eq x ∧
      (n.exponent = none ↔ x.isZero ∨ x.IsModerate) ∧
      ∀ e, n.exponent = some e → e.digits.head? ≠ some '0' := by
  match x with
  | .finite negative units bounded =>
    cases small : (finite negative units bounded).toSmallInt? with
    | some n =>
      obtain ⟨exact, moderate⟩ := of_toSmallInt? small
      refine ⟨.ofInt n, ?_, ?_, ?_, fun _ => nofun⟩
      · rw [WrittenNumeral.text_ofInt, plainText_of_toSmallInt? small]
      · rw [WrittenNumeral.decimal_ofInt, toDouble_natAbs]
        exact ofInt_eq_of_eqInt exact
      · refine iff_of_true rfl ?_
        cases zero : (finite negative units bounded).isZero with
        | true => exact .inl rfl
        | false => exact .inr (moderate zero)
    | none =>
      obtain ⟨nonzero, written⟩ := plainText_of_toSmallInt?_eq_none small
      obtain ⟨normal, hdouble⟩ := Digits.toDouble_shortest negative bounded nonzero
      obtain ⟨n, htext, ⟨zeros, hvalue⟩, hnone, hsome, -⟩ :=
        Layout.plain.exists_write negative normal
      refine ⟨n, htext.trans written.symm, ?_, ?_, fun e he => ?_⟩
      · rw [hvalue, Decimal.toDouble_shift, hdouble]
        exact eq_self_iff.mpr Double.noConfusion
      · have notZero : ¬ (finite negative units bounded).isZero := by simpa [isZero] using nonzero
        rw [hnone, isPositional_iff, or_iff_right notZero]
        exact nonzero
      · rw [hsome e he]
        refine WrittenExponent.head?_ofInt fun zero => ?_
        have positional : Layout.plain.IsPositional ((Digits.shortest units).point - 1) := by
          rw [zero]
          exact ⟨show -6 ≤ (0 : Int) by decide, show (0 : Int) < 21 by decide⟩
        rw [hnone.mpr positional] at he
        cases he

/-! ### Reading the text back -/

theorem toNumber_infinite (negative : Bool) :
    (Value.str (String.ofList (infinite negative).plainText)).toNumber = infinite negative := by
  cases negative <;> decide +kernel

/-- The text of a double that is no NaN is read back as that double, and both zeros are read back as
the positive one. The text of a finite double has an exponent if the double is no zero and below
`10 ^ -6` in magnitude, or from `10 ^ 21` on. The exponent has a sign and no zero in front. Without
an exponent, the text is a plain numeral, so it counts as a number in comparisons. -/
theorem plainText_reads_back {x : Double} (hx : x ≠ .nan) :
    (Value.str (String.ofList x.plainText)).toNumber.eq x ∧
      (x.isZero → (Value.str (String.ofList x.plainText)).toNumber = .zero false) ∧
      (x.isFinite →
        ('e' ∈ x.plainText ↔ x.isZero = false ∧ (x.abs.lt millionth ∨ sextillion.le x.abs)) ∧
        ('e' ∈ x.plainText → ∃ (n : WrittenNumeral) (e : WrittenExponent),
          n.text = x.plainText ∧ n.exponent = some e ∧ e.digits.head? ≠ some '0') ∧
        ('e' ∉ x.plainText → (∃ n : PlainNumeral, n.text = x.plainText) ∧
          (Value.str (String.ofList x.plainText)).isNumericLike)) := by
  cases x with
  | nan => exact absurd rfl hx
  | infinite negative =>
    rw [toNumber_infinite]
    exact ⟨eq_self_iff.mpr Double.noConfusion, nofun, nofun⟩
  | finite negative units bounded =>
    obtain ⟨n, htext, hvalue, hexponent, start⟩ :=
      exists_plainText (show (finite negative units bounded).isFinite from rfl)
    refine ⟨?_, fun zero => ?_, fun _ => ⟨?_, fun present => ?_, fun absent => ?_⟩⟩
    · rw [Value.toNumber, String.toList_ofList, ← htext, n.readDouble_text]
      exact hvalue
    · obtain rfl : units = 0 := beq_iff_eq.mp zero
      rw [plainText_zero]
      decide +kernel
    · rw [← htext, n.mem_text_iff, Ne, hexponent, not_or, Bool.not_eq_true, IsModerate, not_not]
    · obtain ⟨e, he⟩ := Option.ne_none_iff_exists'.mp (n.mem_text_iff.mp (htext ▸ present))
      exact ⟨n, e, htext, he, start e he⟩
    · have plain : n.plain.text = (finite negative units bounded).plainText := by
        rw [n.text_plain (not_not.mp (mt n.mem_text_iff.mpr (htext ▸ absent))), htext]
      exact ⟨⟨n.plain, plain⟩, plain ▸ n.plain.isNumericLike_text⟩

/-- Fifteen hundred-millionths are written with an exponent, since they are below the bound. -/
theorem plainText_reads_back_exponent :
    let x := Decimal.toDouble ⟨true, 15, -8⟩
    x ≠ .nan ∧ x.plainText = "-1.5e-7".toList ∧
      (Value.str (String.ofList x.plainText)).toNumber.eq x ∧
        (x.abs.lt millionth ∨ sextillion.le x.abs) := by
  have number : Decimal.toDouble ⟨true, 15, -8⟩ ≠ .nan := by decide +kernel
  have text : (Decimal.toDouble ⟨true, 15, -8⟩).plainText = "-1.5e-7".toList := by decide +kernel
  have finite : (Decimal.toDouble ⟨true, 15, -8⟩).isFinite := by decide +kernel
  obtain ⟨back, -, written⟩ := plainText_reads_back number
  exact ⟨number, text, back, ((written finite).1.mp (by rw [text]; decide)).2⟩

/-- The bounds are written on either side of an exponent. -/
example : millionth.plainText = "0.000001".toList ∧ sextillion.plainText = "1e+21".toList := by
  decide +kernel

end Double

end Bulletin
