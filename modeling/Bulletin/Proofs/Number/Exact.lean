import Bulletin.Proofs.Number.ReadBack
import Mathlib.Algebra.Field.Rat
import Mathlib.Algebra.Order.Field.Basic
import Mathlib.Algebra.Order.Ring.Rat
import Mathlib.Data.Rat.Cast.CharZero
import Mathlib.Order.WithBot

/-!
# Numbers without rounding

A number that is no NaN is exactly one quantity, a rational number or an infinity, and it is by this
quantity that integers and doubles are compared. An integer that is the same quantity as a double is
rounded to that double, up to the sign of a zero, and doubles of one quantity are written alike in
rendered text.
-/

namespace Bulletin

inductive Quantity where
  | rational (q : ℚ)
  | infinite (negative : Bool)
  deriving DecidableEq

/-- Where a quantity stands in order: the infinities are the two ends. -/
def Quantity.place : Quantity → WithBot (WithTop ℚ)
  | .rational q => ((q : WithTop ℚ) : WithBot (WithTop ℚ))
  | .infinite true => ⊥
  | .infinite false => ((⊤ : WithTop ℚ) : WithBot (WithTop ℚ))

namespace Quantity

theorem place_injective : Function.Injective place := by
  intro p q h
  rcases p with p | ⟨_ | _⟩ <;> rcases q with q | ⟨_ | _⟩ <;>
    first
    | rfl
    | exact congrArg rational (WithTop.coe_injective (WithBot.coe_injective h))
    | cases h

theorem rational_lt_rational (p q : ℚ) : (rational p).place < (rational q).place ↔ p < q := by
  simp [place]

theorem rational_lt_infinite (p : ℚ) (b : Bool) :
    (rational p).place < (infinite b).place ↔ b = false := by
  cases b <;> simp [place, -WithBot.coe_top]

theorem infinite_lt_rational (a : Bool) (q : ℚ) :
    (infinite a).place < (rational q).place ↔ a := by
  cases a <;> simp [place]

theorem infinite_lt_infinite (a b : Bool) :
    (infinite a).place < (infinite b).place ↔ a ∧ b = false := by
  cases a <;> cases b <;> simp [place]

end Quantity

theorem unitsPerOne_pos : 0 < unitsPerOne := by decide +kernel

theorem unitsPerOne_ne_zero : (unitsPerOne : ℚ) ≠ 0 :=
  Nat.cast_ne_zero.mpr (Nat.ne_of_gt unitsPerOne_pos)

namespace Double

/-- What a double is exactly. A NaN is no quantity. -/
def quantity? : Double → Option Quantity
  | .nan => none
  | .infinite negative => some (.infinite negative)
  | .finite negative units _ => some (.rational (signed negative units / unitsPerOne))

@[simp] theorem quantity?_eq_none_iff {x : Double} : x.quantity? = none ↔ x = .nan := by
  cases x <;> simp only [quantity?, reduceCtorEq]

/-- Two doubles are equal if they are one quantity. -/
theorem eq_iff {x y : Double} :
    x.eq y ↔ ∃ q, x.quantity? = some q ∧ y.quantity? = some q := by
  cases x with
  | nan =>
    cases y <;>
      simp only [eq, quantity?, Bool.false_eq_true, reduceCtorEq, false_and, exists_false]
  | infinite a =>
    cases y with
    | nan => simp only [eq, quantity?, Bool.false_eq_true, reduceCtorEq, and_false, exists_false]
    | infinite b =>
      simp only [eq, quantity?, beq_iff_eq, Option.some.injEq, exists_eq_left',
        Quantity.infinite.injEq]
      exact eq_comm
    | finite b n _ => simp only [eq, quantity?, Option.some.injEq, exists_eq_left', reduceCtorEq]
  | finite a m _ =>
    cases y with
    | nan => simp only [eq, quantity?, Bool.false_eq_true, reduceCtorEq, and_false, exists_false]
    | infinite b => simp only [eq, quantity?, Option.some.injEq, exists_eq_left', reduceCtorEq]
    | finite b n _ =>
      simp only [eq, quantity?, beq_iff_eq, Option.some.injEq, exists_eq_left',
        Quantity.rational.injEq, div_left_inj' unitsPerOne_ne_zero, Int.cast_inj]
      exact eq_comm

/-- An integer equals a double if the double is that integer exactly. -/
theorem eqInt_iff {n : Int} {y : Double} : y.eqInt n ↔ y.quantity? = some (.rational n) := by
  cases y with
  | nan => simp only [eqInt, quantity?, reduceCtorEq]
  | infinite b => simp only [eqInt, quantity?, Option.some.injEq, reduceCtorEq]
  | finite b units _ =>
    simp only [eqInt, quantity?, beq_iff_eq, Option.some.injEq, Quantity.rational.injEq,
      div_eq_iff unitsPerOne_ne_zero]
    rw [← Int.cast_natCast (R := ℚ), ← Int.cast_mul, Int.cast_inj]
    exact eq_comm

open Quantity in
/-- Doubles are ordered as their quantities are. -/
theorem lt_iff {x y : Double} :
    x.lt y ↔ ∃ p q, x.quantity? = some p ∧ y.quantity? = some q ∧ p.place < q.place := by
  have positive : (0 : ℚ) < unitsPerOne := Nat.cast_pos.mpr unitsPerOne_pos
  cases x with
  | nan =>
    cases y <;>
      simp only [lt, quantity?, Bool.false_eq_true, reduceCtorEq, false_and, exists_false]
  | infinite a =>
    cases y with
    | nan =>
      simp only [lt, quantity?, Bool.false_eq_true, reduceCtorEq, false_and, and_false,
        exists_false]
    | infinite b =>
      simp only [lt, quantity?, Option.some.injEq, exists_and_left, exists_eq_left',
        infinite_lt_infinite, Bool.and_eq_true, Bool.not_eq_true']
    | finite b n _ =>
      simp only [lt, quantity?, Option.some.injEq, exists_and_left, exists_eq_left',
        infinite_lt_rational]
  | finite a m _ =>
    cases y with
    | nan =>
      simp only [lt, quantity?, Bool.false_eq_true, reduceCtorEq, false_and, and_false,
        exists_false]
    | infinite b =>
      simp only [lt, quantity?, Option.some.injEq, exists_and_left, exists_eq_left',
        rational_lt_infinite, Bool.not_eq_true']
    | finite b n _ =>
      simp only [lt, quantity?, Option.some.injEq, exists_and_left, exists_eq_left',
        rational_lt_rational, div_lt_div_iff_of_pos_right positive, Int.cast_lt,
        decide_eq_true_eq]

open Quantity in
theorem ltInt_iff {x : Double} {n : Int} :
    x.ltInt n ↔ ∃ p, x.quantity? = some p ∧ p.place < (Quantity.rational n).place := by
  have positive : (0 : ℚ) < unitsPerOne := Nat.cast_pos.mpr unitsPerOne_pos
  cases x with
  | nan => simp only [ltInt, quantity?, Bool.false_eq_true, reduceCtorEq, false_and, exists_false]
  | infinite a =>
    simp only [ltInt, quantity?, Option.some.injEq, exists_eq_left', infinite_lt_rational]
  | finite a m _ =>
    simp only [ltInt, quantity?, decide_eq_true_eq, Option.some.injEq, exists_eq_left',
      rational_lt_rational, div_lt_iff₀ positive]
    rw [← Int.cast_natCast (R := ℚ), ← Int.cast_mul, Int.cast_lt]

/-- An integer is below a double that is a number and neither below the integer nor equal to it. -/
theorem intLt_iff {n : Int} {y : Double} :
    (!y.isNaN && !y.ltInt n && !y.eqInt n) ↔
      ∃ q, y.quantity? = some q ∧ (Quantity.rational n).place < q.place := by
  cases hy : y.quantity? with
  | none =>
    obtain rfl := quantity?_eq_none_iff.mp hy
    simp only [isNaN, Bool.not_true, Bool.false_and, Bool.false_eq_true, reduceCtorEq, false_and,
      exists_false]
  | some q =>
    have ne_nan : y.isNaN = false := by
      cases y with
      | nan => cases hy
      | _ => rfl
    have below : y.ltInt n ↔ q.place < (Quantity.rational n).place := by
      simp only [ltInt_iff, hy, Option.some.injEq, exists_eq_left']
    have same : y.eqInt n ↔ (Quantity.rational n).place = q.place := by
      rw [eqInt_iff, hy, Option.some.injEq, Quantity.place_injective.eq_iff, eq_comm]
    simp only [ne_nan, Bool.not_false, Bool.true_and, Bool.and_eq_true, Bool.not_eq_true',
      ← Bool.not_eq_true, below, same, not_lt, Option.some.injEq, exists_eq_left']
    exact lt_iff_le_and_ne.symm

theorem eq_of_quantity? {x y : Double} {q : Quantity} (hx : x.quantity? = some q)
    (hy : y.quantity? = some q) : x.eq y :=
  eq_iff.mpr ⟨q, hx, hy⟩

theorem eq_self_iff {x : Double} : x.eq x ↔ x ≠ .nan := by
  cases x <;> simp [eq]

theorem eq_swap (x y : Double) : x.eq y = y.eq x := by
  rw [Bool.eq_iff_iff, eq_iff, eq_iff]
  simp only [and_comm]

/-- Equal doubles are equal to the same doubles. -/
theorem eq_congr {x y : Double} (h : x.eq y) (z : Double) : x.eq z = y.eq z := by
  obtain ⟨q, hx, hy⟩ := eq_iff.mp h
  rw [Bool.eq_iff_iff, eq_iff, eq_iff, hx, hy]

/-! ### Doubles that are integers -/

theorem rounded_ne_nan (negative : Bool) (n d : Nat) : rounded negative n d ≠ .nan := by
  unfold rounded
  split <;> exact Double.noConfusion

theorem ofInt_ne_nan (n : Int) : ofInt n ≠ .nan := rounded_ne_nan _ _ _

theorem one_ne_nan : one ≠ .nan := ofInt_ne_nan 1

theorem natAbs_signed (negative : Bool) (magnitude : Nat) :
    (signed negative magnitude).natAbs = magnitude := by
  cases negative <;> simp [signed]

theorem signed_mul (negative : Bool) (a b : Nat) :
    signed negative (a * b) = signed negative a * b := by
  cases negative <;> simp [signed]

theorem units_of_eqInt {n : Int} {negative : Bool} {units : Nat}
    {bounded : Fits units ∧ units < overflowUnits} (h : (finite negative units bounded).eqInt n) :
    n.natAbs * unitsPerOne = units := by
  have magnitude := congrArg Int.natAbs (beq_iff_eq.mp h)
  rwa [Int.natAbs_mul, Int.natAbs_natCast, natAbs_signed] at magnitude

/-- The double nearest to an integer that is a double is that double, up to the sign of a zero. -/
theorem ofInt_eq_of_eqInt {n : Int} {y : Double} (h : y.eqInt n) : (ofInt n).eq y := by
  cases y with
  | nan => cases h
  | infinite b => cases h
  | finite b units bounded =>
    have exact : n * unitsPerOne = signed b units := by
      simpa only [eqInt, beq_iff_eq] using h
    have magnitude := units_of_eqInt h
    have rounds : roundBits (n.natAbs * unitsPerOne) 1 = units := by
      rw [magnitude]
      exact roundBits_of_fits bounded.1
    have same : signed (n < 0) units = signed b units := by
      calc signed (n < 0) units
          = signed (n < 0) n.natAbs * unitsPerOne := by
            rw [← magnitude, signed_mul]
        _ = n * unitsPerOne := by rw [signed_natAbs]
        _ = signed b units := exact
    rw [ofInt, rounded_eq_finite bounded rounds]
    simpa [eq] using same

/-! ### Equal doubles in rendered text -/

@[simp]
theorem toSmallInt?_zero (negative : Bool) (bounded : Fits 0 ∧ 0 < overflowUnits) :
    (finite negative 0 bounded).toSmallInt? = some 0 := by
  have small : (finite negative 0 bounded).belowLarge := by
    simp only [belowLarge, decide_eq_true_eq]
    exact Nat.mul_pos (Nat.pow_pos (by decide)) unitsPerOne_pos
  have whole : (finite negative 0 bounded).toInt? = some 0 := by
    simp only [toInt?, Nat.zero_mod, Nat.zero_div, if_true]
    cases negative <;> rfl
  rw [toSmallInt?, small, whole, if_pos rfl]

/-- Both zeros are written alike. -/
theorem plainText_zero (negative : Bool) (bounded : Fits 0 ∧ 0 < overflowUnits) :
    (finite negative 0 bounded).plainText = ['0'] := by
  unfold plainText
  simp only [toSmallInt?_zero]
  rfl

theorem plainText_congr {x y : Double} (h : x.eq y) : x.plainText = y.plainText := by
  cases x with
  | nan => cases h
  | infinite a =>
    cases y with
    | nan => cases h
    | infinite b =>
      have same : a = b := by simpa [eq] using h
      rw [same]
    | finite b n _ => cases h
  | finite a m _ =>
    cases y with
    | nan => cases h
    | infinite b => cases h
    | finite b n _ =>
      have same : signed a m = signed b n := by simpa [eq] using h
      have magnitude : m = n := by
        rw [← natAbs_signed a m, same, natAbs_signed]
      subst magnitude
      by_cases zero : m = 0
      · subst zero
        rw [plainText_zero, plainText_zero]
      · have sign : a = b := by
          cases a <;> cases b <;> simp only [signed, Bool.false_eq_true, if_false, if_true] at same
          · rfl
          · omega
          · omega
          · rfl
        rw [sign]

end Double

end Bulletin
