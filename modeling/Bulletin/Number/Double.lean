/-!
# Double-precision numbers

A finite double is an integer multiple of `2 ^ -1074`, so its magnitude is kept as that count of
units. Addition, comparison and the remainder are then plain integer arithmetic on units;
multiplication and division round an exact quotient once. A quotient `n / d` is rounded to the
nearest multiple of the power of two that leaves it at most fifty-three significant bits, and a tie
goes to the even multiple. There is one NaN, two infinities and two zeros.
-/

namespace Bulletin

/-! ### Rounding to fifty-three significant bits -/

/-- The natural number nearest to `n / d`; of two equally near ones, the even one. -/
def roundHalfEven (n d : Nat) : Nat :=
  let q := n / d
  let r := n % d
  if 2 * r < d then q
  else if d < 2 * r then q + 1
  else q + q % 2

/-- A number has at most fifty-three significant bits: its last bit set is no more than fifty-two
places below its first. -/
def Fits (u : Nat) : Prop := Nat.pow 2 (u.log2 - 52) ∣ u

instance (u : Nat) : Decidable (Fits u) := inferInstanceAs (Decidable (_ ∣ _))

/-- The distance between the neighbours of `q` that have fifty-three significant bits. -/
def spacing (q : Nat) : Nat := Nat.pow 2 (q.log2 - 52)

/-- The number of at most fifty-three significant bits that is nearest to `n / d`; of two equally
near ones, the one whose last bit is clear. -/
def roundBits (n d : Nat) : Nat :=
  roundHalfEven n (d * spacing (n / d)) * spacing (n / d)

theorem roundHalfEven_le (n d : Nat) : roundHalfEven n d ≤ n / d + 1 := by
  unfold roundHalfEven
  dsimp only
  split
  · omega
  · split <;> omega

theorem fits_zero : Fits 0 := by simp [Fits]

theorem fits_of_le {h s : Nat} (hs : h ≤ Nat.pow 2 53) : Fits (h * Nat.pow 2 s) := by
  unfold Fits
  simp only [Nat.pow_eq] at hs ⊢
  rcases Nat.eq_or_lt_of_le hs with rfl | hlt
  · rw [← Nat.pow_add]
    exact Nat.pow_dvd_pow 2 (by rw [Nat.log2_two_pow]; omega)
  · by_cases hz : h * 2 ^ s = 0
    · simp [hz]
    · have hb : h * 2 ^ s < 2 ^ (53 + s) := by
        rw [Nat.pow_add]
        exact Nat.mul_lt_mul_of_pos_right hlt (Nat.two_pow_pos s)
      have hlog := (Nat.log2_lt hz).mpr hb
      exact Nat.dvd_trans (Nat.pow_dvd_pow 2 (by omega)) (Nat.dvd_mul_left (2 ^ s) h)

theorem div_spacing_lt (q : Nat) : q / spacing q < Nat.pow 2 53 := by
  unfold spacing
  simp only [Nat.pow_eq]
  rw [Nat.div_lt_iff_lt_mul (Nat.two_pow_pos _), ← Nat.pow_add]
  exact Nat.lt_of_lt_of_le Nat.lt_log2_self (Nat.pow_le_pow_right (by decide) (by omega))

theorem fits_roundBits (n d : Nat) : Fits (roundBits n d) := by
  apply fits_of_le
  have h := roundHalfEven_le n (d * spacing (n / d))
  rw [← Nat.div_div_eq_div_mul] at h
  exact Nat.le_trans h (div_spacing_lt (n / d))

/-! ### Doubles -/

/-- The number of units in one: a unit is `2 ^ -1074`, the smallest positive double. -/
def unitsPerOne : Nat := Nat.pow 2 1074

/-- The first magnitude, in units, that is too large for a finite double: `2 ^ 1024`. -/
def overflowUnits : Nat := Nat.pow 2 2098

/-- A double-precision number. A finite one is `±units * 2 ^ -1074`. -/
inductive Double where
  | nan
  | infinite (negative : Bool)
  | finite (negative : Bool) (units : Nat) (bounded : Fits units ∧ units < overflowUnits)
  deriving DecidableEq

theorem overflowUnits_pos : 0 < overflowUnits := by decide +kernel

namespace Double

def signed (negative : Bool) (magnitude : Nat) : Int :=
  if negative then -(magnitude : Int) else magnitude

/-- The double nearest to `±n / d` units, ties to even; infinite from the overflow threshold on. -/
def rounded (negative : Bool) (n d : Nat) : Double :=
  if h : roundBits n d < overflowUnits then
    .finite negative (roundBits n d) ⟨fits_roundBits n d, h⟩
  else .infinite negative

def zero (negative : Bool) : Double :=
  .finite negative 0 ⟨fits_zero, overflowUnits_pos⟩

def ofInt (n : Int) : Double :=
  rounded (n < 0) (n.natAbs * unitsPerOne) 1

def one : Double := ofInt 1

/-- The sign bit; a NaN has none. -/
def isNegative : Double → Bool
  | .nan => false
  | .infinite negative => negative
  | .finite negative _ _ => negative

def isNaN : Double → Bool
  | .nan => true
  | _ => false

def isInfinite : Double → Bool
  | .infinite _ => true
  | _ => false

def isFinite : Double → Bool
  | .finite _ _ _ => true
  | _ => false

def isZero : Double → Bool
  | .finite _ units _ => units == 0
  | _ => false

def neg : Double → Double
  | .nan => .nan
  | .infinite negative => .infinite (!negative)
  | .finite negative units bounded => .finite (!negative) units bounded

/-- Sum, rounded once. An exact zero sum is negative only when both terms are negative zeros. -/
def add : Double → Double → Double
  | .nan, _ => .nan
  | _, .nan => .nan
  | .infinite a, .infinite b => if a = b then .infinite a else .nan
  | .infinite a, .finite _ _ _ => .infinite a
  | .finite _ _ _, .infinite b => .infinite b
  | .finite a m _, .finite b n _ =>
    let sum := signed a m + signed b n
    if sum = 0 then zero (a && b) else rounded (sum < 0) sum.natAbs 1

def sub (x y : Double) : Double := add x (neg y)

/-- Product, rounded once. Zero times an infinity is NaN. -/
def mul : Double → Double → Double
  | .nan, _ => .nan
  | _, .nan => .nan
  | .infinite a, .infinite b => .infinite (a != b)
  | .infinite a, .finite b n _ => if n = 0 then .nan else .infinite (a != b)
  | .finite a m _, .infinite b => if m = 0 then .nan else .infinite (a != b)
  | .finite a m _, .finite b n _ => rounded (a != b) (m * n) unitsPerOne

/-- Quotient, rounded once. Division by a zero gives an infinity with the product of the signs,
or NaN when the dividend is a zero or a NaN. -/
def div : Double → Double → Double
  | .nan, _ => .nan
  | _, .nan => .nan
  | .infinite _, .infinite _ => .nan
  | .infinite a, .finite b _ _ => .infinite (a != b)
  | .finite a _ _, .infinite b => zero (a != b)
  | .finite a m _, .finite b n _ =>
    if n = 0 then (if m = 0 then .nan else .infinite (a != b))
    else rounded (a != b) (m * unitsPerOne) n

/-- Truncated remainder: it has the sign of the dividend and a magnitude below the divisor's. -/
def rem : Double → Double → Double
  | .nan, _ => .nan
  | _, .nan => .nan
  | .infinite _, _ => .nan
  | .finite a m h, .infinite _ => .finite a m h
  | .finite a m _, .finite _ n _ => if n = 0 then .nan else rounded a (m % n) 1

/-- Numerical equality: the two zeros are equal, and NaN equals nothing. -/
def eq : Double → Double → Bool
  | .infinite a, .infinite b => a == b
  | .finite a m _, .finite b n _ => signed a m == signed b n
  | _, _ => false

def lt : Double → Double → Bool
  | .nan, _ => false
  | _, .nan => false
  | .infinite a, .infinite b => a && !b
  | .infinite a, .finite _ _ _ => a
  | .finite _ _ _, .infinite b => !b
  | .finite a m _, .finite b n _ => signed a m < signed b n

def le (x y : Double) : Bool := lt x y || eq x y

/-- The integer that a double is, if it is one. -/
def toInt? : Double → Option Int
  | .finite negative units _ =>
    if units % unitsPerOne = 0 then some (signed negative (units / unitsPerOne)) else none
  | _ => none

def eqInt (n : Int) : Double → Bool
  | .finite negative units _ => n * unitsPerOne == signed negative units
  | _ => false

/-- Exact order of an integer and a double; false for NaN. -/
def ltInt (x : Double) (n : Int) : Bool :=
  match x with
  | .nan => false
  | .infinite negative => negative
  | .finite negative units _ => signed negative units < n * unitsPerOne

/-- Magnitude below `10 ^ 21`, where an integral number is still written out digit by digit. -/
def belowLarge : Double → Bool
  | .finite _ units _ => units < Nat.pow 10 21 * unitsPerOne
  | _ => false

def toSmallInt? (x : Double) : Option Int :=
  if x.belowLarge then x.toInt? else none

end Double

end Bulletin
