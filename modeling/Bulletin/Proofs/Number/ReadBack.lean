import Bulletin.Proofs.Number.Nearest
import Bulletin.Proofs.Number.Written
import Mathlib.Data.List.Basic

/-!
# Doubles read back

The digits that are found for a double denote a number to which no other double is nearer, and every
layout of them is a numeral of that number. So the text of a double is read as that double, and the
text of an integer as that integer.
-/

namespace Bulletin

/-! ### Decimal digits -/

theorem decimalDigits_ne_nil (n : Nat) : decimalDigits n ≠ [] := Nat.toDigits_ne_nil

theorem isDigit_decimalDigits {n : Nat} : ∀ c ∈ decimalDigits n, c.isDigit :=
  fun _ => Nat.isDigit_of_mem_toDigits (by decide) (by decide)

@[simp]
theorem digitsValue_decimalDigits (n : Nat) : digitsValue (decimalDigits n) = n := by
  rw [digitsValue_eq_ofDigitChars]
  exact Nat.ofDigitChars_ten_toDigits

theorem head?_decimalDigits {n : Nat} (h : n ≠ 0) : (decimalDigits n).head? ≠ some '0' := by
  induction n using Nat.strongRecOn with
  | ind n ih =>
    rw [decimalDigits, Nat.toDigits_eq_if (by decide)]
    split
    · next hlt =>
      have digits : ∀ d < 10, d ≠ 0 → [d.digitChar].head? ≠ some '0' := by decide
      exact digits n hlt h
    · next hle =>
      rw [List.head?_append_of_ne_nil _ Nat.toDigits_ne_nil]
      exact ih (n / 10) (Nat.div_lt_self (by omega) (by decide)) (by omega)

theorem decimalDigits_start (n : Nat) :
    (decimalDigits n).length = 1 ∨ (decimalDigits n).head? ≠ some '0' := by
  by_cases h : n = 0
  · exact .inl (h ▸ rfl)
  · exact .inr (head?_decimalDigits h)

def WrittenNumeral.ofInt (n : Int) : WrittenNumeral where
  negative := n < 0
  whole := decimalDigits n.natAbs
  fraction := []
  exponent := none
  whole_ne_nil := decimalDigits_ne_nil _
  isDigit_whole := isDigit_decimalDigits
  whole_start := decimalDigits_start _
  isDigit_fraction := by simp

@[simp]
theorem WrittenNumeral.text_ofInt (n : Int) : (ofInt n).text = intText n := by
  by_cases h : n < 0 <;> simp [text, Double.signText, unsigned, fractionText,
    exponentText, ofInt, intText, h]

@[simp]
theorem WrittenNumeral.decimal_ofInt (n : Int) : (ofInt n).decimal = ⟨n < 0, n.natAbs, 0⟩ := by
  simp [decimal, ofInt]

theorem Double.signed_natAbs (n : Int) : signed (n < 0) n.natAbs = n := by
  by_cases h : n < 0 <;> simp only [signed, h, decide_true, decide_false, Bool.false_eq_true,
    if_true, if_false] <;> omega

/-! ### Significant digits -/

namespace Digits

def decimal (negative : Bool) (d : Digits) : Decimal :=
  ⟨negative, digitsValue d.digits, d.point - d.digits.length⟩

/-- There are digits, and the first of them is no zero. -/
structure IsNormal (d : Digits) : Prop where
  ne_nil : d.digits ≠ []
  isDigit : ∀ c ∈ d.digits, c.isDigit
  start : d.digits.head? ≠ some '0'

theorem exists_zeros_append (digits : List Char) :
    ∃ zeros, digits =
      (digits.reverse.dropWhile (· = '0')).reverse ++ List.replicate zeros '0' := by
  have all : ∀ c ∈ digits.reverse.takeWhile (· = '0'), c = '0' := by
    have all := List.all_eq_true.mp (List.all_takeWhile (p := (· = '0')) (l := digits.reverse))
    exact fun c hc => by simpa using all c hc
  have parts := congrArg List.reverse
    (List.takeWhile_append_dropWhile (p := (· = '0')) (l := digits.reverse))
  rw [List.reverse_append, List.reverse_reverse, List.eq_replicate_of_mem all,
    List.reverse_replicate] at parts
  exact ⟨_, parts.symm⟩

/-- The zeros at the end of a coefficient do not matter. -/
theorem exists_zeros_ofCoefficient {coefficient : Nat} (exponent : Int) (h : coefficient ≠ 0) :
    (ofCoefficient coefficient exponent).IsNormal ∧
      ∃ zeros, coefficient =
          Nat.pow 10 zeros * digitsValue (ofCoefficient coefficient exponent).digits ∧
        (ofCoefficient coefficient exponent).point -
          (ofCoefficient coefficient exponent).digits.length = exponent + zeros := by
  obtain ⟨zeros, heq⟩ := exists_zeros_append (decimalDigits coefficient)
  have hdigits : (ofCoefficient coefficient exponent).digits =
    ((decimalDigits coefficient).reverse.dropWhile (· = '0')).reverse := rfl
  rw [← hdigits] at heq
  have hvalue : coefficient =
      Nat.pow 10 zeros * digitsValue (ofCoefficient coefficient exponent).digits := by
    rw [← digitsValue_append_zeros, ← heq, digitsValue_decimalDigits]
  have nonempty : (ofCoefficient coefficient exponent).digits ≠ [] := by
    intro hnil
    rw [hnil] at hvalue
    exact h hvalue
  refine ⟨⟨nonempty, fun c hc => ?_, ?_⟩, zeros, hvalue, ?_⟩
  · exact isDigit_decimalDigits c (by rw [heq]; exact List.mem_append_left _ hc)
  · rw [← List.head?_append_of_ne_nil _ nonempty, ← heq]
    exact head?_decimalDigits h
  · have hlength := congrArg List.length heq
    rw [List.length_append, List.length_replicate] at hlength
    have hpoint : (ofCoefficient coefficient exponent).point =
      (decimalDigits coefficient).length + exponent := rfl
    rw [hpoint, hlength]
    omega

theorem toDouble_ofCoefficient (negative : Bool) {coefficient : Nat} (exponent : Int)
    (h : coefficient ≠ 0) :
    ((ofCoefficient coefficient exponent).decimal negative).toDouble =
      Decimal.toDouble ⟨negative, coefficient, exponent⟩ := by
  obtain ⟨-, zeros, hvalue, hexponent⟩ := exists_zeros_ofCoefficient exponent h
  have significant : digitsValue (ofCoefficient coefficient exponent).digits ≠ 0 := by
    intro hzero
    rw [hzero, Nat.mul_zero] at hvalue
    exact h hvalue
  have shifted := Decimal.toDouble_zeros negative significant zeros exponent
  rw [← hvalue] at shifted
  rw [decimal, hexponent, shifted]

theorem roundHalfEven_eq (n d : Nat) :
    roundHalfEven n d = n / d ∨ roundHalfEven n d = n / d + 1 := by
  have := div_le_roundHalfEven n d
  have := roundHalfEven_le n d
  omega

theorem exists_of_ofLength? {units count : Nat} {leading : Int} {d : Digits}
    (h : ofLength? units leading count = some d) :
    ∃ coefficient exponent, d = ofCoefficient coefficient exponent ∧
      readsBack units coefficient exponent := by
  simp only [ofLength?] at h
  split at h
  · next both =>
    obtain ⟨low, high⟩ := Bool.and_eq_true_iff.mp both
    refine ⟨_, _, (Option.some.inj h).symm, ?_⟩
    rcases roundHalfEven_eq (scaled units (lastExponent leading count)).1
      (scaled units (lastExponent leading count)).2 with heq | heq
    · simpa only [heq] using low
    · simpa only [heq] using high
  · split at h
    · next low => exact ⟨_, _, (Option.some.inj h).symm, low⟩
    · split at h
      · next high => exact ⟨_, _, (Option.some.inj h).symm, high⟩
      · cases h

/-- A magnitude is read back when a unit is written as a whole number of powers of ten. -/
theorem readsBack_of_scale {units k : Nat} {exponent : Int} (h : Fits units)
    (hexponent : exponent = -(k : Int)) (scale : Nat.pow 5 k * unitsPerOne = Nat.pow 10 k) :
    readsBack units (units * Nat.pow 5 k) exponent := by
  rw [readsBack, beq_iff_eq, Decimal.roundBits_ratio _ 0 k (by omega),
    show Nat.pow 10 0 = 1 from rfl, Nat.mul_one, Nat.mul_assoc, scale]
  have same := roundBits_mul units 1 (Nat.pow_pos (n := k) (show 0 < 10 by decide))
  rw [Nat.one_mul] at same
  exact same.trans (roundBits_of_fits h)

/-- The digits that are found for a magnitude are those of a number that is rounded to it. -/
theorem exists_shortest {units : Nat} (h : Fits units) :
    ∃ coefficient exponent, shortest units = ofCoefficient coefficient exponent ∧
      readsBack units coefficient exponent := by
  cases found : (List.range' 1 17).findSome? (ofLength? units (leadingExponent units)) with
  | none =>
    -- Seventeen digits are enough, but nothing here needs that: the exact digits are read back too.
    obtain ⟨k, hk⟩ : ∃ k, k = 1074 := ⟨_, rfl⟩
    have heq : exact units = ofCoefficient (units * Nat.pow 5 k) (-1074) := by
      rw [exact, ← hk]
    have scale : Nat.pow 5 k * unitsPerOne = Nat.pow 10 k := by
      subst hk
      decide +kernel
    exact ⟨_, _, by rw [shortest, found, ← heq]; rfl, readsBack_of_scale h (by omega) scale⟩
  | some d =>
    obtain ⟨count, -, hd⟩ := List.exists_of_findSome?_eq_some found
    obtain ⟨coefficient, exponent, heq, back⟩ := exists_of_ofLength? hd
    exact ⟨coefficient, exponent, by rw [shortest, found, ← heq]; rfl, back⟩

theorem toDouble_shortest (negative : Bool) {units : Nat}
    (bounded : Fits units ∧ units < overflowUnits) (h : units ≠ 0) :
    (shortest units).IsNormal ∧
      ((shortest units).decimal negative).toDouble = .finite negative units bounded := by
  obtain ⟨coefficient, exponent, heq, back⟩ := exists_shortest bounded.1
  have hround : roundBits (Decimal.ratio coefficient exponent).1
      (Decimal.ratio coefficient exponent).2 = units := by simpa [readsBack] using back
  have nonzero : coefficient ≠ 0 := by
    rintro rfl
    refine h (hround.symm.trans (roundBits_eq_zero ?_))
    have := Decimal.ratio_pos 0 exponent
    have hzero : (Decimal.ratio 0 exponent).1 = 0 := by
      unfold Decimal.ratio
      split <;> simp
    omega
  rw [heq]
  refine ⟨(exists_zeros_ofCoefficient exponent nonzero).1, ?_⟩
  rw [toDouble_ofCoefficient negative exponent nonzero, Decimal.toDouble_eq_rounded nonzero]
  exact Double.rounded_eq_finite bounded hround

/-- The first of the digits counts, since it is no zero. -/
theorem IsNormal.pow_le_digitsValue {d : Digits} (h : d.IsNormal) :
    Nat.pow 10 (d.digits.length - 1) ≤ digitsValue d.digits := by
  obtain ⟨c, others, heq⟩ := List.exists_cons_of_ne_nil h.ne_nil
  have hrange := toNat_of_isDigit (h.isDigit c (by rw [heq]; exact List.mem_cons_self ..))
  have hstart : c.toNat ≠ '0'.toNat := by
    intro hc
    refine h.start ?_
    rw [heq, List.head?_cons, ← Char.ofNat_toNat c, hc]
    rfl
  have hzero : '0'.toNat = 48 := rfl
  have hc : 0 < digitValue c := by
    rw [digitValue]
    omega
  rw [heq, digitsValue_cons]
  exact Nat.le_add_right_of_le (Nat.le_mul_of_pos_right _ hc)

theorem IsNormal.digitsValue_ne_zero {d : Digits} (h : d.IsNormal) : digitsValue d.digits ≠ 0 :=
  Nat.ne_of_gt (Nat.lt_of_lt_of_le (Nat.pow_pos (by decide)) h.pow_le_digitsValue)

end Digits

/-! ### Layouts -/

namespace WrittenNumeral

variable (negative : Bool) {d : Digits} (h : d.IsNormal)

/-- Zeros and then the digits, after a point. -/
def belowOne (zeros : Nat) : WrittenNumeral where
  negative := negative
  whole := ['0']
  fraction := List.replicate zeros '0' ++ d.digits
  exponent := none
  whole_ne_nil := by simp
  isDigit_whole := by simp
  whole_start := .inl rfl
  isDigit_fraction := by
    intro c hc
    rcases List.mem_append.mp hc with hc | hc
    · rw [List.eq_of_mem_replicate hc]
      rfl
    · exact h.isDigit c hc

/-- Some of the digits before a point and the others after it. -/
def pointed {whole : Nat} (hwhole : 0 < whole) (exponent : Option WrittenExponent) :
    WrittenNumeral where
  negative := negative
  whole := d.digits.take whole
  fraction := d.digits.drop whole
  exponent := exponent
  whole_ne_nil := by
    intro hnil
    rcases List.take_eq_nil_iff.mp hnil with hzero | hnil
    · omega
    · exact h.ne_nil hnil
  isDigit_whole := fun c hc => h.isDigit c (List.mem_of_mem_take hc)
  whole_start := by
    rw [List.head?_take, if_neg (by omega)]
    exact .inr h.start
  isDigit_fraction := fun c hc => h.isDigit c (List.mem_of_mem_drop hc)

/-- The digits and then zeros, one of them after a point if there is one. -/
def large (zeros : Nat) (point : Bool) : WrittenNumeral where
  negative := negative
  whole := d.digits ++ List.replicate zeros '0'
  fraction := if point then ['0'] else []
  exponent := none
  whole_ne_nil := List.append_ne_nil_of_left_ne_nil h.ne_nil _
  isDigit_whole := by
    intro c hc
    rcases List.mem_append.mp hc with hc | hc
    · exact h.isDigit c hc
    · rw [List.eq_of_mem_replicate hc]
      rfl
  whole_start := by
    rw [List.head?_append_of_ne_nil _ h.ne_nil]
    exact .inr h.start
  isDigit_fraction := by cases point <;> simp

theorem decimal_belowOne (zeros : Nat) :
    (belowOne negative h zeros).decimal =
      ⟨negative, digitsValue d.digits, -(zeros + d.digits.length : Int)⟩ := by
  have hvalue : digitsValue (['0'] ++ (List.replicate zeros '0' ++ d.digits)) =
      digitsValue d.digits := by
    have zeros := digitsValue_zeros_append (1 + zeros) d.digits
    rwa [← List.replicate_append_replicate, List.append_assoc] at zeros
  simp only [decimal, belowOne, hvalue, Option.elim_none, List.length_append, List.length_replicate]
  congr 1
  omega

theorem decimal_pointed {whole : Nat} (hwhole : 0 < whole) (exponent : Option WrittenExponent) :
    (pointed negative h hwhole exponent).decimal =
      ⟨negative, digitsValue d.digits,
        exponent.elim 0 WrittenExponent.value - (d.digits.length - whole : Nat)⟩ := by
  simp only [decimal, pointed, List.take_append_drop, List.length_drop]

theorem decimal_large (zeros : Nat) (point : Bool) :
    (large negative h zeros point).decimal =
      Decimal.shift (zeros + point.toNat) ⟨negative, digitsValue d.digits, zeros⟩ := by
  have exponent : (zeros : Int) - (zeros + point.toNat : Nat) = -(point.toNat : Int) := by omega
  rw [Decimal.shift, exponent, ← digitsValue_append_zeros, ← List.replicate_append_replicate,
    ← List.append_assoc]
  cases point <;> rfl

end WrittenNumeral

theorem isDigit_padZeros {width : Nat} {digits : List Char} (h : ∀ c ∈ digits, c.isDigit) :
    ∀ c ∈ Layout.padZeros width digits, c.isDigit := by
  intro c hc
  rcases List.mem_append.mp hc with hc | hc
  · rw [List.eq_of_mem_replicate hc]
    rfl
  · exact h c hc

/-- An exponent, filled up with zeros to a width. -/
def WrittenExponent.ofInt (width : Nat) (n : Int) : WrittenExponent where
  negative := n < 0
  digits := Layout.padZeros width (decimalDigits n.natAbs)
  digits_ne_nil := List.append_ne_nil_of_right_ne_nil _ (decimalDigits_ne_nil _)
  isDigit_digits := isDigit_padZeros isDigit_decimalDigits

@[simp]
theorem WrittenExponent.value_ofInt (width : Nat) (n : Int) : (ofInt width n).value = n := by
  simp only [value, ofInt, Layout.padZeros, digitsValue_zeros_append, digitsValue_decimalDigits,
    Double.signed_natAbs]

namespace Layout

variable (layout : Layout) (negative : Bool) {d : Digits}

theorem exists_positional (h : d.IsNormal) :
    ∃ n : WrittenNumeral, n.text = Double.signText negative ++ layout.positional d ∧
      (∃ zeros, n.decimal = (d.decimal negative).shift zeros) ∧ n.exponent = none ∧
        (layout.wholePoint → ¬ n.IsInteger) := by
  unfold positional
  split
  · next small =>
    refine ⟨.belowOne negative h (-d.point).toNat, ?_, ?_, rfl, fun _ => ?_⟩
    · simp [WrittenNumeral.text, WrittenNumeral.unsigned, WrittenNumeral.fractionText,
        WrittenNumeral.exponentText, WrittenNumeral.belowOne, h.ne_nil]
    · refine ⟨0, ?_⟩
      rw [WrittenNumeral.decimal_belowOne, Decimal.shift_zero, Digits.decimal]
      congr 1
      omega
    · exact fun integer => List.append_ne_nil_of_right_ne_nil _ h.ne_nil integer.1
  · dsimp only
    split
    · next big among =>
      have rest : d.digits.drop d.point.toNat ≠ [] := by
        rw [Ne, List.drop_eq_nil_iff]
        omega
      refine ⟨.pointed negative h (show 0 < d.point.toNat by omega) none, ?_, ?_, rfl,
        fun _ integer => rest integer.1⟩
      · simp [WrittenNumeral.text, WrittenNumeral.unsigned, WrittenNumeral.fractionText,
          WrittenNumeral.exponentText, WrittenNumeral.pointed, rest]
      · refine ⟨0, ?_⟩
        rw [WrittenNumeral.decimal_pointed, Decimal.shift_zero, Digits.decimal]
        congr 1
        simp only [Option.elim_none]
        omega
    · next big beyond =>
      refine ⟨.large negative h (d.point.toNat - d.digits.length) layout.wholePoint, ?_, ?_, rfl,
        ?_⟩
      · cases hpoint : layout.wholePoint <;>
          simp [WrittenNumeral.text, WrittenNumeral.unsigned, WrittenNumeral.fractionText,
            WrittenNumeral.exponentText, WrittenNumeral.large]
      · refine ⟨_, (WrittenNumeral.decimal_large negative h _ _).trans (congrArg _ ?_)⟩
        rw [Digits.decimal]
        congr 1
        omega
      · intro point integer
        simpa [WrittenNumeral.large, point] using integer.1

theorem exists_scientific (h : d.IsNormal) :
    ∃ n : WrittenNumeral, n.text = Double.signText negative ++ layout.scientific d ∧
      n.decimal = d.decimal negative ∧
        n.exponent = some (.ofInt layout.exponentWidth (d.point - 1)) := by
  have hpositive := List.length_pos_iff.mpr h.ne_nil
  refine ⟨.pointed negative h Nat.one_pos (some (.ofInt layout.exponentWidth (d.point - 1))), ?_,
    ?_, rfl⟩
  · have single : (d.digits.drop 1 = []) = (d.digits.length ≤ 1) := propext List.drop_eq_nil_iff
    simp only [WrittenNumeral.text, WrittenNumeral.unsigned, WrittenNumeral.fractionText,
      WrittenNumeral.exponentText, WrittenNumeral.pointed, scientific, WrittenExponent.text,
      WrittenExponent.ofInt, single, List.append_assoc, decide_eq_true_eq]
  · rw [WrittenNumeral.decimal_pointed, Digits.decimal]
    congr 1
    simp only [Option.elim_some, WrittenExponent.value_ofInt]
    omega

/-- The powers of ten of a first digit that a layout writes without an exponent. -/
def IsPositional (exponent : Int) : Prop :=
  layout.lowest ≤ exponent ∧ exponent < layout.highest

/-- What a layout writes is a numeral of the number that the digits denote, perhaps with zeros after
them, and with an exponent if the layout wants one. If the layout has points in whole numbers, it is
not one of an integer. -/
theorem exists_write (h : d.IsNormal) :
    ∃ n : WrittenNumeral, n.text = Double.signText negative ++ layout.write d ∧
      (∃ zeros, n.decimal = (d.decimal negative).shift zeros) ∧
      (n.exponent = none ↔ layout.IsPositional (d.point - 1)) ∧
      (∀ e, n.exponent = some e → e = .ofInt layout.exponentWidth (d.point - 1)) ∧
      (layout.wholePoint → ¬ n.IsInteger) := by
  have positional_iff : (layout.lowest ≤ d.point - 1 && d.point - 1 < layout.highest) ↔
      layout.IsPositional (d.point - 1) := by
    rw [Bool.and_eq_true, decide_eq_true_eq, decide_eq_true_eq, IsPositional]
  unfold write
  dsimp only
  split
  · next inside =>
    obtain ⟨n, htext, hvalue, hexponent, not_integer⟩ := layout.exists_positional negative h
    refine ⟨n, htext, hvalue, iff_of_true hexponent (positional_iff.mp inside), fun e he => ?_,
      not_integer⟩
    rw [hexponent] at he
    cases he
  · next outside =>
    obtain ⟨n, htext, hvalue, hexponent⟩ := layout.exists_scientific negative h
    have hne : n.exponent ≠ none := by
      rw [hexponent]
      exact Option.some_ne_none _
    have same : n.decimal = (d.decimal negative).shift 0 := by rw [hvalue, Decimal.shift_zero]
    exact ⟨n, htext, ⟨0, same⟩, iff_of_false hne (mt positional_iff.mpr outside),
      fun e he => Option.some.inj (he.symm.trans hexponent), fun _ integer => hne integer.2⟩

end Layout

/-- The text of a finite double is a numeral with a point or an exponent, and is read as that
double. -/
theorem Double.exists_fullText {x : Double} (h : x.isFinite) :
    ∃ n : WrittenNumeral, n.text = x.fullText ∧ n.decimal.toDouble = x ∧ ¬ n.IsInteger := by
  match x with
  | .finite negative units bounded =>
    by_cases hzero : units = 0
    · subst hzero
      refine ⟨⟨negative, ['0'], ['0'], none, by simp, by simp, .inl rfl, by simp⟩, ?_, ?_, ?_⟩
      · simp [WrittenNumeral.text, WrittenNumeral.unsigned, WrittenNumeral.fractionText,
          WrittenNumeral.exponentText, fullText]
      · rfl
      · simp [WrittenNumeral.IsInteger]
    · obtain ⟨normal, hdouble⟩ := Digits.toDouble_shortest negative bounded hzero
      obtain ⟨n, htext, ⟨zeros, hvalue⟩, -, -, point⟩ := Layout.full.exists_write negative normal
      refine ⟨n, ?_, by rw [hvalue, Decimal.toDouble_shift, hdouble], point rfl⟩
      rw [htext, fullText, if_neg hzero]

end Bulletin
