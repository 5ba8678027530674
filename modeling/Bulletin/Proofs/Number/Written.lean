import Bulletin.Number.Decimal
import Bulletin.Text.Basic

/-!
# Written numerals

The numerals that programs write: an optional minus, digits without a zero in front, perhaps a point
with digits after it, and perhaps an exponent with a sign. They are read as the number that their
digits denote.
-/

namespace Bulletin

/-! ### Runs of digits -/

theorem digitsValue_eq_ofDigitChars (digits : List Char) :
    digitsValue digits = Nat.ofDigitChars 10 digits 0 :=
  Nat.ofDigitChars_eq_foldl.symm

theorem digitsValue_append (first last : List Char) :
    digitsValue (first ++ last) =
      Nat.pow 10 last.length * digitsValue first + digitsValue last := by
  simp only [digitsValue_eq_ofDigitChars, Nat.ofDigitChars_append]
  exact Nat.ofDigitChars_eq_ofDigitChars_zero

@[simp]
theorem digitsValue_zeros (count : Nat) : digitsValue (List.replicate count '0') = 0 := by
  rw [digitsValue_eq_ofDigitChars, Nat.ofDigitChars_replicate_zero, Nat.mul_zero]

theorem digitsValue_append_zeros (digits : List Char) (count : Nat) :
    digitsValue (digits ++ List.replicate count '0') = Nat.pow 10 count * digitsValue digits := by
  rw [digitsValue_append, digitsValue_zeros, List.length_replicate, Nat.add_zero]

theorem digitsValue_zeros_append (count : Nat) (digits : List Char) :
    digitsValue (List.replicate count '0' ++ digits) = digitsValue digits := by
  rw [digitsValue_append, digitsValue_zeros, Nat.mul_zero, Nat.zero_add]

theorem digitsValue_cons (c : Char) (digits : List Char) :
    digitsValue (c :: digits) =
      Nat.pow 10 digits.length * digitValue c + digitsValue digits := by
  have single : digitsValue [c] = digitValue c := by simp [digitsValue]
  rw [← single]
  exact digitsValue_append [c] digits

theorem digitValue_lt {c : Char} (h : c.isDigit) : digitValue c < 10 := by
  have hrange := toNat_of_isDigit h
  have hzero : '0'.toNat = 48 := rfl
  rw [digitValue]
  omega

theorem digitsValue_lt {digits : List Char} (h : ∀ c ∈ digits, c.isDigit) :
    digitsValue digits < Nat.pow 10 digits.length := by
  induction digits with
  | nil => exact Nat.one_pos
  | cons c digits ih =>
    have others := ih fun d hd => h d (List.mem_cons_of_mem _ hd)
    have hc : digitValue c + 1 ≤ 10 := digitValue_lt (h c (List.mem_cons_self ..))
    rw [digitsValue_cons]
    calc Nat.pow 10 digits.length * digitValue c + digitsValue digits
        < Nat.pow 10 digits.length * (digitValue c + 1) := by
          rw [Nat.mul_add_one]
          omega
      _ ≤ Nat.pow 10 digits.length * 10 := Nat.mul_le_mul_left _ hc

theorem ne_of_isDigit {c other : Char} (h : c.isDigit) (hother : other.isDigit = false) :
    c ≠ other := by
  rintro rfl
  rw [h] at hother
  cases hother

theorem takeDigits_of_head {digits rest : List Char} (hdigits : ∀ c ∈ digits, c.isDigit)
    (hrest : rest.head?.any Char.isDigit = false) :
    takeDigits (digits ++ rest) = (digits, rest) := by
  rw [takeDigits, List.takeWhile_append_of_pos hdigits, List.dropWhile_append_of_pos hdigits]
  cases rest with
  | nil => simp
  | cons c rest =>
    have hc : ¬ c.isDigit := by simpa using hrest
    rw [List.takeWhile_cons_of_neg hc, List.dropWhile_cons_of_neg hc, List.append_nil]

theorem takeDigits_of_forall {digits : List Char} (h : ∀ c ∈ digits, c.isDigit) :
    takeDigits digits = (digits, []) := by
  have all := takeDigits_of_head h (show ([] : List Char).head?.any Char.isDigit = false from rfl)
  rwa [List.append_nil] at all

/-! ### Numerals -/

structure WrittenExponent where
  negative : Bool
  digits : List Char
  digits_ne_nil : digits ≠ []
  isDigit_digits : ∀ c ∈ digits, c.isDigit

structure WrittenNumeral where
  negative : Bool
  whole : List Char
  fraction : List Char
  exponent : Option WrittenExponent
  whole_ne_nil : whole ≠ []
  isDigit_whole : ∀ c ∈ whole, c.isDigit
  whole_start : whole.length = 1 ∨ whole.head? ≠ some '0'
  isDigit_fraction : ∀ c ∈ fraction, c.isDigit

/-! ### Reading the parts of a numeral -/

def WrittenNumeral.fractionText (digits : List Char) : List Char :=
  if digits = [] then [] else '.' :: digits

namespace Decimal

open WrittenNumeral

variable {whole fraction rest : List Char} {exponent : Int}

theorem takeSign_digit {c : Char} (h : c.isDigit) (others : List Char) :
    takeSign (c :: others) = (false, c :: others) := by
  have hminus : c ≠ '-' := ne_of_isDigit h rfl
  have hplus : c ≠ '+' := ne_of_isDigit h rfl
  unfold takeSign
  split <;> simp_all

theorem takeSign_signText (negative : Bool) (hwhole : ∀ c ∈ whole, c.isDigit) (hne : whole ≠ [])
    (after : List Char) :
    takeSign (Double.signText negative ++ (whole ++ after)) = (negative, whole ++ after) := by
  obtain ⟨c, others, rfl⟩ := List.exists_cons_of_ne_nil hne
  cases negative with
  | true => rfl
  | false => exact takeSign_digit (hwhole c (List.mem_cons_self ..)) _

/-- Whether there is a minus is seen at the first character. -/
theorem head?_signText (negative : Bool) (hwhole : ∀ c ∈ whole, c.isDigit) (hne : whole ≠ [])
    (after : List Char) :
    ((Double.signText negative ++ (whole ++ after)).head? == some '-') = negative := by
  obtain ⟨c, others, rfl⟩ := List.exists_cons_of_ne_nil hne
  have hminus : c ≠ '-' := ne_of_isDigit (hwhole c (List.mem_cons_self ..)) rfl
  cases negative <;> simp [Double.signText, hminus]

theorem tail_signText (negative : Bool) (body : List Char) :
    (if negative then (Double.signText negative ++ body).tail
      else Double.signText negative ++ body) = body := by
  cases negative <;> rfl

/-- Nothing that may stand after the digits starts with a digit or a point. -/
theorem head?_of_readExponent? (h : readExponent? rest = some exponent) :
    rest.head?.any Char.isDigit = false ∧ rest.head? ≠ some '.' := by
  cases rest with
  | nil => exact ⟨rfl, by simp⟩
  | cons c rest =>
    have mark : c = 'e' ∨ c = 'E' := by
      refine Classical.byContradiction fun hne => ?_
      have hne : ¬ (c = 'e' || c = 'E') := by simpa using hne
      rw [readExponent?, if_neg hne] at h
      cases h
    rcases mark with rfl | rfl <;> exact ⟨rfl, by simp⟩

theorem takeDigits_whole (hwhole : ∀ c ∈ whole, c.isDigit)
    (hrest : readExponent? rest = some exponent) (fraction : List Char) :
    takeDigits (whole ++ (fractionText fraction ++ rest)) =
      (whole, fractionText fraction ++ rest) := by
  refine takeDigits_of_head hwhole ?_
  unfold fractionText
  split
  · exact (head?_of_readExponent? hrest).1
  · rfl

theorem takeFraction_fractionText (hfraction : ∀ c ∈ fraction, c.isDigit)
    (hrest : readExponent? rest = some exponent) :
    takeFraction (fractionText fraction ++ rest) = (fraction, rest) := by
  obtain ⟨no_digit, no_point⟩ := head?_of_readExponent? hrest
  unfold fractionText
  split
  · next none =>
    rw [none, List.nil_append]
    cases rest with
    | nil => rfl
    | cons c rest =>
      have hc : c ≠ '.' := by simpa using no_point
      unfold takeFraction
      split <;> simp_all
  · exact takeDigits_of_head hfraction no_digit

/-- A sign, digits, a point with digits and an exponent are read as the number that they denote. -/
theorem read?_parts (negative : Bool) (hwhole : ∀ c ∈ whole, c.isDigit) (hne : whole ≠ [])
    (hfraction : ∀ c ∈ fraction, c.isDigit) (hrest : readExponent? rest = some exponent) :
    read? (Double.signText negative ++ (whole ++ (fractionText fraction ++ rest))) =
      some ⟨negative, digitsValue (whole ++ fraction), exponent - fraction.length⟩ := by
  have some_digit : (whole.isEmpty && fraction.isEmpty) = false := by
    rw [List.isEmpty_eq_false_iff.mpr hne, Bool.false_and]
  simp only [read?, takeSign_signText negative hwhole hne, takeDigits_whole hwhole hrest,
    takeFraction_fractionText hfraction hrest, some_digit, hrest, Bool.false_eq_true, if_false,
    Option.map_some]

end Decimal

/-! ### Reading a numeral -/

namespace WrittenExponent

def text (e : WrittenExponent) : List Char :=
  'e' :: (if e.negative then '-' else '+') :: e.digits

def value (e : WrittenExponent) : Int := Double.signed e.negative (digitsValue e.digits)

theorem readExponent?_text (e : WrittenExponent) :
    Decimal.readExponent? e.text = some e.value := by
  obtain ⟨negative, digits, nonempty, isDigit⟩ := e
  have read := takeDigits_of_forall isDigit
  match digits with
  | c :: digits =>
    cases negative <;> simp [text, Decimal.readExponent?, Decimal.takeSign, read, value]

end WrittenExponent

namespace WrittenNumeral

def exponentText : Option WrittenExponent → List Char
  | none => []
  | some e => e.text

def unsigned (n : WrittenNumeral) : List Char :=
  n.whole ++ (fractionText n.fraction ++ exponentText n.exponent)

def text (n : WrittenNumeral) : List Char := Double.signText n.negative ++ n.unsigned

/-- There is neither a point nor an exponent. -/
def IsInteger (n : WrittenNumeral) : Prop := n.fraction = [] ∧ n.exponent = none

def decimal (n : WrittenNumeral) : Decimal :=
  ⟨n.negative, digitsValue (n.whole ++ n.fraction),
    (n.exponent.elim 0 WrittenExponent.value) - n.fraction.length⟩

variable (n : WrittenNumeral)

theorem exists_whole_eq_cons : ∃ c others, n.whole = c :: others ∧ c.isDigit := by
  obtain ⟨c, others, heq⟩ := List.exists_cons_of_ne_nil n.whole_ne_nil
  exact ⟨c, others, heq, n.isDigit_whole c (by rw [heq]; exact List.mem_cons_self ..)⟩

theorem readExponent?_exponentText :
    Decimal.readExponent? (exponentText n.exponent) =
      some (n.exponent.elim 0 WrittenExponent.value) := by
  cases n.exponent with
  | none => rfl
  | some e => exact e.readExponent?_text

theorem takeDigits_unsigned :
    takeDigits n.unsigned = (n.whole, fractionText n.fraction ++ exponentText n.exponent) :=
  Decimal.takeDigits_whole n.isDigit_whole n.readExponent?_exponentText _

theorem takeFraction_text :
    Decimal.takeFraction (fractionText n.fraction ++ exponentText n.exponent) =
      (n.fraction, exponentText n.exponent) :=
  Decimal.takeFraction_fractionText n.isDigit_fraction n.readExponent?_exponentText

/-- A written numeral is read as the number that it denotes. -/
theorem read?_text : Decimal.read? n.text = some n.decimal :=
  Decimal.read?_parts _ n.isDigit_whole n.whole_ne_nil n.isDigit_fraction
    n.readExponent?_exponentText

end WrittenNumeral

end Bulletin
