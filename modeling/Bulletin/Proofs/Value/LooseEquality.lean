import Bulletin.Expr.Token
import Bulletin.Proofs.Value.StrictEquality

/-!
# Loose equality

The operator `==` takes texts that are plain numerals as numbers, and then compares loosely. It is
symmetric, NaN alone does not equal itself, and it cannot tell strictly equal values apart. The last
needs that an identity stands for one object: strict equality sees the identity of a list, loose
equality its text.

Once numerals are taken as numbers, strictly equal values are one object, one value, or numbers of
one quantity. Loose equality sees a number as the double nearest to it. An integer that equals a
double exactly is seen as that double, so numbers of one quantity are seen alike.
-/

namespace Bulletin

namespace Value

variable {a b : Value}

/-! ### Which comparison is made -/

/-- A boolean on either side, or two numeric-like values, compare as numbers. -/
theorem looseEq_eq_toNumber (notNil : (a.isNil && b.isNil) = false)
    (h : (a.isBool || b.isBool) ∨ (a.isNumericLike && b.isNumericLike)) :
    a.looseEq b = a.toNumber.eq b.toNumber := by
  rw [looseEq, notNil, if_neg Bool.false_ne_true]
  split
  · rfl
  · next notBool => rw [if_pos (h.resolve_left notBool)]

/-- Anything else is compared as it is, and by its natural text. -/
theorem looseEq_eq_identical (notNil : (a.isNil && b.isNil) = false)
    (notBool : (a.isBool || b.isBool) = false)
    (notNumeric : (a.isNumericLike && b.isNumericLike) = false) :
    a.looseEq b = (identical a b || naturalText a == naturalText b) := by
  simp only [looseEq, notNil, notBool, notNumeric, Bool.false_eq_true, if_false]

theorem identical_swap (a b : Value) : identical a b = identical b a := by
  cases a <;> cases b <;>
    first
    | rfl
    | exact Bool.beq_comm
    | exact Double.eq_swap _ _

theorem looseEq_swap (a b : Value) : a.looseEq b = b.looseEq a := by
  simp only [looseEq]
  rw [Bool.and_comm a.isNil, Bool.or_comm a.isBool, Bool.and_comm a.isNumericLike,
    Double.eq_swap a.toNumber, identical_swap a b, Bool.beq_comm (a := a.naturalText)]

theorem coerceNumeral_of_ne_text (h : a.kind ≠ .text) : a.coerceNumeral = a := by
  cases a <;> first | rfl | exact absurd rfl h

theorem identical_of_ne_text (h : a.kind ≠ .text) (b : Value) : identical a b = a.strictEq b := by
  cases a <;> first | rfl | exact absurd rfl h

/-! ### Numbers of one quantity -/

section Numbers

variable {q : Quantity}

theorem kind_of_quantity? (h : a.quantity? = some q) : a.kind = .number := by
  cases a <;> first | rfl | cases h

/-- What loose equality asks of a value before it compares, for numbers. -/
theorem tests_of_number (h : a.kind = .number) :
    a.isNil = false ∧ a.isBool = false ∧ a.isNumericLike = true := by
  cases a <;> first | exact ⟨rfl, rfl, rfl⟩ | cases h

theorem naturalText_of_number (h : a.kind = .number) :
    a.naturalText = String.ofList a.toNumber.plainText := by
  cases a with
  | int n => simp only [naturalText, toNumber]
  | double x => simp only [naturalText, toNumber]
  | _ => cases h

/-- Numbers of one quantity are taken as equal doubles. -/
theorem toNumber_eq_of_quantity? (ha : a.quantity? = some q) (hb : b.quantity? = some q) :
    a.toNumber.eq b.toNumber := by
  cases a with
  | int m =>
    obtain rfl : Quantity.rational m = q := Option.some.inj ha
    cases b with
    | int n =>
      obtain rfl : n = m := by simpa [quantity?] using hb
      exact Double.eq_self_iff.mpr (Double.ofInt_ne_nan n)
    | double y => exact Double.ofInt_eq_of_eqInt (Double.eqInt_iff.mpr hb)
    | _ => cases hb
  | double x =>
    cases b with
    | int n =>
      obtain rfl : Quantity.rational n = q := Option.some.inj hb
      rw [Double.eq_swap]
      exact Double.ofInt_eq_of_eqInt (Double.eqInt_iff.mpr ha)
    | double y => exact Double.eq_of_quantity? ha hb
    | _ => cases hb
  | _ => cases ha

/-- Numbers of one quantity are loosely equal to the same values. -/
theorem looseEq_congr_of_quantity? (ha : a.quantity? = some q) (hb : b.quantity? = some q)
    (c : Value) : a.looseEq c = b.looseEq c := by
  have numberA := kind_of_quantity? ha
  have numberB := kind_of_quantity? hb
  have same := toNumber_eq_of_quantity? ha hb
  have text : a.naturalText = b.naturalText := by
    rw [naturalText_of_number numberA, naturalText_of_number numberB, Double.plainText_congr same]
  have object : identical a c = identical b c := by
    have notTextA : a.kind ≠ .text := by rw [numberA]; decide
    have notTextB : b.kind ≠ .text := by rw [numberB]; decide
    rw [identical_of_ne_text notTextA, identical_of_ne_text notTextB, Bool.eq_iff_iff,
      strictEq_number numberA, strictEq_number numberB, ha, hb]
  obtain ⟨nilA, boolA, numericA⟩ := tests_of_number numberA
  obtain ⟨nilB, boolB, numericB⟩ := tests_of_number numberB
  simp only [looseEq, nilA, nilB, boolA, boolB, numericA, numericB, Double.eq_congr same, object,
    text]

end Numbers

/-! ### Objects -/

def identity? : Value → Option Identity
  | .list identity _ => some identity
  | .mapping identity _ => some identity
  | .date identity _ => some identity
  | _ => none

/-- An object is the one that its identity stands for. Any other value is among all objects. -/
def IsAmong (objects : Identity → Value) (v : Value) : Prop :=
  ∀ identity, v.identity? = some identity → objects identity = v

/-- Strictly equal values are one object, one value, or numbers of one quantity. -/
theorem strictEq_cases (h : a.strictEq b) :
    (∃ identity, a.identity? = some identity ∧ b.identity? = some identity) ∨
      a.coerceNumeral = b.coerceNumeral ∨
      ∃ q, a.coerceNumeral.quantity? = some q ∧ b.coerceNumeral.quantity? = some q := by
  have same := kind_eq_of_strictEq h
  by_cases number : a.kind = .number
  · refine .inr (.inr ?_)
    have notText : a.kind ≠ .text := by rw [number]; decide
    rw [coerceNumeral_of_ne_text notText, coerceNumeral_of_ne_text (same ▸ notText)]
    exact (strictEq_number number b).mp h
  · cases a <;> cases b <;>
      first | exact Kind.noConfusion same | exact absurd rfl number | skip
    case null.null | undefined.undefined => exact .inr (.inl rfl)
    case bool.bool b b' =>
      obtain rfl : b = b' := beq_iff_eq.mp h
      exact .inr (.inl rfl)
    case str.str s t =>
      simp only [strictEq, coerceNumeral] at h ⊢
      cases hs : plainNumeral? s with
      | some x =>
        cases ht : plainNumeral? t with
        | some y =>
          rw [hs, ht] at h
          exact .inr (.inr (Double.eq_iff.mp h))
        | none =>
          rw [hs, ht] at h
          obtain rfl : s = t := beq_iff_eq.mp h
          exact absurd (hs.symm.trans ht) (by simp)
      | none =>
        rw [hs] at h
        obtain rfl : s = t := beq_iff_eq.mp h
        exact .inr (.inl (by rw [hs]))
    all_goals
      refine .inl ⟨_, rfl, ?_⟩
      exact congrArg some (beq_iff_eq.mp h).symm

section Objects

variable {i j : Identity}

theorem tests_of_identity? (h : a.identity? = some i) :
    a.isNil = false ∧ a.isBool = false ∧ a.isNumericLike = false := by
  cases a <;> first | exact ⟨rfl, rfl, rfl⟩ | cases h

theorem kind_of_identity? (h : a.identity? = some i) : a.kind ≠ .text := by
  cases a <;> first | exact Kind.noConfusion | cases h

theorem looseEq_of_identity? (ha : a.identity? = some i) (hb : b.identity? = some j)
    (h : identical a b) : a.looseEq b := by
  obtain ⟨nilA, boolA, numericA⟩ := tests_of_identity? ha
  obtain ⟨-, boolB, -⟩ := tests_of_identity? hb
  rw [looseEq_eq_identical (by rw [nilA]; rfl) (by rw [boolA, boolB]; rfl) (by rw [numericA]; rfl),
    h]
  rfl

end Objects

/-! ### Values that equal themselves -/

theorem looseEq_self_of_toNumber (h : a.isBool || a.isNumericLike) (number : a.toNumber ≠ .nan) :
    a.looseEq a := by
  have notNil : a.isNil = false := by cases a <;> first | rfl | cases h
  have compared : (a.isBool || a.isBool) ∨ (a.isNumericLike && a.isNumericLike) := by
    simpa using h
  rw [looseEq_eq_toNumber (by rw [notNil]; rfl) compared]
  exact Double.eq_self_iff.mpr number

theorem looseEq_self (notNaN : a ≠ .double .nan)
    (notNumeral : ∀ s, a = .str s → plainNumeral? s = none) : a.looseEq a := by
  cases a with
  | null | undefined => rfl
  | bool b =>
    refine looseEq_self_of_toNumber rfl ?_
    cases b with
    | false => exact Double.noConfusion
    | true =>
      simp only [toNumber, if_true]
      exact Double.one_ne_nan
  | int n => exact looseEq_self_of_toNumber rfl (Double.ofInt_ne_nan n)
  | double x => exact looseEq_self_of_toNumber rfl fun nan => notNaN (congrArg Value.double nan)
  | str s =>
    have notNumeric : (Value.str s).isNumericLike = false := by
      simp only [isNumericLike, notNumeral s rfl, Option.isSome_none]
    rw [looseEq_eq_identical rfl rfl (by rw [notNumeric]; rfl)]
    simp [identical]
  | list i _ | mapping i _ | date i _ => exact looseEq_of_identity? rfl rfl (beq_self_eq_true i)

theorem coerceNumeral_eq_nan_iff : a.coerceNumeral = .double .nan ↔ a = .double .nan := by
  cases a with
  | str s =>
    simp only [coerceNumeral, reduceCtorEq, iff_false]
    cases plainNumeral? s with
    | none => exact Value.noConfusion
    | some numeral =>
      intro nan
      have := numeral.isNaN_toDouble
      rw [Value.double.inj nan] at this
      cases this
  | _ => rfl

theorem plainNumeral?_of_coerceNumeral {s : String} (h : a.coerceNumeral = .str s) :
    plainNumeral? s = none := by
  cases a with
  | str t =>
    simp only [coerceNumeral] at h
    cases ht : plainNumeral? t with
    | none =>
      rw [ht] at h
      rw [← Value.str.inj h]
      exact ht
    | some numeral =>
      rw [ht] at h
      cases h
  | _ => cases h

end Value

namespace BinaryOp

/-- NaN alone does not equal itself. -/
theorem equalAsNumerals_self_iff {a : Value} : equalAsNumerals a a ↔ a ≠ .double .nan := by
  constructor
  · rintro h rfl
    cases h
  · intro notNaN
    exact Value.looseEq_self (Value.coerceNumeral_eq_nan_iff.not.mpr notNaN) fun s =>
      Value.plainNumeral?_of_coerceNumeral

/-- Strictly equal values are equal to the same values, if an identity stands for one object. -/
theorem equalAsNumerals_congr {objects : Identity → Value} {a a' : Value}
    (ha : a.IsAmong objects) (ha' : a'.IsAmong objects) (h : a.strictEq a') (b : Value) :
    equalAsNumerals a b = equalAsNumerals a' b := by
  rcases Value.strictEq_cases h with ⟨identity, hi, hi'⟩ | same | ⟨q, hq, hq'⟩
  · rw [← ha identity hi, ← ha' identity hi']
  · rw [equalAsNumerals, same, equalAsNumerals]
  · exact Value.looseEq_congr_of_quantity? hq hq' _

theorem equalAsNumerals_of_strictEq {a b : Value} (h : a.strictEq b) : equalAsNumerals a b := by
  have self : equalAsNumerals b b := by
    refine equalAsNumerals_self_iff.mpr ?_
    rintro rfl
    obtain ⟨e, -, he⟩ := Value.strictEq_iff.mp h
    cases he
  rcases Value.strictEq_cases h with ⟨identity, hi, hi'⟩ | same | ⟨q, hq, hq'⟩
  · have object : Value.identical a b := by
      rwa [Value.identical_of_ne_text (Value.kind_of_identity? hi)]
    rw [equalAsNumerals, Value.coerceNumeral_of_ne_text (Value.kind_of_identity? hi),
      Value.coerceNumeral_of_ne_text (Value.kind_of_identity? hi')]
    exact Value.looseEq_of_identity? hi hi' object
  · rwa [equalAsNumerals, same]
  · rwa [equalAsNumerals, Value.looseEq_congr_of_quantity? hq hq']

/-- The operator `==` is symmetric, and NaN alone does not equal itself. Values that are strictly
equal are equal to the same values, and to each other. -/
theorem equalAsNumerals_respects_strictEq (a a' b : Value) :
    (equalAsNumerals a b = equalAsNumerals b a) ∧
      (equalAsNumerals a a ↔ a ≠ .double .nan) ∧
      (∀ objects, a.IsAmong objects → a'.IsAmong objects → a.strictEq a' →
        equalAsNumerals a b = equalAsNumerals a' b) ∧
      (a.strictEq b → equalAsNumerals a b) :=
  ⟨Value.looseEq_swap _ _, equalAsNumerals_self_iff,
    fun _ ha ha' h => equalAsNumerals_congr ha ha' h b, equalAsNumerals_of_strictEq⟩

/-- Two spellings of one number are equal to the same list, also to one written like the first. -/
theorem equalAsNumerals_spellings_of_number :
    (Value.str "01").strictEq (.str "1.0") ∧
      equalAsNumerals (.str "01") (.list (.object 0) [.str "01"]) =
        equalAsNumerals (.str "1.0") (.list (.object 0) [.str "01"]) := by
  have same : (Value.str "01").strictEq (.str "1.0") := by decide +kernel
  have among (s : String) : (Value.str s).IsAmong fun _ => .null := fun _ object => nomatch object
  obtain ⟨-, -, congr, -⟩ :=
    equalAsNumerals_respects_strictEq (.str "01") (.str "1.0") (.list (.object 0) [.str "01"])
  exact ⟨same, congr _ (among "01") (among "1.0") same⟩

/-- Loose equality by itself tells the spellings apart. -/
example : (Value.str "01").looseEq (.list (.object 0) [.str "01"]) = true ∧
    (Value.str "1.0").looseEq (.list (.object 0) [.str "01"]) = false := by decide +kernel

end BinaryOp

end Bulletin
