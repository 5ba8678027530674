import Bulletin.Proofs.Number.Plain
import Bulletin.Proofs.Value.LooseEquality

/-!
# Loose equality of numerals

The operator `==` takes texts that are plain numerals as numbers before it compares loosely. Loose
equality by itself already does so against a boolean, a number or another such text. The two differ
only where a text that is a plain numeral meets any other value: the operator then compares the text
that the number is written with, and loose equality the text as it stands. So they agree on numerals
that are spelled as their numbers are written.
-/

namespace Bulletin

namespace Value

variable {a b v w : Value} {s : String}

/-! ### What the coercion keeps -/

/-- A text that is a plain numeral becomes the number that it is compared as. -/
theorem coerceNumeral_of_isSome (h : (plainNumeral? s).isSome) :
    (Value.str s).coerceNumeral = .double (Value.str s).toNumber := by
  obtain ⟨numeral, hs⟩ := Option.isSome_iff_exists.mp h
  rw [toNumber_of_plainNumeral? hs]
  simp only [coerceNumeral, hs]

theorem coerceNumeral_of_not_isSome (h : ¬ (plainNumeral? s).isSome) :
    (Value.str s).coerceNumeral = .str s := by
  have hs : plainNumeral? s = none := by simpa using h
  simp only [coerceNumeral, hs]

theorem coerceNumeral_of_not_numericLike (h : w.isNumericLike = false) : w.coerceNumeral = w := by
  cases w with
  | str s => exact coerceNumeral_of_not_isSome (Bool.not_eq_true _ ▸ h)
  | _ => rfl

/-- The coercion changes nothing but texts that are plain numerals. -/
theorem coerceNumeral_eq_self_or (v : Value) :
    v.coerceNumeral = v ∨ ∃ s, v = .str s ∧ (plainNumeral? s).isSome := by
  cases v with
  | str s =>
    by_cases h : (plainNumeral? s).isSome
    · exact .inr ⟨s, rfl, h⟩
    · exact .inl (coerceNumeral_of_not_isSome h)
  | _ => exact .inl rfl

/-- What loose equality asks of a value is not changed by the coercion. -/
theorem tests_coerceNumeral (v : Value) :
    v.coerceNumeral.isNil = v.isNil ∧ v.coerceNumeral.isBool = v.isBool ∧
      v.coerceNumeral.isNumericLike = v.isNumericLike ∧
      v.coerceNumeral.toNumber = v.toNumber := by
  rcases v.coerceNumeral_eq_self_or with same | ⟨s, rfl, h⟩
  · rw [same]
    exact ⟨rfl, rfl, rfl, rfl⟩
  · rw [coerceNumeral_of_isSome h]
    exact ⟨rfl, rfl, h.symm, rfl⟩

/-! ### Numerals against other values -/

/-- A text is compared with a value that counts as no number by what it says. -/
theorem looseEq_text_iff (notBool : w.isBool = false) (notNumeric : w.isNumericLike = false) :
    (Value.str s).looseEq w ↔ s = w.naturalText := by
  rw [looseEq_eq_identical rfl (by rw [notBool]; rfl) (by rw [notNumeric, Bool.and_false]),
    Bool.or_eq_true, beq_iff_eq]
  refine or_iff_right_of_imp fun same => ?_
  cases w with
  | str t => exact beq_iff_eq.mp same
  | _ => cases same

/-- A number is compared with such a value by the text that it is written with. -/
theorem looseEq_double_iff {x : Double} (notBool : w.isBool = false)
    (notNumeric : w.isNumericLike = false) :
    (Value.double x).looseEq w ↔ String.ofList x.plainText = w.naturalText := by
  rw [looseEq_eq_identical rfl (by rw [notBool]; rfl) (by rw [notNumeric, Bool.and_false]),
    Bool.or_eq_true, beq_iff_eq]
  refine or_iff_right_of_imp fun same => ?_
  cases w with
  | int n => cases notNumeric
  | double y => cases notNumeric
  | _ => cases same

end Value

namespace BinaryOp

/-- One of two values is a text that is a plain numeral. The other one is no boolean, no number and
no such text. -/
inductive MeetsNumeral (s : String) (w : Value) : Value → Value → Prop where
  | left (numeral : (plainNumeral? s).isSome) (notBool : w.isBool = false)
      (notNumeric : w.isNumericLike = false) : MeetsNumeral s w (.str s) w
  | right (numeral : (plainNumeral? s).isSome) (notBool : w.isBool = false)
      (notNumeric : w.isNumericLike = false) : MeetsNumeral s w w (.str s)

variable {a b w : Value} {s : String}

/-- The operator compares the text of the number, and loose equality the text as it stands. -/
theorem equalAsNumerals_of_meetsNumeral (h : MeetsNumeral s w a b) :
    (equalAsNumerals a b ↔ String.ofList (Value.str s).toNumber.plainText = w.naturalText) ∧
      (a.looseEq b ↔ s = w.naturalText) := by
  cases h with
  | left numeral notBool notNumeric =>
    rw [equalAsNumerals, Value.coerceNumeral_of_isSome numeral,
      Value.coerceNumeral_of_not_numericLike notNumeric]
    exact ⟨Value.looseEq_double_iff notBool notNumeric, Value.looseEq_text_iff notBool notNumeric⟩
  | right numeral notBool notNumeric =>
    rw [equalAsNumerals, Value.coerceNumeral_of_isSome numeral,
      Value.coerceNumeral_of_not_numericLike notNumeric, Value.looseEq_swap _ (.double _),
      Value.looseEq_swap _ (.str s)]
    exact ⟨Value.looseEq_double_iff notBool notNumeric, Value.looseEq_text_iff notBool notNumeric⟩

theorem equalAsNumerals_of_not_meetsNumeral (h : ∀ s w, ¬ MeetsNumeral s w a b) :
    equalAsNumerals a b = a.looseEq b := by
  obtain ⟨nilA, boolA, numericA, numberA⟩ := a.tests_coerceNumeral
  obtain ⟨nilB, boolB, numericB, numberB⟩ := b.tests_coerceNumeral
  simp only [equalAsNumerals, Value.looseEq, nilA, boolA, numericA, numberA, nilB, boolB, numericB,
    numberB]
  split
  · rfl
  split
  · rfl
  split
  · rfl
  next notBool notNumeric =>
  -- What is left is compared by identity and by text, so a numeral would meet another value here.
  obtain ⟨notBoolA, notBoolB⟩ : a.isBool = false ∧ b.isBool = false := by simpa using notBool
  rcases a.coerceNumeral_eq_self_or with sameA | ⟨s, rfl, numeral⟩
  · rcases b.coerceNumeral_eq_self_or with sameB | ⟨s, rfl, numeral⟩
    · rw [sameA, sameB]
    · refine absurd (.right numeral notBoolA ?_) (h s a)
      simpa [Value.isNumericLike, numeral] using notNumeric
  · refine absurd (.left numeral notBoolB ?_) (h s b)
    simpa [Value.isNumericLike, numeral] using notNumeric

/-- The value is spelled as its number is written, if it is a text that is a plain numeral. -/
def InOwnSpelling (v : Value) : Prop :=
  ∀ s, v = .str s → (plainNumeral? s).isSome → String.ofList (Value.str s).toNumber.plainText = s

theorem equalAsNumerals_of_inOwnSpelling (ha : InOwnSpelling a) (hb : InOwnSpelling b) :
    equalAsNumerals a b = a.looseEq b := by
  by_cases h : ∃ s w, MeetsNumeral s w a b
  · obtain ⟨s, w, meets⟩ := h
    have own : String.ofList (Value.str s).toNumber.plainText = s := by
      cases meets with
      | left numeral => exact ha s rfl numeral
      | right numeral => exact hb s rfl numeral
    obtain ⟨operator, loose⟩ := equalAsNumerals_of_meetsNumeral meets
    rw [Bool.eq_iff_iff, operator, loose, own]
  · exact equalAsNumerals_of_not_meetsNumeral fun s w meets => h ⟨s, w, meets⟩

/-- The operator `==` is loose equality unless a text that is a plain numeral meets a value that is
no boolean, no number and no such text. There the operator holds if the other value says what the
number of the numeral is written as, and loose equality holds if it says the numeral. So both are
the same on numerals that are spelled as their numbers are written. -/
theorem equalAsNumerals_vs_looseEq (a b : Value) :
    (∀ s w, MeetsNumeral s w a b →
      (equalAsNumerals a b ↔ String.ofList (Value.str s).toNumber.plainText = w.naturalText) ∧
        (a.looseEq b ↔ s = w.naturalText)) ∧
      ((∀ s w, ¬ MeetsNumeral s w a b) → equalAsNumerals a b = a.looseEq b) ∧
      (InOwnSpelling a → InOwnSpelling b → equalAsNumerals a b = a.looseEq b) :=
  ⟨fun _ _ => equalAsNumerals_of_meetsNumeral, equalAsNumerals_of_not_meetsNumeral,
    equalAsNumerals_of_inOwnSpelling⟩

/-- A numeral with a zero in front is loosely equal to a list of that text, but not by `==`. -/
theorem equalAsNumerals_vs_looseEq_of_zero_in_front :
    (Value.str "01").looseEq (.list (.object 0) [.str "01"]) ∧
      ¬ equalAsNumerals (.str "01") (.list (.object 0) [.str "01"]) := by
  have meets : MeetsNumeral "01" (.list (.object 0) [.str "01"]) (.str "01")
      (.list (.object 0) [.str "01"]) := .left (by decide +kernel) rfl rfl
  obtain ⟨operator, loose⟩ := (equalAsNumerals_vs_looseEq _ _).1 _ _ meets
  exact ⟨loose.mpr (by decide +kernel), mt operator.mp (by decide +kernel)⟩

end BinaryOp

end Bulletin
