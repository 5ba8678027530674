import Bulletin.Proofs.Number.WrittenNumbers
import Bulletin.Proofs.Value.Places

/-!
# Numbers alone and inside of values

In rendered text, a number alone is written as a double, and inside of a list or a mapping an
integer is written as it is. For doubles the two texts denote one number. For integers they do so up
to `2 ^ 53` and at the doubles beyond, but not in between; and from `10 ^ 21` on, only if the fewest
digits of the double already denote the integer.
-/

namespace Bulletin

namespace Value

/-- A number is written as the same number alone and inside of a list or a mapping. -/
def PrintsAlike (v : Value) : Prop := SameNumber v.rendered.toList v.partText

theorem rendered_int (n : ℤ) : (Value.int n).rendered.toList = (Double.ofInt n).plainText := by
  rw [rendered, naturalText]
  exact String.toList_ofList

theorem rendered_double (x : Double) : (Value.double x).rendered.toList = x.plainText := by
  rw [rendered, naturalText]
  exact String.toList_ofList

theorem partText_double {x : Double} (h : x.isFinite) :
    (Value.double x).partText =
      match x.toSmallInt? with
      | some n => intText n
      | none => x.fullText := by
  rw [partText, document, if_pos h]
  cases x.toSmallInt? <;> rfl

/-- A finite double is written as one number, however it is written. -/
theorem printsAlike_double {x : Double} (h : x.isFinite) : PrintsAlike (.double x) := by
  rw [PrintsAlike, rendered_double, partText_double h]
  cases small : x.toSmallInt? with
  | some n =>
    rw [Double.plainText_of_toSmallInt? small]
    exact ⟨.ofInt n, .ofInt n, WrittenNumeral.text_ofInt n, WrittenNumeral.text_ofInt n, rfl⟩
  | none =>
    cases x with
    | finite negative units bounded =>
      obtain ⟨nonzero, text⟩ := Double.plainText_of_toSmallInt?_eq_none small
      obtain ⟨m, hm, valueM⟩ := Double.exists_numeral .plain negative bounded nonzero
      obtain ⟨n, hn, valueN⟩ := Double.exists_numeral .full negative bounded nonzero
      rw [text, Double.fullText, if_neg nonzero]
      exact ⟨m, n, hm, hn, valueM.trans valueN.symm⟩
    | _ => cases h

/-! ### Integers -/

theorem partText_int (n : ℤ) : (Value.int n).partText = intText n := by
  rw [partText, document, Json.write]

open Double in
/-- The double nearest to an integer is written digit by digit, or it is too large for that. -/
theorem printsAlike_int_of_toSmallInt? {n k : ℤ} (h : (ofInt n).toSmallInt? = some k) :
    PrintsAlike (.int n) ↔ IsDouble n := by
  rw [PrintsAlike, rendered_int, plainText_of_toSmallInt? h, partText_int,
    ← WrittenNumeral.text_ofInt, ← WrittenNumeral.text_ofInt, sameNumber_iff,
    WrittenNumeral.value_ofInt, WrittenNumeral.value_ofInt, Int.cast_inj, isDouble_int_iff]
  have exact := (of_toSmallInt? h).1
  constructor
  · rintro rfl
    exact exact
  · intro same
    rw [eqInt_iff] at exact same
    exact Int.cast_inj.mp (Quantity.rational.inj (Option.some.inj (exact.symm.trans same)))

open Double in
theorem printsAlike_int_of_toSmallInt?_eq_none {n : ℤ} {negative : Bool} {units : Nat}
    {bounded : Fits units ∧ units < overflowUnits}
    (finite : ofInt n = .finite negative units bounded)
    (h : (Double.finite negative units bounded).toSmallInt? = none) :
    PrintsAlike (.int n) ↔ ((Digits.shortest units).decimal negative).value = n := by
  obtain ⟨nonzero, text⟩ := plainText_of_toSmallInt?_eq_none h
  obtain ⟨m, hm, value⟩ := exists_numeral .plain negative bounded nonzero
  rw [PrintsAlike, rendered_int, finite, text, partText_int, ← hm, ← WrittenNumeral.text_ofInt,
    sameNumber_iff, value, WrittenNumeral.value_ofInt]

/-- An infinity has no numeral. -/
theorem not_printsAlike_int {n : ℤ} {negative : Bool}
    (infinite : Double.ofInt n = .infinite negative) : ¬ PrintsAlike (.int n) := by
  rintro ⟨m, -, text, -⟩
  have read := m.read?_text
  have no_numeral : ∀ b, Decimal.read? (Double.infinite b).plainText = none := by decide
  rw [text, rendered_int, infinite, no_numeral] at read
  cases read

open Double in
/-- Below `10 ^ 21`, an integer is written alike if it is a double. -/
theorem printsAlike_int_of_lt {n : ℤ} (h : |n| < 10 ^ 21) : PrintsAlike (.int n) ↔ IsDouble n := by
  cases hx : ofInt n with
  | nan => exact absurd hx (ofInt_ne_nan n)
  | infinite negative =>
    refine iff_of_false (not_printsAlike_int hx) ?_
    rw [isDouble_int_iff, hx]
    exact Bool.false_ne_true
  | finite negative units bounded =>
    cases small : (ofInt n).toSmallInt? with
    | some k => exact printsAlike_int_of_toSmallInt? small
    | none =>
      -- Rounding has gone up to a power of ten that no integer below it is written as.
      have large := (toSmallInt?_eq_none_iff hx).mp small
      rw [hx] at small
      rw [printsAlike_int_of_toSmallInt?_eq_none hx small]
      refine iff_of_false (fun value => ?_) (fun exact => ?_)
      · have magnitude := le_abs_value_shortest negative bounded large
        rw [value, ← Int.cast_abs] at magnitude
        exact absurd magnitude (not_le.mpr (by exact_mod_cast h))
      · rw [isDouble_int_iff, hx] at exact
        rw [← units_of_eqInt exact] at large
        have le := Nat.le_of_mul_le_mul_right large unitsPerOne_pos
        rw [Int.abs_eq_natAbs] at h
        exact absurd le (Nat.not_le.mpr (by exact_mod_cast h))

open Double in
/-- From `10 ^ 21` on, it is the fewest digits of the nearest double that are written. -/
theorem printsAlike_int_of_le {n : ℤ} {negative : Bool} {units : Nat}
    {bounded : Fits units ∧ units < overflowUnits} (h : 10 ^ 21 ≤ |n|)
    (finite : ofInt n = .finite negative units bounded) :
    PrintsAlike (.int n) ↔ ((Digits.shortest units).decimal negative).value = n := by
  have large : Nat.pow 10 21 * unitsPerOne ≤ units := by
    have magnitude : Nat.pow 10 21 ≤ n.natAbs := by
      rw [Int.abs_eq_natAbs] at h
      exact_mod_cast h
    rw [units_of_ofInt finite, ← sextillion_units]
    exact roundBits_mono_left Nat.one_pos (Nat.mul_le_mul_right _
      (Nat.le_trans (Nat.le_of_eq (Nat.one_mul _)) magnitude))
  have small := (toSmallInt?_eq_none_iff finite).mpr large
  rw [finite] at small
  exact printsAlike_int_of_toSmallInt?_eq_none finite small

/-- The numbers of which the text alone is exact: every finite double, an integer below `10 ^ 21` if
it is a double, and one from there on if the fewest digits of the nearest double are all it has. -/
inductive PrintsExactly : Value → Prop where
  | double {x : Double} (finite : x.isFinite) : PrintsExactly (.double x)
  | short {n : ℤ} (below : |n| < 10 ^ 21) (exact : IsDouble n) : PrintsExactly (.int n)
  | long {n : ℤ} {negative : Bool} {units : Nat} {bounded : Fits units ∧ units < overflowUnits}
      (beyond : 10 ^ 21 ≤ |n|) (nearest : Double.ofInt n = .finite negative units bounded)
      (digits : ((Digits.shortest units).decimal negative).value = n) : PrintsExactly (.int n)

theorem printsExactly_int {n : ℤ} (h : |n| ≤ 2 ^ 53) : PrintsExactly (.int n) :=
  .short (h.trans_lt (by decide)) (isDouble_int h)

theorem printsAlike_int_iff (n : ℤ) : PrintsAlike (.int n) ↔ PrintsExactly (.int n) := by
  rcases lt_or_ge |n| (10 ^ 21) with below | beyond
  · rw [printsAlike_int_of_lt below]
    refine ⟨.short below, fun h => ?_⟩
    cases h with
    | short _ exact => exact exact
    | long beyond => exact absurd below (not_lt.mpr beyond)
  · constructor
    · intro alike
      cases nearest : Double.ofInt n with
      | nan => exact absurd nearest (Double.ofInt_ne_nan n)
      | infinite negative => exact absurd alike (not_printsAlike_int nearest)
      | finite negative units bounded =>
        exact .long beyond nearest ((printsAlike_int_of_le beyond nearest).mp alike)
    · intro h
      cases h with
      | short below => exact absurd below (not_lt.mpr beyond)
      | long _ nearest digits => exact (printsAlike_int_of_le beyond nearest).mpr digits

def IsFiniteNumber : Value → Prop
  | .int _ => True
  | .double x => x.isFinite
  | _ => False

/-- A number inside of lists and mappings has a text of its own, at a place of the whole that does
not depend on it. This and the text of the number alone are numerals of one number exactly if the
latter is exact. -/
theorem numbers_print_alike (outer : Place) (inner : List Place) :
    ∃ front back, ∀ v : Value, v.IsFiniteNumber →
      (surround (outer :: inner) v).rendered.toList = front ++ (v.partText ++ back) ∧
        (v.PrintsAlike ↔ v.PrintsExactly) := by
  obtain ⟨front, back, place⟩ := exists_rendered outer inner
  refine ⟨front, back, fun v number => ?_⟩
  cases v with
  | int n => exact ⟨place _ rfl, printsAlike_int_iff n⟩
  | double x => exact ⟨place _ rfl, iff_of_true (printsAlike_double number) (.double number)⟩
  | _ => cases number

/-- A double with a text of its own in either place, and an integer at each of the bounds, all
inside of one list in a mapping. -/
theorem numbers_print_alike_at_bounds :
    ∃ front back, ∀ v ∈ [Value.double (Decimal.toDouble ⟨false, 1, -5⟩), .int (2 ^ 53),
        .int (2 ^ 53 + 2), .int (10 ^ 22)],
      (surround [.entry (.object 0) [] (.str "k") [] (by simp),
        .item (.object 1) [.null] []] v).rendered.toList = front ++ (v.partText ++ back) ∧
        v.PrintsAlike := by
  obtain ⟨front, back, alike⟩ := numbers_print_alike
    (.entry (.object 0) [] (.str "k") [] (by simp)) [.item (.object 1) [.null] []]
  have alike_of {v : Value} (number : v.IsFiniteNumber) (h : v.PrintsExactly) :=
    (alike v number).imp_right fun iff => iff.mpr h
  refine ⟨front, back, List.forall_mem_cons.mpr ⟨?_, List.forall_mem_cons.mpr ⟨?_,
    List.forall_mem_cons.mpr ⟨?_, List.forall_mem_singleton.mpr ?_⟩⟩⟩⟩
  · have finite : (Decimal.toDouble ⟨false, 1, -5⟩).isFinite := by decide +kernel
    exact alike_of finite (.double finite)
  · exact alike_of trivial (printsExactly_int (by decide))
  · exact alike_of trivial (.short (by decide) (Double.isDouble_int_iff.mpr (by decide +kernel)))
  · have digits :
        (Digits.shortest (Nat.pow 10 22 * unitsPerOne)).decimal false = ⟨false, 1, 22⟩ := by
      decide +kernel
    have nearest : Double.ofInt (10 ^ 22) =
        .finite false (Nat.pow 10 22 * unitsPerOne) (by decide +kernel) := by decide +kernel
    refine alike_of trivial (.long (by decide) nearest ?_)
    rw [digits]
    norm_num [Decimal.value, Double.signed]

/-- The first integer that is no double is written as another one alone. -/
theorem not_printsAlike_rounded :
    (Value.int 9007199254740993).rendered = "9007199254740992" ∧
      (Value.list (.object 0) [.int 9007199254740993]).rendered = "[9007199254740993]" ∧
      ¬ PrintsAlike (.int 9007199254740993) := by
  refine ⟨by decide +kernel, by decide +kernel, ?_⟩
  rw [printsAlike_int_of_lt (by decide), Double.isDouble_int_iff]
  decide +kernel

end Value

end Bulletin
