import Bulletin.Proofs.Number.NearestDouble
import Bulletin.Proofs.Number.Plain
import Bulletin.Value.Operators

/-!
# Strict equality of texts

Texts that are plain numerals are compared as the doubles nearest to their numbers, all other texts
as they are written. So two texts are strictly equal if they are identical, or if they are numerals
with one nearest double. Numerals of one number always are. Numerals of two numbers are told apart
as long as both numbers are doubles themselves, as integers up to `2 ^ 53` are; the next integer is
none.
-/

namespace Bulletin

def SameNearest (p q : ℚ) : Prop := ∃ x : Double, x.IsNearest p ∧ x.IsNearest q

/-- Numbers that are doubles have one nearest double only if they are the same. -/
theorem eq_of_sameNearest {p q : ℚ} (hp : IsDouble p) (hq : IsDouble q) (h : SameNearest p q) :
    p = q := by
  obtain ⟨x, hx⟩ := hp
  obtain ⟨y, hy⟩ := hq
  obtain ⟨z, first, last⟩ := h
  have left : x.eq z := (Double.isNearest_of_quantity? hx).unique first
  have right : z.eq y := last.unique (Double.isNearest_of_quantity? hy)
  rw [← Double.eq_congr left, Double.eq_iff, hx, hy] at right
  obtain ⟨r, isP, isQ⟩ := right
  exact Quantity.rational.inj (Option.some.inj (isP.trans isQ.symm))

theorem Decimal.sameNearest_iff (d e : Decimal) :
    SameNearest d.value e.value ↔ d.toDouble.eq e.toDouble := by
  constructor
  · rintro ⟨x, first, last⟩
    rw [Double.eq_congr (d.isNearest_toDouble.unique first)]
    exact last.unique e.isNearest_toDouble
  · intro same
    exact ⟨_, d.isNearest_toDouble.of_eq same, e.isNearest_toDouble⟩

namespace PlainNumeral

def value (n : PlainNumeral) : ℚ := n.decimal.value

theorem plainNumeral?_text (n : PlainNumeral) :
    plainNumeral? (String.ofList n.text) = some n.decimal := by
  rw [plainNumeral?, String.toList_ofList, n.readPlain?_text]

end PlainNumeral

/-- Two texts are identical, or they are plain numerals whose numbers are related. -/
inductive AgreeAsNumerals (related : ℚ → ℚ → Prop) : String → String → Prop where
  | identical (s : String) : AgreeAsNumerals related s s
  | numerals {m n : PlainNumeral} (h : related m.value n.value) :
    AgreeAsNumerals related (String.ofList m.text) (String.ofList n.text)

theorem agreeAsNumerals_iff {related : ℚ → ℚ → Prop} {s t : String} :
    AgreeAsNumerals related s t ↔ s = t ∨ ∃ d e, plainNumeral? s = some d ∧
      plainNumeral? t = some e ∧ related d.value e.value := by
  constructor
  · intro h
    cases h with
    | identical => exact .inl rfl
    | @numerals m n h =>
      exact .inr ⟨m.decimal, n.decimal, m.plainNumeral?_text, n.plainNumeral?_text, h⟩
  · rintro (rfl | ⟨d, e, hs, ht, h⟩)
    · exact .identical s
    · obtain ⟨m, hm, rfl⟩ := PlainNumeral.exists_of_readPlain? hs
      obtain ⟨n, hn, rfl⟩ := PlainNumeral.exists_of_readPlain? ht
      rw [← String.ofList_toList (s := s), ← String.ofList_toList (s := t), ← hm, ← hn]
      exact .numerals h

namespace Value

theorem strictEq_iff_agree (s t : String) :
    strictEq (.str s) (.str t) ↔ AgreeAsNumerals SameNearest s t := by
  rw [agreeAsNumerals_iff]
  cases hs : plainNumeral? s with
  | none => simp [strictEq, hs]
  | some d =>
    cases ht : plainNumeral? t with
    | none => simp [strictEq, hs, ht]
    | some e =>
      simp only [strictEq, hs, ht, ← Decimal.sameNearest_iff, Option.some.injEq, exists_and_left,
        exists_eq_left']
      refine ⟨.inr, fun h => h.elim ?_ id⟩
      rintro rfl
      cases hs.symm.trans ht
      exact ⟨_, d.isNearest_toDouble, d.isNearest_toDouble⟩

/-- Two texts are strictly equal if they are identical or plain numerals with one nearest double.
So numerals of one number are equal, and those of two numbers are not if both are doubles
themselves. Integers up to `2 ^ 53` in magnitude are doubles. -/
theorem strictEq_texts :
    (∀ s t, strictEq (.str s) (.str t) ↔ AgreeAsNumerals SameNearest s t) ∧
      (∀ s t, AgreeAsNumerals (· = ·) s t → strictEq (.str s) (.str t)) ∧
      (∀ m n : PlainNumeral, IsDouble m.value → IsDouble n.value → m.value ≠ n.value →
        ¬ strictEq (.str (String.ofList m.text)) (.str (String.ofList n.text))) ∧
      (∀ n : ℤ, |n| ≤ 2 ^ 53 → IsDouble n) := by
  refine ⟨strictEq_iff_agree, fun s t same => ?_, fun m n hm hn different same => ?_,
    fun n => isDouble_int⟩
  · rw [strictEq_iff_agree]
    cases same with
    | identical => exact .identical s
    | @numerals m n same =>
      exact .numerals ⟨_, m.decimal.isNearest_toDouble, same ▸ m.decimal.isNearest_toDouble⟩
  · rw [strictEq, m.plainNumeral?_text, n.plainNumeral?_text, ← Decimal.sameNearest_iff] at same
    exact different (eq_of_sameNearest hm hn same)

/-- The two greatest magnitudes of `strictEq_texts` are told apart, and so are two fractions from
nothing but their zeros. -/
theorem strictEq_texts_at_limit :
    (Value.str "007.50").strictEq (.str "7.5") ∧
      ¬ (Value.str "9007199254740992").strictEq (.str "9007199254740991") := by
  obtain ⟨-, same, different, limit⟩ := strictEq_texts
  constructor
  · refine same _ _ (agreeAsNumerals_iff.mpr (.inr ⟨⟨false, 750, -2⟩, ⟨false, 75, -1⟩, ?_⟩))
    exact ⟨by decide, by decide, by norm_num [Decimal.value, Double.signed]⟩
  · have digits {text : String} (h : text.toList.all Char.isDigit) : ∀ c ∈ text.toList, c.isDigit :=
      List.all_eq_true.mp h
    let m : PlainNumeral := ⟨false, "9007199254740992".toList, [], by decide, digits (by decide),
      List.forall_mem_nil _⟩
    let n : PlainNumeral := ⟨false, "9007199254740991".toList, [], by decide, digits (by decide),
      List.forall_mem_nil _⟩
    have valueM : m.value = (9007199254740992 : ℤ) := Decimal.value_integer false 9007199254740992
    have valueN : n.value = (9007199254740991 : ℤ) := Decimal.value_integer false 9007199254740991
    refine different m n ?_ ?_ ?_
    · rw [valueM]
      exact limit _ (by decide)
    · rw [valueN]
      exact limit _ (by decide)
    · rw [valueM, valueN]
      decide

/-- The first integer that is no double, and the double nearest to it. -/
theorem strictEq_texts_beyond_limit :
    (Value.str "9007199254740993").strictEq (.str "9007199254740992") ∧
      ¬ AgreeAsNumerals (· = ·) "9007199254740993" "9007199254740992" := by
  refine ⟨by decide +kernel, fun h => ?_⟩
  rcases agreeAsNumerals_iff.mp h with same | ⟨d, e, hs, ht, same⟩
  · exact absurd same (by decide)
  · obtain rfl : ⟨false, 9007199254740993, 0⟩ = d := Option.some.inj hs
    obtain rfl : ⟨false, 9007199254740992, 0⟩ = e := Option.some.inj ht
    rw [Decimal.value_integer, Decimal.value_integer] at same
    exact absurd same (by decide)

end Value

end Bulletin
