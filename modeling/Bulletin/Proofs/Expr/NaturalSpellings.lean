import Bulletin.Proofs.Expr.Printing
import Bulletin.Proofs.Number.NearestDouble
import Bulletin.Proofs.Number.PlainText
import Bulletin.Proofs.Number.Radix

/-!
# Spellings of a natural number

A natural number can be an integer of the context, a text with its digits in one of four bases, or a
literal of an expression. Four readers turn these into doubles, and they agree on every natural
number: they give the nearest double, or the positive infinity if the number is too large.
-/

namespace Bulletin

theorem toLower_of_isDigit {c : Char} (h : c.toLower.isDigit) : c.toLower = c := by
  have range := toNat_of_isDigit h
  have lower := toNat_toLower c
  refine Char.toNat_inj.mp ?_
  split at lower <;> omega

/-- The digits of a number in a base, perhaps with zeros in front. Letters may be capital. -/
def SpellsDigits (base n : Nat) (digits : List Char) : Prop :=
  ∃ zeros, digits.map Char.toLower = List.replicate zeros '0' ++ Nat.toDigits base n

namespace SpellsDigits

variable {base n : Nat} {digits : List Char}

theorem ne_nil (h : SpellsDigits base n digits) : digits ≠ [] := by
  obtain ⟨zeros, h⟩ := h
  rintro rfl
  exact Nat.toDigits_ne_nil (List.append_eq_nil_iff.mp h.symm).2

theorem radixValue? (h : SpellsDigits base n digits) (two : 1 < base) (hbase : base ≤ 16) :
    radixValue? base digits = some n := by
  obtain ⟨zeros, h⟩ := h
  rw [← radixValue?_map_toLower, h, radixValue?_toDigits two hbase]

/-- There are no letters in a decimal spelling. -/
theorem decimal (h : SpellsDigits 10 n digits) :
    (∀ c ∈ digits, c.isDigit) ∧ digitsValue digits = n := by
  obtain ⟨zeros, h⟩ := h
  have spelled : ∀ c ∈ List.replicate zeros '0' ++ Nat.toDigits 10 n, c.isDigit := by
    intro c hc
    rcases List.mem_append.mp hc with hc | hc
    · rw [List.eq_of_mem_replicate hc]
      rfl
    · exact isDigit_decimalDigits c hc
  have same : digits.map Char.toLower = digits := by
    refine (List.map_congr_left fun c hc => toLower_of_isDigit (spelled _ ?_)).trans (List.map_id _)
    exact h ▸ List.mem_map_of_mem hc
  rw [← same, h]
  exact ⟨spelled, (digitsValue_zeros_append ..).trans (digitsValue_decimalDigits n)⟩

theorem read? (h : SpellsDigits 10 n digits) : Decimal.read? digits = some ⟨false, n, 0⟩ := by
  obtain ⟨isDigit, value⟩ := h.decimal
  have read := Decimal.read?_digits digits none isDigit (List.forall_mem_nil _)
    (by simpa using h.ne_nil)
  rwa [pointed, Option.getD_none, List.append_nil, value] at read

end SpellsDigits

theorem Decimal.toDouble_natural (n : Nat) : toDouble ⟨false, n, 0⟩ = .ofInt n := by
  have whole := Double.toDouble_natAbs n
  rwa [decide_eq_false (by omega), Int.natAbs_natCast] at whole

/-- The texts that count as a natural number: its decimal digits, or the mark of another base and
its digits in that base. Blanks may stand around them. -/
inductive SpellsNatural (n : Nat) : List Char → Prop where
  | decimal {before digits after : List Char} (hbefore : ∀ c ∈ before, isBlank c)
      (hdigits : SpellsDigits 10 n digits) (hafter : ∀ c ∈ after, isBlank c) :
    SpellsNatural n (before ++ (digits ++ after))
  | radix {before digits after : List Char} {mark : Char} {base : Nat}
      (hbefore : ∀ c ∈ before, isBlank c) (hmark : (mark, base) ∈ radixMarks)
      (hdigits : SpellsDigits base n digits) (hafter : ∀ c ∈ after, isBlank c) :
    SpellsNatural n (before ++ ('0' :: mark :: digits ++ after))

/-- The literals for a natural number: its decimal digits, with underscores anywhere but in
front. -/
def SpellsLiteral (n : Nat) (text : List Char) : Prop :=
  SpellsDigits 10 n (text.filter (· != '_')) ∧ text.head? ≠ some '_'

theorem SpellsNatural.readDouble {n : Nat} {text : List Char} (h : SpellsNatural n text) :
    readDouble text = .ofInt n := by
  cases h with
  | decimal hbefore hdigits hafter =>
    have visible := fun c hc => isBlank_of_isDigit (hdigits.decimal.1 c hc)
    rw [readDouble_around hbefore visible hafter, readDouble_of_read? visible hdigits.read?,
      Decimal.toDouble_natural]
  | @radix before digits after mark base hbefore hmark hdigits hafter =>
    have bounds : ∀ entry ∈ radixMarks, 1 < entry.2 ∧ entry.2 ≤ 16 ∧ isBlank entry.1 = false := by
      decide
    obtain ⟨two, hbase, hblank⟩ := bounds _ hmark
    have read := hdigits.radixValue? two hbase
    have visible : ∀ c ∈ '0' :: mark :: digits, isBlank c = false :=
      List.forall_mem_cons.mpr ⟨rfl,
        List.forall_mem_cons.mpr ⟨hblank, isBlank_of_radixValue? hbase read⟩⟩
    rw [readDouble_around hbefore visible hafter]
    exact readDouble_radix hmark hdigits.ne_nil read visible

/-- A literal for a natural number is evaluated to the double nearest to it. -/
theorem SpellsLiteral.eval {n : Nat} {text : List Char} (h : SpellsLiteral n text) (e : Evaluator) :
    e.eval (String.ofList text) = .ok (.double (.ofInt n)) := by
  obtain ⟨hdigits, start⟩ := h
  have part : ∀ c ∈ text, c = '_' ∨ c.isDigit := fun c hc =>
    Classical.or_iff_not_imp_left.mpr fun digit =>
      hdigits.decimal.1 c (List.mem_filter.mpr ⟨hc, by simpa using digit⟩)
  have starts : (text ++ []).head?.any Char.isDigit := by
    cases text with
    | nil => exact absurd rfl hdigits.ne_nil
    | cons c text => exact (part c (List.mem_cons_self ..)).resolve_left (by simpa using start)
  have parts : text.all isNumeralPart := by
    refine List.all_eq_true.mpr fun c hc => ?_
    rcases part c hc with rfl | digit
    · rfl
    · rw [isNumeralPart, digit, Bool.true_or]
  let numeral : Numeral := ⟨text, none, parts, rfl, starts⟩
  have spelled : numeral.text = text := List.append_nil text
  have value : numeral.value = .ofInt n := by
    rw [← numeral.numberValue_text, spelled, numberValue, hdigits.read?]
    exact Decimal.toDouble_natural n
  have evaluated := e.eval_atom (.number numeral)
  rw [show (Atom.number numeral).word.text = text from spelled] at evaluated
  rw [evaluated, ← value]
  rfl

/-- All spellings of a natural number stand for one double, the one nearest to the number: the
integer itself, its decimal digits and its digits in the other bases as texts, and its literals.
From the overflow threshold on, it is the positive infinity. -/
theorem natural_spellings_agree (n : Nat) :
    ∃ x : Double, x.IsNearest n ∧ x.isNegative = false ∧
      (x = .infinite false ↔ overflowThreshold ≤ n) ∧
      (Value.int n).toNumber = x ∧
      (∀ text, SpellsNatural n text → (Value.str (String.ofList text)).toNumber = x) ∧
      ∀ (e : Evaluator) text, SpellsLiteral n text →
        e.eval (String.ofList text) = .ok (.double x) := by
  have nearest : (Double.ofInt n).IsNearest n := Double.isNearest_ofInt n
  refine ⟨.ofInt n, nearest, ?_, nearest.eq_infinite_iff (Nat.cast_nonneg n), rfl, ?_, ?_⟩
  · rw [Double.ofInt, Double.isNegative_rounded, decide_eq_false (by omega)]
  · intro text h
    rw [Value.toNumber, String.toList_ofList, h.readDouble]
  · intro e text h
    exact h.eval e

/-- Spellings of the first integer that is rounded. -/
theorem natural_spellings_of_rounded :
    ∃ x : Double, x.IsNearest (9007199254740993 : ℕ) ∧
      (Value.int (9007199254740993 : ℕ)).toNumber = x ∧
      (Value.str "009007199254740993").toNumber = x ∧
      (Value.str "\t0X0020000000000001 ").toNumber = x ∧
      (⟨.empty, [], 0⟩ : Evaluator).eval "9_007_199_254_740_993_" = .ok (.double x) := by
  obtain ⟨x, nearest, -, -, number, texts, literals⟩ := natural_spellings_agree 9007199254740993
  have decimal : SpellsNatural 9007199254740993 ([] ++ ("009007199254740993".toList ++ [])) :=
    .decimal (List.forall_mem_nil _) ⟨2, by decide +kernel⟩ (List.forall_mem_nil _)
  have hexadecimal : SpellsNatural 9007199254740993
      (['\t'] ++ ('0' :: 'X' :: "0020000000000001".toList ++ [' '])) :=
    .radix (List.forall_mem_singleton.mpr rfl) (show ('X', 16) ∈ radixMarks by decide)
      ⟨2, by decide +kernel⟩ (List.forall_mem_singleton.mpr rfl)
  have literal : SpellsLiteral 9007199254740993 "9_007_199_254_740_993_".toList :=
    ⟨⟨0, by decide +kernel⟩, by decide⟩
  exact ⟨x, nearest, number, texts _ decimal, texts _ hexadecimal, literals _ _ literal⟩

end Bulletin
