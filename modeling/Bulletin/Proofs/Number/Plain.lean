import Bulletin.Proofs.Number.Written
import Bulletin.Value.Operators

/-!
# Numerals in texts

A plain numeral is an optional minus, digits, and perhaps a point with digits after it; zeros may
stand in front. These are exactly the texts that count as numbers in a comparison. A text that is a
numeral, plain or with an exponent, is the same number wherever it is read.
-/

namespace Bulletin

structure PlainNumeral where
  negative : Bool
  whole : List Char
  fraction : List Char
  whole_ne_nil : whole ≠ []
  isDigit_whole : ∀ c ∈ whole, c.isDigit
  isDigit_fraction : ∀ c ∈ fraction, c.isDigit

open WrittenNumeral (fractionText)

/-! ### No character is a blank -/

section Parts

variable {whole fraction rest : List Char}

theorem isBlank_of_mem_parts (negative : Bool) (hwhole : ∀ c ∈ whole, c.isDigit)
    (hfraction : ∀ c ∈ fraction, c.isDigit) (hrest : ∀ c ∈ rest, isBlank c = false) :
    ∀ c ∈ Double.signText negative ++ (whole ++ (fractionText fraction ++ rest)),
      isBlank c = false := by
  have sign : ∀ c ∈ Double.signText negative, isBlank c = false := by
    cases negative with
    | true => exact List.forall_mem_singleton.mpr rfl
    | false => exact List.forall_mem_nil _
  have point : ∀ c ∈ fractionText fraction, isBlank c = false := by
    unfold fractionText
    split
    · exact List.forall_mem_nil _
    · exact List.forall_mem_cons.mpr ⟨rfl, fun c hc => isBlank_of_isDigit (hfraction c hc)⟩
  intro c hc
  simp only [List.mem_append] at hc
  rcases hc with hc | hc | hc | hc
  · exact sign c hc
  · exact isBlank_of_isDigit (hwhole c hc)
  · exact point c hc
  · exact hrest c hc

end Parts

theorem WrittenNumeral.readDouble_text (n : WrittenNumeral) :
    readDouble n.text = n.decimal.toDouble := by
  have exponent : ∀ c ∈ exponentText n.exponent, isBlank c = false := by
    cases n.exponent with
    | none => exact List.forall_mem_nil _
    | some e =>
      have digits : ∀ c ∈ e.digits, isBlank c = false :=
        fun c hc => isBlank_of_isDigit (e.isDigit_digits c hc)
      refine List.forall_mem_cons.mpr ⟨rfl, List.forall_mem_cons.mpr ⟨?_, digits⟩⟩
      split <;> rfl
  exact readDouble_of_read?
    (isBlank_of_mem_parts n.negative n.isDigit_whole n.isDigit_fraction exponent) n.read?_text

/-! ### Plain numerals -/

theorem Decimal.exists_signText (text : List Char) :
    ∃ body, text = Double.signText (text.head? == some '-') ++ body ∧
      (if text.head? == some '-' then text.tail else text) = body := by
  cases text with
  | nil => exact ⟨[], rfl, rfl⟩
  | cons c text =>
    by_cases hc : c = '-'
    · subst hc
      exact ⟨text, rfl, rfl⟩
    · have head : ((c :: text).head? == some '-') = false := by simpa using hc
      exact ⟨c :: text, by rw [head]; rfl, by rw [head]; rfl⟩

namespace PlainNumeral

def text (n : PlainNumeral) : List Char :=
  Double.signText n.negative ++ (n.whole ++ fractionText n.fraction)

def decimal (n : PlainNumeral) : Decimal :=
  ⟨n.negative, digitsValue (n.whole ++ n.fraction), -(n.fraction.length : Int)⟩

variable (n : PlainNumeral)

theorem readPlain?_text : Decimal.readPlain? n.text = some n.decimal := by
  have sign : (n.text.head? == some '-') = n.negative :=
    Decimal.head?_signText _ n.isDigit_whole n.whole_ne_nil _
  have body : (if n.negative then n.text.tail else n.text) = n.whole ++ fractionText n.fraction :=
    Decimal.tail_signText _ _
  have digits : takeDigits (n.whole ++ fractionText n.fraction) =
      (n.whole, fractionText n.fraction) := by
    have digits := Decimal.takeDigits_whole n.isDigit_whole
      (show Decimal.readExponent? [] = some 0 from rfl) n.fraction
    rwa [List.append_nil] at digits
  have nonempty : n.whole.isEmpty = false := List.isEmpty_eq_false_iff.mpr n.whole_ne_nil
  simp only [Decimal.readPlain?, sign, body, digits, nonempty, Bool.false_eq_true, if_false]
  cases hfraction : n.fraction with
  | nil => simp [fractionText, decimal, hfraction]
  | cons c others =>
    have after := takeDigits_of_forall n.isDigit_fraction
    rw [hfraction] at after
    simp [fractionText, decimal, hfraction, after]

theorem exists_of_readPlain? {text : List Char} {numeral : Decimal}
    (h : Decimal.readPlain? text = some numeral) :
    ∃ n : PlainNumeral, n.text = text ∧ n.decimal = numeral := by
  obtain ⟨body, htext, hbody⟩ := Decimal.exists_signText text
  have hwhole := takeDigits_append body
  have isDigit_whole : ∀ c ∈ (takeDigits body).1, c.isDigit := fun _ => isDigit_of_mem_takeDigits
  simp only [Decimal.readPlain?, hbody] at h
  generalize (text.head? == some '-') = negative at htext h
  generalize takeDigits body = parts at hwhole isDigit_whole h
  obtain ⟨whole, after⟩ := parts
  subst hwhole
  dsimp only at htext isDigit_whole h
  split at h
  · cases h
  next nonempty =>
  have nonempty : whole ≠ [] := by simpa using nonempty
  split at h
  · cases Option.some.inj h
    refine ⟨⟨negative, whole, [], nonempty, isDigit_whole, List.forall_mem_nil _⟩, htext.symm, ?_⟩
    simp [decimal]
  · next rest =>
    have hrest := takeDigits_append rest
    have isDigit_rest : ∀ c ∈ (takeDigits rest).1, c.isDigit := fun _ => isDigit_of_mem_takeDigits
    split at h
    · cases h
    · next fraction some_digit heq =>
      rw [heq, List.append_nil] at hrest
      rw [heq] at isDigit_rest
      cases Option.some.inj h
      refine ⟨⟨negative, whole, fraction, nonempty, isDigit_whole, isDigit_rest⟩, ?_, rfl⟩
      have point : fractionText fraction = '.' :: rest := by
        rw [← hrest]
        exact if_neg some_digit
      rw [htext, PlainNumeral.text, point]
    · cases h
  · cases h

/-- A plain numeral is the same number where any numeral is read. -/
theorem readDouble_text : readDouble n.text = n.decimal.toDouble := by
  have parts : n.text =
      Double.signText n.negative ++ (n.whole ++ (fractionText n.fraction ++ [])) := by
    rw [List.append_nil, text]
  have read := Decimal.read?_parts n.negative n.isDigit_whole n.whole_ne_nil n.isDigit_fraction
    (show Decimal.readExponent? [] = some 0 from rfl)
  rw [← parts, Int.zero_sub] at read
  refine readDouble_of_read? ?_ read
  rw [parts]
  exact isBlank_of_mem_parts _ n.isDigit_whole n.isDigit_fraction (List.forall_mem_nil _)

end PlainNumeral

/-- A text that is a plain numeral is the number of that numeral. -/
theorem Value.toNumber_of_plainNumeral? {s : String} {numeral : Decimal}
    (h : plainNumeral? s = some numeral) : (Value.str s).toNumber = numeral.toDouble := by
  obtain ⟨n, htext, rfl⟩ := PlainNumeral.exists_of_readPlain? h
  rw [toNumber, ← htext, n.readDouble_text]

theorem PlainNumeral.isNumericLike_text (n : PlainNumeral) :
    (Value.str (String.ofList n.text)).isNumericLike := by
  rw [Value.isNumericLike, plainNumeral?, String.toList_ofList, n.readPlain?_text]
  rfl

/-! ### Written numerals without an exponent -/

namespace WrittenNumeral

variable (n : WrittenNumeral)

/-- The numeral without its exponent. -/
def plain : PlainNumeral where
  negative := n.negative
  whole := n.whole
  fraction := n.fraction
  whole_ne_nil := n.whole_ne_nil
  isDigit_whole := n.isDigit_whole
  isDigit_fraction := n.isDigit_fraction

theorem mem_text_iff : 'e' ∈ n.text ↔ n.exponent ≠ none := by
  constructor
  · intro he hnone
    simp only [text, unsigned, hnone, exponentText, List.append_nil, List.mem_append] at he
    rcases he with he | he | he
    · revert he
      cases n.negative <;> decide
    · exact absurd (n.isDigit_whole _ he) (by decide)
    · unfold fractionText at he
      split at he
      · cases he
      · rcases List.mem_cons.mp he with heq | he
        · exact absurd heq (by decide)
        · exact absurd (n.isDigit_fraction _ he) (by decide)
  · intro hsome
    obtain ⟨e, he⟩ := Option.ne_none_iff_exists'.mp hsome
    simp [text, unsigned, he, exponentText, WrittenExponent.text]

theorem text_plain (h : n.exponent = none) : n.plain.text = n.text := by
  rw [text, unsigned, h, exponentText, List.append_nil]
  rfl

end WrittenNumeral

end Bulletin
