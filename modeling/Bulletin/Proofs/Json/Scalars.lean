import Bulletin.Json
import Bulletin.Proofs.Number.ReadBack

/-!
# Strings and numerals of documents

A written string is read as the string that it was, whatever follows it. A written numeral is read
as its number if no character of a numeral follows it: as a double if it has a point or an exponent,
and as an integer if it has neither.
-/

namespace Bulletin

namespace Json

/-! ### Strings -/

theorem readHex4?_hexText {n : Nat} (h : n < 0x20) (rest : List Char) :
    readHex4? (hexText 4 n ++ rest) = some (n, rest) := by
  have written : ∀ n < 0x20,
      (hexText 4 n).length = 4 ∧ radixValue? 16 (hexText 4 n) = some n := by decide
  obtain ⟨hlength, hvalue⟩ := written n h
  rw [readHex4?, if_neg (by rw [List.length_append]; omega), List.take_left' hlength,
    List.drop_left' hlength, hvalue]
  rfl

/-- An escaped character is read as itself. -/
theorem readChar?_escapeChar (c : Char) (rest : List Char) :
    readChar? (escapeChar c ++ rest) = some (c, rest) := by
  unfold escapeChar
  split
  · next h =>
    have h : c = '"' ∨ c = '\\' := by simpa using h
    rcases h with rfl | rfl <;> rfl
  next special =>
  split
  · next h => rw [h]; rfl
  split
  · next h => rw [h]; rfl
  split
  · next h => rw [h]; rfl
  split
  · next h => rw [h]; rfl
  split
  · next h => rw [h]; rfl
  split
  · next h =>
    have code := readHex4?_hexText h rest
    have low : ¬ (0xD800 ≤ c.toNat && c.toNat ≤ 0xDBFF) = true := by
      rw [Bool.and_eq_true, decide_eq_true_eq, decide_eq_true_eq]
      omega
    have high : ¬ (0xDC00 ≤ c.toNat && c.toNat ≤ 0xDFFF) = true := by
      rw [Bool.and_eq_true, decide_eq_true_eq, decide_eq_true_eq]
      omega
    simp only [List.cons_append, readChar?, readCodeUnit?, code, Option.bind_some, if_neg low,
      if_neg high, Char.ofNat_toNat]
  · next h =>
    obtain ⟨not_quote, not_backslash⟩ : c ≠ '"' ∧ c ≠ '\\' := by simpa using special
    rw [List.singleton_append, readChar?.eq_def]
    split <;> simp_all

/-- An escape does not start with a quote. -/
theorem exists_escapeChar (c : Char) : ∃ d others, escapeChar c = d :: others ∧ d ≠ '"' := by
  unfold escapeChar
  split
  · exact ⟨_, _, rfl, by decide⟩
  · next special =>
    obtain ⟨not_quote, -⟩ : c ≠ '"' ∧ c ≠ '\\' := by simpa using special
    repeat' split
    all_goals first | exact ⟨_, _, rfl, by decide⟩ | exact ⟨c, [], rfl, not_quote⟩

theorem readChars?_escaped (text rest : List Char) {steps : Nat} (h : text.length < steps) :
    readChars? steps (text.flatMap escapeChar ++ '"' :: rest) = some (text, rest) := by
  induction text generalizing steps with
  | nil =>
    obtain ⟨steps, rfl⟩ := Nat.exists_eq_add_of_lt h
    rfl
  | cons c text ih =>
    obtain ⟨steps, rfl⟩ := Nat.exists_eq_add_one_of_ne_zero (Nat.ne_zero_of_lt h)
    obtain ⟨d, others, heq, hd⟩ := exists_escapeChar c
    have read := readChar?_escapeChar c (text.flatMap escapeChar ++ '"' :: rest)
    rw [List.flatMap_cons, List.append_assoc]
    rw [heq, List.cons_append] at read ⊢
    rw [readChars?]
    · simp only [read, Option.bind_some, ih (by simpa using h), Option.map_some]
    · exact fun _ h => hd (List.cons.inj h).1

theorem length_le_escaped (text : List Char) : text.length ≤ (text.flatMap escapeChar).length := by
  induction text with
  | nil => exact Nat.le_refl _
  | cons c text ih =>
    obtain ⟨d, others, heq, -⟩ := exists_escapeChar c
    simp only [List.flatMap_cons, heq, List.length_append, List.length_cons]
    omega

theorem readString?_writeString (s : String) (rest : List Char) :
    readString? (writeString s ++ rest) = some (s, rest) := by
  have hlength := length_le_escaped s.toList
  have enough : s.toList.length < (s.toList.flatMap escapeChar ++ '"' :: rest).length + 1 := by
    rw [List.length_append]
    omega
  simp only [writeString, List.cons_append, List.append_assoc, readString?, List.nil_append,
    readChars?_escaped s.toList rest enough, Option.map_some, String.ofList_toList]

/-! ### Numerals -/

theorem isNumeralChar_of_isDigit {c : Char} (h : c.isDigit) : isNumeralChar c := by
  simp [isNumeralChar, h]

/-- No word starts with a digit, or with a minus and a digit. -/
theorem exists_eq_cons_of_mem_words {d : Dialect} {w : String × Json} (h : w ∈ d.words) :
    ∃ a b others, w.1.toList = a :: b :: others ∧ a.isDigit = false ∧
      (a = '-' → b.isDigit = false) := by
  have named : ∀ w ∈ [("NaN", .double .nan), ("Infinity", .double (.infinite false)),
      ("-Infinity", Json.double (.infinite true))], ∃ a b others,
        w.1.toList = a :: b :: others ∧ a.isDigit = false ∧ (a = '-' → b.isDigit = false) := by
    intro w hw
    simp only [List.mem_cons, List.not_mem_nil, or_false] at hw
    rcases hw with rfl | rfl | rfl <;> exact ⟨_, _, _, rfl, rfl, by decide⟩
  rcases List.mem_append.mp h with h | h
  · simp only [List.mem_cons, List.not_mem_nil, or_false] at h
    rcases h with rfl | rfl | rfl <;> exact ⟨_, _, _, rfl, rfl, by decide⟩
  · split at h
    · exact named w h
    · cases h

end Json

namespace WrittenNumeral

open Json

variable (n : WrittenNumeral)

theorem isNumeralChar_text : ∀ c ∈ n.text, isNumeralChar c := by
  have digits {text : List Char} (h : ∀ c ∈ text, c.isDigit) : ∀ c ∈ text, isNumeralChar c :=
    fun c hc => isNumeralChar_of_isDigit (h c hc)
  have hsign : ∀ c ∈ Double.signText n.negative, isNumeralChar c := by
    cases n.negative <;> simp [Double.signText, isNumeralChar]
  have hfraction : ∀ c ∈ fractionText n.fraction, isNumeralChar c := by
    unfold fractionText
    split
    · simp
    · exact List.forall_mem_cons.mpr ⟨rfl, digits n.isDigit_fraction⟩
  have hexponent : ∀ c ∈ exponentText n.exponent, isNumeralChar c := by
    cases n.exponent with
    | none => simp [exponentText]
    | some e =>
      refine List.forall_mem_cons.mpr ⟨rfl, List.forall_mem_cons.mpr ⟨?_, digits e.isDigit_digits⟩⟩
      split <;> rfl
  intro c hc
  simp only [text, unsigned, List.mem_append] at hc
  rcases hc with hc | hc | hc | hc
  · exact hsign c hc
  · exact digits n.isDigit_whole c hc
  · exact hfraction c hc
  · exact hexponent c hc

/-- A numeral starts with a minus and a digit or with a digit. -/
theorem exists_text :
    ∃ c others, c.isDigit ∧ (n.text = c :: others ∨ n.text = '-' :: c :: others) := by
  obtain ⟨c, others, heq, hc⟩ := n.exists_whole_eq_cons
  refine ⟨c, others ++ (fractionText n.fraction ++ exponentText n.exponent), hc, ?_⟩
  rw [text, unsigned, heq]
  cases n.negative
  · exact .inl rfl
  · exact .inr rfl

theorem wellFormed_text : wellFormedNumeral n.text := by
  have body : (if n.text.head? == some '-' then n.text.tail else n.text) = n.unsigned := by
    rw [text, unsigned, Decimal.head?_signText _ n.isDigit_whole n.whole_ne_nil]
    exact Decimal.tail_signText _ _
  have point : (fractionText n.fraction ++ exponentText n.exponent).head? ≠ some '.' ∨
      n.fraction ≠ [] := by
    by_cases hnil : n.fraction = []
    · rw [hnil]
      cases n.exponent <;> exact .inl (by simp [fractionText, exponentText, WrittenExponent.text])
    · exact .inr hnil
  simp only [wellFormedNumeral, body, takeDigits_unsigned, takeFraction_text]
  simp only [Bool.and_eq_true, Bool.or_eq_true, Bool.not_eq_true', List.isEmpty_eq_false_iff,
    bne_iff_ne, beq_iff_eq]
  exact ⟨⟨n.whole_ne_nil, n.whole_start⟩, point⟩

theorem all_isDigit_or_minus_iff :
    (n.text.all fun c => c.isDigit || c = '-') ↔ n.IsInteger := by
  rw [List.all_eq_true]
  constructor
  · intro all
    have absent (c : Char) (hc : (c.isDigit || c = '-') = false) : c ∉ n.text := by
      intro hmem
      rw [all c hmem] at hc
      cases hc
    have no_point := absent '.' rfl
    have no_exponent := absent 'e' rfl
    constructor
    · refine Classical.byContradiction fun hne => no_point ?_
      simp [text, unsigned, fractionText, hne]
    · cases hexponent : n.exponent with
      | none => rfl
      | some e =>
        refine absurd ?_ no_exponent
        simp [text, unsigned, exponentText, WrittenExponent.text, hexponent]
  · rintro ⟨hfraction, hexponent⟩ c hc
    simp only [text, unsigned, hfraction, hexponent, fractionText, exponentText, if_true,
      List.append_nil, List.mem_append] at hc
    rcases hc with hc | hc
    · cases hnegative : n.negative
      · simp [hnegative, Double.signText] at hc
      · simp_all [Double.signText]
    · simp [n.isDigit_whole c hc]

theorem readNumeral?_of_isInteger (h : n.IsInteger) (d : Dialect) :
    readNumeral? d n.text = some (.int (Double.signed n.negative n.decimal.coefficient)) := by
  rw [readNumeral?, if_pos n.wellFormed_text, n.read?_text, Option.map_some,
    if_pos (n.all_isDigit_or_minus_iff.mpr h)]
  rfl

theorem readNumeral?_of_not_isInteger (h : ¬ n.IsInteger) {d : Dialect} (hd : d.bareExponents) :
    readNumeral? d n.text = some (.double n.decimal.toDouble) := by
  rw [readNumeral?, if_pos n.wellFormed_text, n.read?_text, Option.map_some,
    if_neg (mt n.all_isDigit_or_minus_iff.mp h), hd, Bool.true_or, if_pos rfl]

theorem readWord?_text (d : Dialect) (rest : List Char) : readWord? d (n.text ++ rest) = none := by
  rw [readWord?, Option.map_eq_none_iff, List.find?_eq_none]
  intro w hw hstart
  obtain ⟨a, b, others, heq, ha, hb⟩ := exists_eq_cons_of_mem_words hw
  obtain ⟨after, hafter⟩ := List.isPrefixOf_iff_prefix.mp hstart
  rw [heq] at hafter
  obtain ⟨c, others', hc, htext | htext⟩ := n.exists_text
  · rw [htext, List.cons_append, List.cons_append] at hafter
    rw [(List.cons.inj hafter).1, hc] at ha
    cases ha
  · rw [htext, List.cons_append, List.cons_append, List.cons_append, List.cons_append] at hafter
    obtain ⟨hminus, later⟩ := List.cons.inj hafter
    have := hb hminus
    rw [(List.cons.inj later).1, hc] at this
    cases this

/-- A numeral is read as its number if no character of a numeral follows it. -/
theorem readValue?_text {d : Dialect} {document : Json}
    (hread : readNumeral? d n.text = some document) {rest : List Char}
    (hrest : rest.head?.any isNumeralChar = false) (steps : Nat) :
    readValue? d (steps + 1) (n.text ++ rest) = some (document, rest) := by
  have hword := n.readWord?_text d rest
  have htake : (n.text ++ rest).takeWhile isNumeralChar = n.text := by
    rw [List.takeWhile_append_of_pos n.isNumeralChar_text]
    cases rest with
    | nil => simp
    | cons c rest => rw [List.takeWhile_cons_of_neg (by simpa using hrest), List.append_nil]
  have hdrop : (n.text ++ rest).dropWhile isNumeralChar = rest := by
    rw [List.dropWhile_append_of_pos n.isNumeralChar_text]
    cases rest with
    | nil => rfl
    | cons c rest => rw [List.dropWhile_cons_of_neg (by simpa using hrest)]
  have first : ∃ c others, n.text = c :: others ∧ c ≠ '[' ∧ c ≠ '\x7b' ∧ c ≠ '"' := by
    obtain ⟨c, others, hc, heq | heq⟩ := n.exists_text
    · exact ⟨c, others, heq, ne_of_isDigit hc rfl, ne_of_isDigit hc rfl, ne_of_isDigit hc rfl⟩
    · exact ⟨'-', _, heq, by decide, by decide, by decide⟩
  obtain ⟨c, others, heq, hbracket, hbrace, hquote⟩ := first
  rw [heq, List.cons_append] at hword htake hdrop ⊢
  simp only [readValue?, hbracket, hbrace, hquote, if_false, hword, htake, hdrop]
  rw [← heq, hread]
  rfl

end WrittenNumeral

end Bulletin
