import Bulletin.Value.Operators

/-!
# Numerals in other bases

A text may count as a number by its digits in base sixteen, eight or two, with a mark in front that
names the base. The digits of a natural number are read as that number, with zeros before them and
with letters in either case. Blanks around a numeral do not matter.
-/

namespace Bulletin

theorem toNat_toLower (c : Char) :
    c.toLower.toNat = if 65 ≤ c.toNat ∧ c.toNat ≤ 90 then c.toNat + 32 else c.toNat := by
  unfold Char.toLower
  have iff : (c.val ≥ 'A'.val ∧ c.val ≤ 'Z'.val) ↔ 65 ≤ c.toNat ∧ c.toNat ≤ 90 := by
    simp only [ge_iff_le, UInt32.le_iff_toNat_le]
    exact Iff.rfl
  split
  · next h =>
    rw [if_pos (iff.mp h)]
    have small := (iff.mp h).2
    have : (c.val + ('a'.val - 'A'.val)).toNat = c.toNat + 32 := by
      rw [UInt32.toNat_add]
      show (c.toNat + 32) % 2 ^ 32 = c.toNat + 32
      omega
    exact this
  · next h => rw [if_neg (mt iff.mpr h)]

/-- What a character counts as in every base that is large enough. -/
theorem radixDigit?_eq (base : Nat) (c : Char) :
    radixDigit? base c =
      let value :=
        if 48 ≤ c.toNat ∧ c.toNat ≤ 57 then c.toNat - 48
        else if 97 ≤ c.toNat ∧ c.toNat ≤ 102 then c.toNat - 87
        else if 65 ≤ c.toNat ∧ c.toNat ≤ 70 then c.toNat - 55
        else 16
      if value < base then some value else none := by
  have ends : '0'.toNat = 48 ∧ '9'.toNat = 57 ∧ 'a'.toNat = 97 ∧ 'f'.toNat = 102 ∧
      'A'.toNat = 65 ∧ 'F'.toNat = 70 := by decide
  refine congrArg (fun value => if value < base then some value else none) ?_
  simp only [Bool.and_eq_true, decide_eq_true_eq, Char.isDigit_iff_toNat, Char.le_def,
    UInt32.le_iff_toNat_le, digitValue, Char.toNat_val]
  repeat' split
  all_goals omega

theorem radixDigit?_toLower (base : Nat) (c : Char) :
    radixDigit? base c.toLower = radixDigit? base c := by
  rw [radixDigit?_eq, radixDigit?_eq, toNat_toLower]
  refine congrArg (fun value => if value < base then some value else none) ?_
  repeat' split
  all_goals omega

theorem radixDigit?_digitChar {base d : Nat} (hbase : base ≤ 16) (h : d < base) :
    radixDigit? base d.digitChar = some d := by
  have table : ∀ d < 16, radixDigit? 16 d.digitChar = some d := by decide
  have found := table d (by omega)
  obtain ⟨-, same⟩ := Option.ite_none_right_eq_some.mp found
  obtain same := Option.some.inj same
  unfold radixDigit?
  simp only [same, h, if_true]

theorem radixValue?_append_digit {base n d : Nat} {text : List Char} {c : Char}
    (h : radixValue? base text = some n) (hc : radixDigit? base c = some d) :
    radixValue? base (text ++ [c]) = some (base * n + d) := by
  rw [radixValue?, List.foldlM_append, ← radixValue?, h]
  simp [hc]

theorem radixValue?_zeros {base : Nat} (two : 1 < base) (hbase : base ≤ 16) (zeros : Nat) :
    radixValue? base (List.replicate zeros '0') = some 0 := by
  induction zeros with
  | zero => rfl
  | succ zeros ih =>
    rw [List.replicate_succ']
    exact radixValue?_append_digit ih (radixDigit?_digitChar (d := 0) hbase (by omega))

/-- Digits in a base are read as the number that they were written for, also after zeros. -/
theorem radixValue?_toDigits {base : Nat} (two : 1 < base) (hbase : base ≤ 16) (zeros n : Nat) :
    radixValue? base (List.replicate zeros '0' ++ Nat.toDigits base n) = some n := by
  induction n using Nat.strongRecOn with
  | _ n ih =>
    rw [Nat.toDigits_eq_if two]
    split
    · next small =>
      have read := radixValue?_append_digit (radixValue?_zeros two hbase zeros)
        (radixDigit?_digitChar hbase small)
      rwa [Nat.mul_zero, Nat.zero_add] at read
    · next large =>
      have shorter : n / base < n := Nat.div_lt_self (by omega) two
      have last : n % base < base := Nat.mod_lt n (by omega)
      rw [← List.append_assoc, radixValue?_append_digit (ih _ shorter)
        (radixDigit?_digitChar hbase last), Nat.div_add_mod]

theorem radixValue?_map_toLower (base : Nat) (digits : List Char) :
    radixValue? base (digits.map Char.toLower) = radixValue? base digits := by
  simp only [radixValue?, List.foldlM_map, radixDigit?_toLower]

theorem isBlank_of_radixDigit? {base d : Nat} {c : Char} (hbase : base ≤ 16)
    (h : radixDigit? base c = some d) : isBlank c = false := by
  rw [radixDigit?_eq] at h
  obtain ⟨small, -⟩ := Option.ite_none_right_eq_some.mp h
  have range : 48 ≤ c.toNat ∧ c.toNat ≤ 102 := by
    revert small
    repeat' split
    all_goals omega
  exact isBlank_eq_false (by omega) (by omega)

theorem isBlank_of_radixValue? {base n : Nat} {digits : List Char} (hbase : base ≤ 16)
    (h : radixValue? base digits = some n) : ∀ c ∈ digits, isBlank c = false := by
  unfold radixValue? at h
  generalize 0 = value at h
  induction digits generalizing value with
  | nil => exact List.forall_mem_nil _
  | cons c digits ih =>
    obtain ⟨next, first, rest⟩ := Option.bind_eq_some_iff.mp h
    obtain ⟨d, digit, -⟩ := Option.map_eq_some_iff.mp first
    exact List.forall_mem_cons.mpr ⟨isBlank_of_radixDigit? hbase digit, ih next rest⟩

/-- Blanks around a text do not matter. -/
theorem readDouble_around {before text after : List Char} (hbefore : ∀ c ∈ before, isBlank c)
    (visible : ∀ c ∈ text, isBlank c = false) (hafter : ∀ c ∈ after, isBlank c) :
    readDouble (before ++ (text ++ after)) = readDouble text := by
  simp only [readDouble, trim, trimBy_around hbefore visible hafter, trimBy_eq_self visible]

/-- The second character of a numeral that is not decimal, and its base. -/
def radixMarks : List (Char × Nat) :=
  [('x', 16), ('X', 16), ('o', 8), ('O', 8), ('b', 2), ('B', 2)]

theorem readDouble_radix {mark : Char} {base n : Nat} {digits : List Char}
    (hmark : (mark, base) ∈ radixMarks) (nonempty : digits ≠ [])
    (read : radixValue? base digits = some n)
    (visible : ∀ c ∈ '0' :: mark :: digits, isBlank c = false) :
    readDouble ('0' :: mark :: digits) = .ofInt n := by
  have marks : ∀ entry ∈ radixMarks, radixBase? entry.1 = some entry.2 ∧ entry.1.isDigit = false ∧
      entry.1 ≠ '.' ∧ entry.1 ≠ 'e' ∧ entry.1 ≠ 'E' := by decide
  obtain ⟨known, not_digit, not_point, not_e, not_E⟩ := marks _ hmark
  have not_decimal : Decimal.read? ('0' :: mark :: digits) = none := by
    simp [Decimal.read?, Decimal.takeSign, takeDigits, Decimal.takeFraction,
      Decimal.readExponent?, not_digit, not_point, not_e, not_E]
  have radix : readRadix? ('0' :: mark :: digits) = some n := by
    simp [readRadix?, nonempty, known, read]
  have not_name : ∀ name ∈ ["Infinity", "+Infinity", "-Infinity"],
      String.ofList ('0' :: mark :: digits) ≠ name := by
    have heads : ∀ name ∈ ["Infinity", "+Infinity", "-Infinity"],
        name.toList.head? ≠ some '0' := by decide
    rintro name hname rfl
    exact heads _ hname (by rw [String.toList_ofList]; rfl)
  simp only [readDouble, trim, trimBy_eq_self visible, List.isEmpty_cons, Bool.false_eq_true,
    if_false, not_decimal, Bool.or_eq_true, decide_eq_true_eq, not_name "Infinity" (by decide),
    not_name "+Infinity" (by decide), not_name "-Infinity" (by decide), or_self, radix]

end Bulletin
