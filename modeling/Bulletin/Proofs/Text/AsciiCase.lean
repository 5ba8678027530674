import Bulletin.Text.Basic
import Mathlib

/-!
# Case and ASCII

The lower case of a text is ASCII only if the text is, but for a single character beyond ASCII: the
kelvin sign, which is an upper-case letter of its own and has the letter `k` for its lower case. On
such texts both case mappings work character by character, wherever the text stands.
-/

namespace Bulletin

/-- A sign that is told from the letter `K`, but not in lower case. -/
def kelvinSign : Char := Char.ofNat 0x212A

def LowersToAscii (c : Char) : Prop := isAscii c ∨ c = kelvinSign

/-- The lower case of a character that has one in ASCII. -/
def asciiLower (c : Char) : Char := if c = kelvinSign then 'k' else c.toLower

/-! ### Characters -/

section Characters

variable {c : Char}

/-- What holds of the first code points holds of all ASCII characters. -/
theorem forall_isAscii {p : Char → Prop} (table : ∀ n < 128, p (Char.ofNat n)) (h : isAscii c) :
    p c := by
  have found := table c.toNat (by simpa [isAscii] using h)
  rwa [Char.ofNat_toNat] at found

theorem isAscii_toUpper (h : isAscii c) : isAscii c.toUpper :=
  forall_isAscii (p := fun c => isAscii c.toUpper) (by decide) h

theorem isAscii_toLower (h : isAscii c) : isAscii c.toLower :=
  forall_isAscii (p := fun c => isAscii c.toLower) (by decide) h

theorem asciiLower_of_isAscii (h : isAscii c) : asciiLower c = c.toLower := by
  rw [asciiLower, if_neg]
  rintro rfl
  exact absurd h (by decide)

theorem LowersToAscii.lowerChar (h : LowersToAscii c) : lowerChar c = [asciiLower c] := by
  rcases h with ascii | rfl
  · rw [Bulletin.lowerChar, if_pos ascii, asciiLower_of_isAscii ascii]
  · decide +kernel

theorem LowersToAscii.upperChar (h : LowersToAscii c) : upperChar c = [c.toUpper] := by
  rcases h with ascii | rfl
  · rw [Bulletin.upperChar, if_pos ascii]
  · decide +kernel

theorem LowersToAscii.ne_capitalSigma (h : LowersToAscii c) : c ≠ capitalSigma := by
  rintro rfl
  rcases h with ascii | same
  · exact absurd ascii (by decide)
  · exact absurd same (by decide)

/-- A range moves no code point into ASCII, unless it is in ASCII itself or is the kelvin sign
alone. -/
def CaseRange.StaysBeyondAscii (r : CaseRange) : Prop :=
  r.last < 128 ∨ (r.first = 0x212A ∧ r.last = 0x212A) ∨
    128 ≤ r.first + r.shift ∧ (r.last + r.shift < 0xD800 ∨
      0xE000 ≤ r.first + r.shift ∧ r.last + r.shift < 0x110000)

instance (r : CaseRange) : Decidable r.StaysBeyondAscii :=
  inferInstanceAs (Decidable (_ ∨ _ ∨ _ ∧ (_ ∨ _ ∧ _)))

theorem lowerRanges_stay : ∀ r ∈ lowerRanges, r.StaysBeyondAscii := by decide +kernel

theorem not_isAscii_of_map? {r : CaseRange} (stays : r.StaysBeyondAscii) {n : Nat}
    (beyond : 128 ≤ n) (other : n ≠ 0x212A) {d : Char} (h : r.map? n = some d) :
    isAscii d = false := by
  obtain ⟨inside, moved⟩ := Option.ite_none_right_eq_some.mp h
  obtain rfl := Option.some.inj moved
  simp only [Bool.and_eq_true, decide_eq_true_eq] at inside
  have valid : (n + r.shift).toNat.isValidChar ∧ 128 ≤ (n + r.shift).toNat := by
    unfold CaseRange.StaysBeyondAscii at stays
    unfold Nat.isValidChar
    omega
  rw [isAscii, decide_eq_false_iff_not, Char.toNat_ofNat, if_pos valid.1]
  omega

/-- Any other character has something beyond ASCII in its lower case. -/
theorem exists_mem_lowerChar (h : ¬ LowersToAscii c) : ∃ d ∈ lowerChar c, isAscii d = false := by
  obtain ⟨beyond, other⟩ := not_or.mp h
  have code : 128 ≤ c.toNat := by simpa [isAscii] using beyond
  have differs : c.toNat ≠ 0x212A := fun same => other (by
    rw [← Char.ofNat_toNat c, same]
    rfl)
  rw [lowerChar, if_neg beyond, mapCase]
  split
  · next several found =>
    have table : ∀ e ∈ lowerExpansions, (e.2.map Char.ofNat).any (!isAscii ·) := by decide
    obtain ⟨before, after, split, -⟩ := List.lookup_eq_some_iff.mp found
    obtain ⟨d, hd, notAscii⟩ :=
      List.any_eq_true.mp (table (c.toNat, several) (by rw [split]; simp))
    exact ⟨d, hd, by simpa using notAscii⟩
  · refine ⟨_, List.mem_singleton_self _, ?_⟩
    cases moved : lowerRanges.findSome? (·.map? c.toNat) with
    | none => simpa using beyond
    | some d =>
      obtain ⟨r, hr, hd⟩ := List.exists_of_findSome?_eq_some moved
      exact not_isAscii_of_map? (lowerRanges_stay r hr) code differs hd

end Characters

/-! ### Texts -/

section Texts

variable {text : List Char}

/-- Only texts of such characters have an ASCII lower case. -/
theorem lowersToAscii_of_lowerAfter {before : List Char}
    (h : ∀ d ∈ lowerAfter before text, isAscii d) : ∀ c ∈ text, LowersToAscii c := by
  induction text generalizing before with
  | nil => exact List.forall_mem_nil _
  | cons c rest ih =>
    rw [lowerAfter, List.forall_mem_append] at h
    obtain ⟨first, others⟩ := h
    refine List.forall_mem_cons.mpr ⟨Classical.byContradiction fun beyond => ?_, ih others⟩
    split at first
    · -- a capital sigma has a small sigma of one form or the other for its lower case
      have sigma := first _ (List.mem_singleton_self _)
      split at sigma <;> exact absurd sigma (by decide)
    · obtain ⟨d, hd, notAscii⟩ := exists_mem_lowerChar beyond
      rw [first d hd] at notAscii
      cases notAscii

theorem lowerAfter_eq_map (h : ∀ c ∈ text, LowersToAscii c) (before : List Char) :
    lowerAfter before text = text.map asciiLower := by
  induction text generalizing before with
  | nil => rfl
  | cons c rest ih =>
    obtain ⟨first, others⟩ := List.forall_mem_cons.mp h
    rw [lowerAfter, if_neg first.ne_capitalSigma, first.lowerChar, ih others]
    rfl

theorem upperString_eq_map {s : String} (h : ∀ c ∈ s.toList, LowersToAscii c) :
    (upperString s).toList = s.toList.map Char.toUpper := by
  rw [upperString, String.toList_ofList, List.flatMap_congr fun c hc => (h c hc).upperChar]
  exact List.flatMap_pure_eq_map ..

theorem lowerString_eq_map {s : String} (h : ∀ c ∈ s.toList, LowersToAscii c) :
    (lowerString s).toList = s.toList.map asciiLower := by
  rw [lowerString, String.toList_ofList, lowerAfter_eq_map h]

theorem lowersToAscii_of_lowerString {s : String} (h : ∀ d ∈ (lowerString s).toList, isAscii d) :
    ∀ c ∈ s.toList, LowersToAscii c := by
  rw [lowerString, String.toList_ofList] at h
  exact lowersToAscii_of_lowerAfter h

end Texts

/-! ### ASCII texts -/

def IsAsciiText (s : String) : Prop := ∀ c ∈ s.toList, isAscii c

section AsciiTexts

variable {s : String}

theorem IsAsciiText.lowersToAscii (h : IsAsciiText s) : ∀ c ∈ s.toList, LowersToAscii c :=
  fun c hc => .inl (h c hc)

theorem IsAsciiText.upperString (h : IsAsciiText s) : IsAsciiText (upperString s) := by
  rw [IsAsciiText, upperString_eq_map h.lowersToAscii]
  exact List.forall_mem_map.mpr fun c hc => isAscii_toUpper (h c hc)

theorem IsAsciiText.toList_lowerString (h : IsAsciiText s) :
    (lowerString s).toList = s.toList.map Char.toLower := by
  rw [lowerString_eq_map h.lowersToAscii]
  exact List.map_congr_left fun c hc => asciiLower_of_isAscii (h c hc)

theorem IsAsciiText.lowerString (h : IsAsciiText s) : IsAsciiText (lowerString s) := by
  rw [IsAsciiText, h.toList_lowerString]
  exact List.forall_mem_map.mpr fun c hc => isAscii_toLower (h c hc)

theorem lowerString_upperString (h : IsAsciiText s) :
    lowerString (upperString s) = lowerString s := by
  rw [← String.toList_inj, h.upperString.toList_lowerString, h.toList_lowerString,
    upperString_eq_map h.lowersToAscii, List.map_map]
  exact List.map_congr_left fun c _ => c.toLower_toUpper_eq_toLower

theorem upperString_lowerString (h : IsAsciiText s) :
    upperString (lowerString s) = upperString s := by
  rw [← String.toList_inj, upperString_eq_map h.lowerString.lowersToAscii, h.toList_lowerString,
    upperString_eq_map h.lowersToAscii, List.map_map]
  exact List.map_congr_left fun c _ => c.toUpper_toLower_eq_toUpper

theorem lowerString_eq_self (h : IsAsciiText s) (lower : ∀ c ∈ s.toList, c.isUpper = false) :
    lowerString s = s := by
  rw [← String.toList_inj, h.toList_lowerString,
    List.map_congr_left fun c hc => Char.toLower_eq_of_not_isUpper (by simp [lower c hc]),
    List.map_id']

end AsciiTexts

end Bulletin
