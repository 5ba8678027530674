import Bulletin.Template

/-!
# Placeholders are leftmost and shortest

A text has one decomposition into literal texts and placeholders in which every placeholder starts
at the first opening braces that are left, holds something, and ends at the first closing braces
after that, and in which no placeholder is left over. Taking a template apart finds it.
-/

namespace Bulletin

/-- A mark stands in a text at an offset. -/
def OccursAt (mark text : List Char) (k : Nat) : Prop := mark <+: text.drop k

namespace OccursAt

variable {mark text before after : List Char} {k : Nat}

theorem append_right (after : List Char) (h : OccursAt mark text k) :
    OccursAt mark (text ++ after) k := by
  rw [OccursAt, List.drop_append]
  exact h.trans (List.prefix_append _ _)

/-- Whether a mark stands within a text does not depend on what comes after the text. -/
theorem append_right_iff (h : k + mark.length ≤ text.length) :
    OccursAt mark (text ++ after) k ↔ OccursAt mark text k := by
  rw [OccursAt, OccursAt, List.drop_append_of_le_length (by omega)]
  constructor
  · intro hp
    refine List.prefix_of_prefix_length_le hp (List.prefix_append _ _) ?_
    rw [List.length_drop]
    omega
  · exact fun hp => hp.trans (List.prefix_append _ _)

/-- What comes before a text only moves the marks in it. -/
theorem append_left_iff :
    OccursAt mark (before ++ text) (before.length + k) ↔ OccursAt mark text k := by
  rw [OccursAt, OccursAt, List.drop_append, List.drop_eq_nil_of_le (Nat.le_add_right ..),
    Nat.add_sub_cancel_left, List.nil_append]

theorem between (mark before after : List Char) :
    OccursAt mark (before ++ mark ++ after) before.length := by
  rw [OccursAt, List.append_assoc, List.drop_left]
  exact List.prefix_append _ _

theorem not_nil (h : mark ≠ []) : ¬ OccursAt mark [] k := by
  rw [OccursAt, List.drop_nil, List.prefix_nil]
  exact h

end OccursAt

namespace Template

def opening : List Char := ['\x7b', '\x7b']

def closing : List Char := ['\x7d', '\x7d']

/-- The text of a template, with the braces put back. -/
def join : List (List Char × List Char) → List Char → List Char
  | [], tail => tail
  | (literal, inner) :: rest, tail => literal ++ opening ++ inner ++ closing ++ join rest tail

/-- A text is taken apart from its start on. A placeholder starts at the first opening braces, its
inner text is not empty, and no closing braces stand between the first character of the inner text
and the end of the placeholder. Behind the last one, there are no closing braces with at least one
character between them and opening braces before them. -/
inductive Splits : List Char → Template → Prop where
  | tail {text : List Char}
      (rest : ∀ i j, OccursAt opening text i → OccursAt closing text j → j < i + 3) :
      Splits text ⟨[], text⟩
  | piece {text literal inner after : List Char} {others : Template}
      (text_eq : text = literal ++ opening ++ inner ++ closing ++ after)
      (inner_ne_nil : inner ≠ [])
      (first : ∀ k < literal.length, ¬ OccursAt opening text k)
      (shortest : ∀ k, 1 ≤ k → k < inner.length → ¬ OccursAt closing (inner ++ closing) k)
      (rest : Splits after others) :
      Splits text ⟨(literal, inner) :: others.pieces, others.tail⟩

/-! ### There is no other decomposition -/

namespace Splits

variable {text : List Char} {T T' : Template}

/-- Nothing is lost of a text that is taken apart. -/
theorem join_eq (h : Splits text T) : join T.pieces T.tail = text := by
  induction h with
  | tail rest => rfl
  | piece text_eq inner_ne_nil first shortest rest ih => rw [text_eq, join, ih]

/-- Where the first placeholder ends, it has all of its characters between its braces. -/
theorem exists_occursAt {literal inner after : List Char}
    (text_eq : text = literal ++ opening ++ inner ++ closing ++ after) (inner_ne_nil : inner ≠ []) :
    ∃ i j, OccursAt opening text i ∧ OccursAt closing text j ∧ i + 3 ≤ j := by
  refine ⟨literal.length, (literal ++ opening ++ inner).length, ?_, ?_, ?_⟩
  · have h := OccursAt.between opening literal (inner ++ closing ++ after)
    rw [text_eq]
    simpa only [List.append_assoc] using h
  · rw [text_eq]
    exact OccursAt.between closing _ after
  · have : 0 < inner.length := List.length_pos_iff.mpr inner_ne_nil
    simp only [List.length_append, opening, List.length_cons, List.length_nil]
    omega

/-- The first placeholders of two decompositions start at the same offset. -/
theorem literal_length_le {literal literal' inner after : List Char}
    (text_eq : text = literal ++ opening ++ inner ++ closing ++ after)
    (first' : ∀ k < literal'.length, ¬ OccursAt opening text k) :
    literal'.length ≤ literal.length := by
  refine Nat.le_of_not_lt fun hlt => first' _ hlt ?_
  have h := OccursAt.between opening literal (inner ++ closing ++ after)
  rw [text_eq]
  simpa only [List.append_assoc] using h

/-- Two placeholders that start at the same offset end at the same offset. -/
theorem inner_length_le {inner inner' after after' : List Char}
    (same : inner ++ (closing ++ after) = inner' ++ (closing ++ after')) (inner_ne_nil : inner ≠ [])
    (shortest' : ∀ k, 1 ≤ k → k < inner'.length → ¬ OccursAt closing (inner' ++ closing) k) :
    inner'.length ≤ inner.length := by
  refine Nat.le_of_not_lt fun hlt => shortest' _ (List.length_pos_iff.mpr inner_ne_nil) hlt ?_
  have h := OccursAt.between closing inner after
  rw [List.append_assoc, same, ← List.append_assoc] at h
  exact (OccursAt.append_right_iff (by simp only [List.length_append]; omega)).mp h

theorem eq (h : Splits text T) (h' : Splits text T') : T = T' := by
  induction h generalizing T' with
  | tail rest =>
    cases h' with
    | tail rest' => rfl
    | piece text_eq' inner_ne_nil' first' shortest' rest' =>
      obtain ⟨i, j, hi, hj, hle⟩ := exists_occursAt text_eq' inner_ne_nil'
      exact absurd (rest i j hi hj) (Nat.not_lt.mpr hle)
  | @piece text literal inner after others text_eq inner_ne_nil first shortest rest ih =>
    cases h' with
    | tail rest' =>
      obtain ⟨i, j, hi, hj, hle⟩ := exists_occursAt text_eq inner_ne_nil
      exact absurd (rest' i j hi hj) (Nat.not_lt.mpr hle)
    | @piece _ literal' inner' after' others' text_eq' inner_ne_nil' first' shortest' rest' =>
      have starts : literal.length = literal'.length :=
        Nat.le_antisymm (literal_length_le text_eq' first) (literal_length_le text_eq first')
      have same := text_eq.symm.trans text_eq'
      simp only [List.append_assoc] at same
      obtain ⟨literal_eq, braced⟩ := List.append_inj same starts
      have inside := List.append_cancel_left braced
      have ends : inner.length = inner'.length :=
        Nat.le_antisymm (inner_length_le inside.symm inner_ne_nil' shortest)
          (inner_length_le inside inner_ne_nil shortest')
      obtain ⟨inner_eq, closed⟩ := List.append_inj inside ends
      obtain rfl := List.append_cancel_left closed
      rw [literal_eq, inner_eq, ih rest']

end Splits

/-! ### The decomposition that is found -/

theorem not_occursAt_zero {c : Char} {rest : List Char}
    (h : ∀ others, c = '\x7d' → rest = '\x7d' :: others → False) :
    ¬ OccursAt closing (c :: rest) 0 := by
  rintro ⟨others, hothers⟩
  obtain ⟨hc, hrest⟩ := List.cons.inj hothers
  exact h others hc.symm hrest.symm

/-- The split is at the first closing braces. -/
theorem splitAtClose?_eq_some {text inner after : List Char}
    (h : splitAtClose? text = some (inner, after)) :
    text = inner ++ closing ++ after ∧ ∀ k < inner.length, ¬ OccursAt closing text k := by
  fun_induction splitAtClose? text generalizing inner after with
  | case1 => cases h
  | case2 rest =>
    cases h
    exact ⟨rfl, fun k hk => absurd hk (Nat.not_lt_zero k)⟩
  | case3 c rest hne ih =>
    simp only [Option.map_eq_some_iff, Prod.mk.injEq, Prod.exists] at h
    obtain ⟨inner, after, found, rfl, rfl⟩ := h
    obtain ⟨rest_eq, before⟩ := ih found
    refine ⟨congrArg (c :: ·) rest_eq, fun k hk => ?_⟩
    cases k with
    | zero => exact not_occursAt_zero hne
    | succ k => exact before k (Nat.lt_of_succ_lt_succ hk)

theorem splitAtClose?_eq_none {text : List Char} (h : splitAtClose? text = none) (k : Nat) :
    ¬ OccursAt closing text k := by
  fun_induction splitAtClose? text generalizing k with
  | case1 => exact OccursAt.not_nil (List.cons_ne_nil _ _)
  | case2 rest => cases h
  | case3 c rest hne ih =>
    rw [Option.map_eq_none_iff] at h
    cases k with
    | zero => exact not_occursAt_zero hne
    | succ k => exact ih h k

theorem readInner?_eq_some {text inner after : List Char}
    (h : readInner? text = some (inner, after)) :
    text = inner ++ closing ++ after ∧ inner ≠ [] ∧
      ∀ k, 1 ≤ k → k < inner.length → ¬ OccursAt closing (inner ++ closing) k := by
  cases text with
  | nil => cases h
  | cons c rest =>
    simp only [readInner?, Option.map_eq_some_iff, Prod.mk.injEq, Prod.exists] at h
    obtain ⟨inner, after, found, rfl, rfl⟩ := h
    obtain ⟨rfl, before⟩ := splitAtClose?_eq_some found
    refine ⟨rfl, List.cons_ne_nil _ _, fun k hk hlt => ?_⟩
    cases k with
    | zero => cases hk
    | succ k =>
      intro occurs
      have inside : OccursAt closing (inner ++ closing) k := occurs
      exact before k (Nat.lt_of_succ_lt_succ hlt) (inside.append_right after)

theorem readInner?_eq_none {text : List Char} (h : readInner? text = none) {k : Nat}
    (hk : 1 ≤ k) : ¬ OccursAt closing text k := by
  cases text with
  | nil => exact OccursAt.not_nil (List.cons_ne_nil _ _)
  | cons c rest =>
    rw [readInner?, Option.map_eq_none_iff] at h
    cases k with
    | zero => cases hk
    | succ k => exact splitAtClose?_eq_none h k

/-- Either a placeholder starts right here, or it is looked for one character later. -/
theorem firstPlaceholder?_cons_cases (c : Char) (rest : List Char) :
    (∃ inside inner after, c :: rest = opening ++ inside ∧
      readInner? inside = some (inner, after) ∧
        firstPlaceholder? (c :: rest) = some ([], inner, after)) ∨
      (∀ inside, c :: rest = opening ++ inside → readInner? inside = none) ∧
        firstPlaceholder? (c :: rest) =
          (firstPlaceholder? rest).map fun (literal, inner, after) =>
            (c :: literal, inner, after) := by
  by_cases hopening : ∃ inside, c :: rest = opening ++ inside
  · obtain ⟨inside, hinside⟩ := hopening
    obtain ⟨rfl, rfl⟩ := List.cons.inj hinside
    cases found : readInner? inside with
    | some split => exact .inl ⟨inside, _, _, rfl, found, by simp [firstPlaceholder?, found]⟩
    | none =>
      refine .inr ⟨fun inside' h => ?_, by simp [firstPlaceholder?, found]⟩
      have same : opening ++ inside = opening ++ inside' := h
      rwa [← List.append_cancel_left same]
  · refine .inr ⟨fun inside h => absurd ⟨inside, h⟩ hopening, ?_⟩
    rw [firstPlaceholder?]
    rintro inside rfl rfl
    exact hopening ⟨inside, rfl⟩

/-- Opening braces that start no placeholder have no closing braces far enough behind them. -/
theorem lt_three_of_occursAt {text : List Char} {j : Nat}
    (h : ∀ inside, text = opening ++ inside → readInner? inside = none)
    (hopening : OccursAt opening text 0) (hclosing : OccursAt closing text j) : j < 3 := by
  obtain ⟨inside, rfl⟩ := hopening
  match j with
  | 0 | 1 | 2 => decide
  | j + 3 => exact absurd hclosing (readInner?_eq_none (h inside rfl) (Nat.le_add_left 1 j))

/-- The first placeholder starts at the first opening braces: if these start none, there are no
closing braces far enough behind them, and so none far enough behind any later ones. -/
theorem firstPlaceholder?_eq_some {text literal inner after : List Char}
    (h : firstPlaceholder? text = some (literal, inner, after)) :
    text = literal ++ opening ++ inner ++ closing ++ after ∧ inner ≠ [] ∧
      (∀ k < literal.length, ¬ OccursAt opening text k) ∧
        ∀ k, 1 ≤ k → k < inner.length → ¬ OccursAt closing (inner ++ closing) k := by
  induction text generalizing literal with
  | nil => cases h
  | cons c rest ih =>
    rcases firstPlaceholder?_cons_cases c rest with ⟨inside, inner', after', text_eq, read, here⟩ |
      ⟨unopened, later⟩
    · cases here.symm.trans h
      obtain ⟨rfl, inner_ne_nil, shortest⟩ := readInner?_eq_some read
      exact ⟨by simp [text_eq], inner_ne_nil, fun k hk => absurd hk (Nat.not_lt_zero k), shortest⟩
    · rw [later] at h
      simp only [Option.map_eq_some_iff, Prod.mk.injEq, Prod.exists] at h
      obtain ⟨literal, inner, after, found, rfl, rfl, rfl⟩ := h
      obtain ⟨rest_eq, inner_ne_nil, first, shortest⟩ := ih found
      refine ⟨congrArg (c :: ·) rest_eq, inner_ne_nil, fun k hk => ?_, shortest⟩
      cases k with
      | zero =>
        intro hopening
        obtain ⟨i, j, -, hj, hle⟩ := Splits.exists_occursAt rest_eq inner_ne_nil
        have := lt_three_of_occursAt unopened hopening (j := j + 1) hj
        omega
      | succ k => exact first k (Nat.lt_of_succ_lt_succ hk)

theorem firstPlaceholder?_eq_none {text : List Char} (h : firstPlaceholder? text = none) {i j : Nat}
    (hi : OccursAt opening text i) (hj : OccursAt closing text j) : j < i + 3 := by
  induction text generalizing i j with
  | nil => exact absurd hi (OccursAt.not_nil (List.cons_ne_nil _ _))
  | cons c rest ih =>
    rcases firstPlaceholder?_cons_cases c rest with ⟨inside, inner, after, -, -, here⟩ |
      ⟨unopened, later⟩
    · cases here.symm.trans h
    · rw [later, Option.map_eq_none_iff] at h
      match i, j with
      | 0, j => exact lt_three_of_occursAt unopened hi hj
      | i + 1, 0 => omega
      | i + 1, j + 1 =>
        have := ih h (i := i) (j := j) hi hj
        omega

/-- Taking a text apart finds its decomposition. -/
theorem splits_ofChars (text : List Char) : Splits text (ofChars text) := by
  fun_induction ofChars text with
  | case1 text h => exact .tail fun i j => firstPlaceholder?_eq_none h
  | case2 text literal inner after h others ih =>
    obtain ⟨text_eq, inner_ne_nil, first, shortest⟩ := firstPlaceholder?_eq_some h
    exact .piece text_eq inner_ne_nil first shortest ih

/-- A template is the decomposition of its text, and there is no other. -/
theorem splits_iff {text : String} {T : Template} : Splits text.toList T ↔ T = ofText text :=
  ⟨fun h => h.eq (splits_ofChars _), fun h => h ▸ splits_ofChars _⟩

end Template

end Bulletin
