import Mathlib.Data.List.Basic

/-!
# Lines and columns

A text has one line more than it has line feeds. Every offset of it, that of its end included,
stands in one column of one line: a line feed belongs to the line that it ends.
-/

namespace Bulletin

/-- The lines of a text, without the line feeds between them. -/
def linesOf (text : String) : List (List Char) := text.toList.splitOn '\n'

def IsOneLine (text : String) : Prop := '\n' ∉ text.toList

instance (text : String) : Decidable (IsOneLine text) :=
  inferInstanceAs (Decidable (¬ '\n' ∈ text.toList))

theorem IsOneLine.append {first rest : String} (hfirst : IsOneLine first)
    (hrest : IsOneLine rest) : IsOneLine (first ++ rest) := by
  rw [IsOneLine, String.toList_append, List.mem_append]
  exact not_or.mpr ⟨hfirst, hrest⟩

theorem IsOneLine.linesOf_eq {text : String} (h : IsOneLine text) : linesOf text = [text.toList] :=
  List.splitOn_eq_singleton h

theorem linesOf_append_newline (first rest : String) :
    linesOf (first ++ "\n" ++ rest) = linesOf first ++ linesOf rest := by
  rw [linesOf, String.toList_append, String.toList_append, List.append_assoc]
  exact List.splitOnP_append_cons _ _ rfl

/-- How far the line after some lines is from the start of the first one. -/
def extent : List (List Char) → Nat
  | [] => 0
  | line :: lines => line.length + 1 + extent lines

theorem extent_eq_zero_iff {lines : List (List Char)} : extent lines = 0 ↔ lines = [] := by
  cases lines <;> simp [extent]

theorem extent_linesOf (text : String) : extent (linesOf text) = text.length + 1 := by
  rw [linesOf, ← String.length_toList]
  induction text.toList with
  | nil => rfl
  | cons c rest ih =>
    rw [List.splitOn] at ih ⊢
    rw [List.splitOnP_cons_eq_if_modifyHead]
    split
    · rw [extent, ih, List.length_nil, List.length_cons]
      omega
    · obtain ⟨line, lines, split⟩ := List.exists_cons_of_ne_nil (List.splitOnP_ne_nil _ rest)
      rw [split, extent] at ih
      rw [split, List.modifyHead_cons, extent, List.length_cons, List.length_cons]
      omega

/-- A column of a line that stands among others. -/
structure TextPlace where
  before : List (List Char)
  line : List Char
  after : List (List Char)
  column : Nat

namespace TextPlace

variable {lines : List (List Char)} {offset : Nat}

/-- The place is that of an offset of the text with these lines. -/
structure IsAt (p : TextPlace) (lines : List (List Char)) (offset : Nat) : Prop where
  lines_eq : lines = p.before ++ p.line :: p.after
  column_le : p.column ≤ p.line.length
  offset_eq : offset = extent p.before + p.column

theorem exists_isAt (h : offset < extent lines) : ∃ p : TextPlace, p.IsAt lines offset := by
  induction lines generalizing offset with
  | nil => exact absurd h (Nat.not_lt_zero _)
  | cons line lines ih =>
    rw [extent] at h
    by_cases here : offset ≤ line.length
    · exact ⟨⟨[], line, lines, offset⟩, rfl, here, (Nat.zero_add _).symm⟩
    · obtain ⟨p, hlines, hcolumn, hoffset⟩ := @ih (offset - (line.length + 1)) (by omega)
      refine ⟨⟨line :: p.before, p.line, p.after, p.column⟩, by rw [hlines]; rfl, hcolumn, ?_⟩
      change offset = extent (line :: p.before) + p.column
      rw [extent]
      omega

theorem IsAt.unique {p q : TextPlace} (hp : p.IsAt lines offset) (hq : q.IsAt lines offset) :
    p = q := by
  obtain ⟨before, line, after, column⟩ := p
  obtain ⟨before', line', after', column'⟩ := q
  obtain ⟨rfl, within, rfl⟩ := hp
  obtain ⟨same, within', sameOffset⟩ := hq
  simp only at within within' same sameOffset
  induction before generalizing before' with
  | nil =>
    cases before' with
    | nil =>
      obtain ⟨rfl, rfl⟩ := List.cons.inj same
      simpa using sameOffset
    | cons first before' =>
      obtain ⟨rfl, -⟩ := List.cons.inj same
      simp only [extent] at sameOffset
      omega
  | cons first before ih =>
    cases before' with
    | nil =>
      obtain ⟨rfl, -⟩ := List.cons.inj same
      simp only [extent] at sameOffset
      omega
    | cons first' before' =>
      obtain ⟨rfl, tails⟩ := List.cons.inj same
      simp only [extent] at sameOffset
      cases ih before' tails (by omega)
      rfl

end TextPlace

end Bulletin
