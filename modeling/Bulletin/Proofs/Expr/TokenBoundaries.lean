import Bulletin.Proofs.Expr.Tokenization
import Bulletin.Proofs.FirstFault

/-!
# Token boundaries

An expression can be cut in front of any of its tokens, and blanks can be put there. Each part of a
cut expression has the tokens that it had in the whole, and after blanks the tokens are the same but
later. Nothing that a rule looks at on the left of a boundary depends on what stands on the right,
unless nothing stands there.
-/

namespace Bulletin

def Token.later (count : Nat) (t : Token) : Token := ⟨t.lexeme, t.position + count⟩

def StrayChar.later (count : Nat) (stray : StrayChar) : StrayChar :=
  ⟨stray.character, stray.position + count⟩

namespace Token

/-- The scanner only counts positions: from a later start, everything that it finds is later. -/
theorem scanFrom_add (count position : Nat) (text : List Char) :
    scanFrom (position + count) text =
      ((scanFrom position text).map (List.map (later count))).mapError (StrayChar.later count) := by
  fun_induction scanFrom position text with
  | case1 position => rw [scanFrom_nil]; rfl
  | case2 position c rest hblank ih =>
    rw [scanFrom_blank hblank, ← ih, Nat.add_right_comm]
  | case3 position c rest hblank none =>
    rw [scanFrom.eq_def]
    simp only [hblank, none]
    rfl
  | case4 position c rest hblank lexeme width found ih =>
    rw [scanFrom_lexeme (Bool.eq_false_iff.mpr hblank) found, Nat.add_right_comm, ih]
    cases scanFrom (position + width) (rest.drop (width - 1)) <;> rfl

theorem scanFrom_blanks {blanks : List Char} (h : ∀ c ∈ blanks, isBlank c) (position : Nat)
    (rest : List Char) :
    scanFrom position (blanks ++ rest) = scanFrom (position + blanks.length) rest := by
  induction blanks generalizing position with
  | nil => rfl
  | cons c blanks ih =>
    obtain ⟨hc, hblanks⟩ := List.forall_mem_cons.mp h
    rw [List.cons_append, scanFrom_blank hc, ih hblanks, List.length_cons, Nat.add_assoc,
      Nat.add_comm 1]

end Token

namespace IsTokenization

variable {text : List Char} {start stop : Nat} {before after : List Span} {s : Span}

/-- The spans before one of them are the lexemes up to its start. -/
theorem up_to (h : IsTokenization text start stop (before ++ s :: after)) :
    IsTokenization text start s.token.position before := by
  have hs := h.within s (by simp)
  obtain ⟨hordered, hlater, hbetween⟩ := List.pairwise_append.mp h.ordered
  refine ⟨fun b hb => ?_, hordered, fun offset hstart hoffset houtside => ?_, fun b hb => ?_⟩
  · obtain ⟨hposition, hlength, -⟩ := h.within b (List.mem_append_left _ hb)
    exact ⟨hposition, hlength, hbetween b hb s (List.mem_cons_self ..)⟩
  · refine h.blank_outside offset hstart (by omega) fun b hb hcovers => ?_
    rcases List.mem_append.mp hb with hb | hb
    · exact houtside b hb hcovers
    · have : s.token.position ≤ b.token.position := by
        rcases List.mem_cons.mp hb with rfl | hb
        · exact Nat.le_refl _
        · have := (List.pairwise_cons.mp hlater).1 b hb
          omega
      have := hcovers.1
      omega
  · exact h.longest b (List.mem_append_left _ hb)

/-- Blanks can be put where something stands. -/
theorem of_blanks {first rest blanks : List Char} {spans : List Span}
    (h : IsTokenization (first ++ rest) start stop spans) (hfirst : stop ≤ first.length)
    (hrest : rest ≠ []) (hblanks : ∀ c ∈ blanks, isBlank c) :
    IsTokenization (first ++ (blanks ++ rest)) start stop spans := by
  cases blanks with
  | nil => exact h
  | cons c blanks =>
    refine h.of_longest hfirst fun _ _ _ rule longest => ?_
    exact longest.of_blank hrest (hblanks c (List.mem_cons_self ..)) (blanks ++ rest)

end IsTokenization

namespace Token

variable {expression : String} {before after : List Token} {t : Token}

/-- What is read in front of a token, and what is read from it on. -/
theorem exists_spans_before (read : ofText expression = .ok (before ++ t :: after)) :
    t.position < expression.toList.length ∧
      (∃ spans, spans.map Span.token = before ∧
        IsTokenization expression.toList 0 t.position spans) ∧
      scanFrom t.position (expression.toList.drop t.position) = .ok (t :: after) := by
  obtain ⟨spans, hspans, h⟩ := ofText_eq_ok_iff.mp read
  obtain ⟨first, others, rfl, rfl, hothers⟩ := List.map_eq_append_iff.mp hspans
  obtain ⟨s, last, rfl, rfl, rfl⟩ := List.map_eq_cons_iff.mp hothers
  have hs := h.within s (by simp)
  have hposition : s.token.position < expression.toList.length := by omega
  refine ⟨hposition, ⟨first, rfl, h.up_to⟩, ?_⟩
  have scanned := ofText_eq_of_stop h.up_to (Nat.le_of_lt hposition)
  rw [read] at scanned
  obtain ⟨tokens, hrest, htokens⟩ := map_eq_ok_iff.mp scanned.symm
  rw [hrest, List.append_cancel_left htokens]

/-- In front of a token, an expression can be cut: its first part has the tokens before, and its
last part has that token and those after it, each as much earlier as characters are cut off. Blanks
can be put there as well, and then that token and those after it are as much later. -/
theorem ofText_at_boundary (read : ofText expression = .ok (before ++ t :: after)) :
    ofText (String.ofList (expression.toList.take t.position)) = .ok before ∧
      (∃ tokens, ofText (String.ofList (expression.toList.drop t.position)) = .ok tokens ∧
        tokens.map (later t.position) = t :: after) ∧
      ∀ blanks : List Char, (∀ c ∈ blanks, isBlank c) →
        ofText (String.ofList (expression.toList.take t.position ++ blanks ++
          expression.toList.drop t.position)) =
            .ok (before ++ (t :: after).map (later blanks.length)) := by
  obtain ⟨hposition, ⟨spans, rfl, h⟩, hrest⟩ := exists_spans_before read
  refine ⟨ofText_take h (Nat.le_of_lt hposition), ?_, fun blanks hblanks => ?_⟩
  · have moved := scanFrom_add t.position 0 (expression.toList.drop t.position)
    rw [Nat.zero_add, hrest] at moved
    rw [ofText, String.toList_ofList]
    exact map_eq_ok_iff.mp (mapError_eq_ok_iff.mp moved.symm)
  · have hlength : (expression.toList.take t.position).length = t.position :=
      List.length_take_of_le (Nat.le_of_lt hposition)
    have hne : expression.toList.drop t.position ≠ [] := by
      rw [Ne, List.drop_eq_nil_iff]
      omega
    rw [← List.take_append_drop t.position expression.toList] at h
    have spaced := h.of_blanks (Nat.le_of_eq hlength.symm) hne hblanks
    rw [ofText, String.toList_ofList, List.append_assoc]
    have scanned := spaced.scanFrom_eq (Nat.zero_le _) (by rw [List.length_append]; omega)
    rw [List.drop_zero, List.drop_append_of_le_length (Nat.le_of_eq hlength.symm),
      List.drop_of_length_le (Nat.le_of_eq hlength), List.nil_append, scanFrom_blanks hblanks,
      scanFrom_add, hrest] at scanned
    exact scanned

/-- Between `!` and `!=` there is a boundary, although no character separates them. A cut leaves
both as they are, and a line break moves what comes after it. -/
theorem ofText_between_operators :
    ofText "'x'!!=y" = .ok ([⟨.literal (.string "x"), 0⟩, ⟨.operator .not, 3⟩] ++
        ⟨.operator (.binary .looseNe), 4⟩ :: [⟨.identifier "y", 6⟩]) ∧
      ofText "'x'!" = .ok [⟨.literal (.string "x"), 0⟩, ⟨.operator .not, 3⟩] ∧
      (∃ tokens, ofText "!=y" = .ok tokens ∧ tokens.map (later 4) =
        [⟨.operator (.binary .looseNe), 4⟩, ⟨.identifier "y", 6⟩]) ∧
      ofText "'x'! \n!=y" = .ok [⟨.literal (.string "x"), 0⟩, ⟨.operator .not, 3⟩,
        ⟨.operator (.binary .looseNe), 6⟩, ⟨.identifier "y", 8⟩] := by
  have read : ofText "'x'!!=y" = .ok ([⟨.literal (.string "x"), 0⟩, ⟨.operator .not, 3⟩] ++
      ⟨.operator (.binary .looseNe), 4⟩ :: [⟨.identifier "y", 6⟩]) :=
    toOption_eq_some_iff.mp (by decide +kernel)
  obtain ⟨cut, rest, spaced⟩ := ofText_at_boundary read
  have blanks : ∀ c ∈ [' ', '\n'], isBlank c := List.all_eq_true.mp (by decide)
  exact ⟨read, cut, rest, spaced [' ', '\n'] blanks⟩

end Token

end Bulletin
