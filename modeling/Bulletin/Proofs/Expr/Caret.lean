import Bulletin.Proofs.Expr.Tokenization
import Bulletin.Proofs.Expr.ViablePrefix
import Bulletin.Proofs.Json.Scalars
import Bulletin.Proofs.Text.Lines

/-!
# The caret below a failing expression

A message about an expression that fails past its start has a heading, the expression, and a caret
below all of it. The caret is meant to stand below the place of the failure. Its column is the
offset of the failure in the whole expression though, so it stands there only if the failure is in
the first line and no lines follow, unless they happen to be that line with the caret themselves.
-/

namespace Bulletin

/-! ### Headings are one line -/

theorem newline_not_mem_toDigits (n : Nat) : '\n' ∉ Nat.toDigits 16 n := by
  induction n using Nat.strongRecOn with
  | ind n ih =>
    have digits : ∀ d < 16, '\n' ≠ Nat.digitChar d := by decide
    rw [Nat.toDigits_eq_if (by decide)]
    split
    · next low => simp [digits n low]
    · next high =>
      rw [List.mem_append, List.mem_singleton, not_or]
      exact ⟨ih (n / 16) (Nat.div_lt_self (by omega) (by decide)),
        digits _ (Nat.mod_lt n (by decide))⟩

theorem newline_not_mem_hexText (width n : Nat) : '\n' ∉ hexText width n := by
  rw [hexText, List.mem_append, not_or]
  exact ⟨fun h => absurd (List.eq_of_mem_replicate h) (by decide), newline_not_mem_toDigits n⟩

theorem newline_not_mem_quotedChar {quote : Char} (hquote : quote ≠ '\n') (c : Char) :
    '\n' ∉ quotedChar quote c := by
  unfold quotedChar
  split
  · next special =>
    have special : c = quote ∨ c = '\\' := by simpa using special
    rcases special with rfl | rfl
    · simpa using hquote.symm
    · decide
  split
  · decide
  split
  · decide
  split
  · decide
  split
  · unfold codePointEscape
    split
    · simpa using newline_not_mem_hexText 2 _
    split
    · simpa using newline_not_mem_hexText 4 _
    · simpa using newline_not_mem_hexText 8 _
  · next other _ _ _ => simpa using Ne.symm other

theorem isOneLine_quoted (s : String) : IsOneLine (quoted s) := by
  have quote : quoteFor s.toList ≠ '\n' := by
    unfold quoteFor
    split <;> decide
  simp only [IsOneLine, quoted, String.toList_ofList, List.mem_cons, List.mem_append,
    List.mem_flatMap, List.not_mem_nil, or_false, not_or, not_exists, not_and]
  exact ⟨quote.symm, fun c _ => newline_not_mem_quotedChar quote c, quote.symm⟩

theorem isOneLine_numeral (n : WrittenNumeral) : IsOneLine (String.ofList n.text) := by
  rw [IsOneLine, String.toList_ofList]
  exact fun h => absurd (n.isNumeralChar_text _ h) (by decide)

theorem isOneLine_intText (n : Int) : IsOneLine (String.ofList (intText n)) := by
  rw [← WrittenNumeral.text_ofInt]
  exact isOneLine_numeral _

theorem isOneLine_fullText (x : Double) : IsOneLine (String.ofList x.fullText) := by
  match x with
  | .nan => decide
  | .infinite true => decide
  | .infinite false => decide
  | .finite negative units bounded =>
    obtain ⟨n, htext, -, -⟩ := Double.exists_fullText (x := .finite negative units bounded) rfl
    exact htext ▸ isOneLine_numeral n

theorem Lexeme.isOneLine_describe : ∀ lexeme : Lexeme, IsOneLine lexeme.describe
  | .literal .null => by decide
  | .literal (.boolean true) => by decide
  | .literal (.boolean false) => by decide
  | .literal (.number x) => .append (by decide) (isOneLine_fullText x)
  | .literal (.string s) => .append (by decide) (isOneLine_quoted s)
  | .identifier path => .append (by decide) (isOneLine_quoted path)
  | .operator op => by
    refine .append (.append (by decide) ?_) (by decide)
    cases op with
    | not => decide
    | binary op => cases op <;> decide
  | .lparen => by decide
  | .rparen => by decide

theorem Fault.isOneLine_problem (limit : Int) (position : Nat) :
    ∀ fault : Fault, IsOneLine (fault.problem limit position)
  | .strayCharacter _ =>
    .append (.append (.append (by decide) (isOneLine_quoted _)) (by decide)) (isOneLine_intText _)
  | .unexpectedToken lexeme => .append (by decide) lexeme.isOneLine_describe
  | .trailingToken lexeme => .append (by decide) lexeme.isOneLine_describe
  | .unexpectedEnd => (by decide : IsOneLine "Unexpected end of expression")
  | .unclosed opened => .append (by decide) (isOneLine_intText opened)
  | .tooDeep => .append (by decide) (isOneLine_intText limit)

/-! ### Messages with a caret -/

/-- A line with nothing but a caret, in a column. -/
def caretLine (column : Nat) : List Char := List.replicate column ' ' ++ ['^']

theorem caretLine_injective : Function.Injective caretLine := by
  intro column column' same
  simpa [caretLine] using congrArg List.length same

theorem isOneLine_caretLine (column : Nat) : IsOneLine (String.ofList (caretLine column)) := by
  simp [IsOneLine, caretLine]

def headingLine (problem : String) (position : Nat) : String :=
  problem ++ " at position " ++ String.ofList (intText position) ++ ":"

theorem headingLine_ne_caretLine (problem : String) (position column : Nat) :
    (headingLine problem position).toList ≠ caretLine column := by
  intro same
  have last := congrArg List.getLast? same
  rw [headingLine, String.toList_append, caretLine, List.getLast?_append, List.getLast?_append]
    at last
  cases last

theorem SyntaxError.message_report (limit : Int) (text : String) (x : SyntaxError) :
    (x.report limit text).message = locate (x.fault.problem limit x.position) text x.position := by
  obtain ⟨fault, position⟩ := x
  cases fault <;> rfl

theorem linesOf_locate {problem text : String} {position : Nat} (oneLine : IsOneLine problem)
    (later : 0 < position) (nonempty : text ≠ "") :
    linesOf (locate problem text position) =
      (headingLine problem position).toList :: linesOf text ++ [caretLine position] := by
  have heading : IsOneLine (headingLine problem position) :=
    .append (.append (.append oneLine (by decide)) (isOneLine_intText _)) (by decide)
  have shown : locate problem text position =
      headingLine problem position ++ "\n" ++
        (text ++ "\n" ++ String.ofList (caretLine position)) := by
    rw [locate, if_pos (by simpa using ⟨later, nonempty⟩), headingLine, caretLine,
      ← String.toList_inj]
    simp
  rw [shown, linesOf_append_newline, linesOf_append_newline, heading.linesOf_eq,
    (isOneLine_caretLine position).linesOf_eq, String.toList_ofList]
  rfl

/-! ### Carets below the right place -/

def TextPlace.withCaret (p : TextPlace) : List (List Char) :=
  p.before ++ p.line :: caretLine p.column :: p.after

/-- A message shows a text with a caret below the place of an offset. -/
def PointsAt (message text : String) (offset : Nat) : Prop :=
  ∃ p : TextPlace, p.IsAt (linesOf text) offset ∧ p.withCaret <:+: linesOf message

section Lists

variable {α : Type} {a b : α} {l m : List α}

theorem cons_eq_concat_iff : a :: l = l ++ [b] ↔ a = b ∧ ∀ c ∈ l, c = b := by
  induction l generalizing a with
  | nil => simp
  | cons c l ih =>
    rw [List.cons_append, List.cons.injEq, ih, List.forall_mem_cons]
    constructor
    · rintro ⟨rfl, rfl, others⟩
      exact ⟨rfl, rfl, others⟩
    · rintro ⟨rfl, rfl, others⟩
      exact ⟨rfl, rfl, others⟩

/-- What is in a list and one shorter leaves out its first or its last element. -/
theorem eq_of_infix_cons_concat (h : l <:+: a :: m ++ [b]) (length : l.length = m.length + 1) :
    l = a :: m ∨ l = m ++ [b] := by
  obtain ⟨front, back, split⟩ := h
  have total := congrArg List.length split
  simp only [List.length_append, List.length_cons, List.length_nil, length] at total
  cases front with
  | nil =>
    rw [List.nil_append] at split
    exact .inl (List.append_inj_left split (by rw [length, List.length_cons]))
  | cons c front =>
    have noFront : front = [] := List.eq_nil_of_length_eq_zero (by simp at total; omega)
    have noBack : back = [] := List.eq_nil_of_length_eq_zero (by simp at total; omega)
    rw [noFront, noBack, List.append_nil] at split
    exact .inr (List.cons.inj split).2

end Lists

/-- A caret below all lines is below the place of an offset if that is in the first line and the
others are no different from the line of the caret. -/
theorem TextPlace.IsAt.withCaret_infix_iff {p : TextPlace} {lines : List (List Char)}
    {offset : Nat} (h : p.IsAt lines offset) {heading : List Char}
    (other : ∀ column, heading ≠ caretLine column) :
    p.withCaret <:+: heading :: lines ++ [caretLine offset] ↔
      p.before = [] ∧ ∀ line ∈ p.after, line = caretLine offset := by
  obtain ⟨before, line, after, column⟩ := p
  obtain ⟨rfl, -, rfl⟩ := h
  simp only [withCaret]
  constructor
  · intro inside
    rcases eq_of_infix_cons_concat inside (by simp; omega) with same | same
    · -- the heading would be the line of the caret itself
      have front : heading :: (before ++ [line]) = before ++ [line] ++ [caretLine column] :=
        (List.append_left_inj after).mp (by simpa using same.symm)
      exact absurd (cons_eq_concat_iff.mp front).1 (other column)
    · rw [List.append_assoc, List.append_cancel_left_eq, List.cons_append, List.cons.injEq,
        cons_eq_concat_iff] at same
      obtain ⟨-, sameCaret, others⟩ := same
      have first : extent before = 0 := by
        have := caretLine_injective sameCaret
        omega
      exact ⟨extent_eq_zero_iff.mp first, others⟩
  · rintro ⟨rfl, others⟩
    rw [extent, Nat.zero_add] at others ⊢
    refine ⟨[heading], [], ?_⟩
    have back : caretLine column :: after = after ++ [caretLine column] :=
      cons_eq_concat_iff.mpr ⟨rfl, others⟩
    simp [back]

/-! ### Failures of expressions -/

namespace Evaluator

variable {e : Evaluator} {text : String} {x : SyntaxError}

/-- An expression fails within its text or at its end. -/
theorem position_le_length (failed : e.eval text = .error x) : x.position ≤ text.length := by
  rw [← String.length_toList]
  rw [eval, Expr.readText] at failed
  cases read : Token.ofText text with
  | error stray =>
    rw [read] at failed
    obtain rfl := Except.error.inj failed
    exact Nat.le_of_lt (Token.ofText_eq_error_iff.mp read).1.lt_length
  | ok tokens =>
    rw [read] at failed
    obtain ⟨taken, rest, split, -, stuck⟩ := Expr.readTokens_failsAt failed
    cases rest with
    | nil => exact Nat.le_of_eq (stuck.1.trans String.length_toList.symm)
    | cons token rest =>
      obtain ⟨spans, htokens, tokenized⟩ := Token.ofText_eq_ok_iff.mp read
      have mem : token ∈ spans.map Span.token := by simp [htokens, split]
      obtain ⟨s, hs, rfl⟩ := List.mem_map.mp mem
      have within := tokenized.within s hs
      rw [stuck.1]
      omega

theorem linesOf_message_report (failed : e.eval text = .error x) (later : 0 < x.position) :
    linesOf (x.report e.maxDepth text).message =
      (headingLine (x.fault.problem e.maxDepth x.position) x.position).toList :: linesOf text ++
        [caretLine x.position] := by
  have nonempty : text ≠ "" := by
    rintro rfl
    exact absurd (position_le_length failed) (Nat.not_le_of_lt later)
  rw [SyntaxError.message_report]
  exact linesOf_locate (x.fault.isOneLine_problem _ _) later nonempty

theorem pointsAt_report_iff_of_isAt (failed : e.eval text = .error x) (later : 0 < x.position)
    {p : TextPlace} (h : p.IsAt (linesOf text) x.position) :
    PointsAt (x.report e.maxDepth text).message text x.position ↔
      p.before = [] ∧ ∀ line ∈ p.after, line = caretLine x.position := by
  rw [← h.withCaret_infix_iff (headingLine_ne_caretLine _ x.position),
    ← linesOf_message_report failed later, PointsAt]
  constructor
  · rintro ⟨q, hq, inside⟩
    rwa [h.unique hq]
  · intro inside
    exact ⟨p, h, inside⟩

/-- The message about an expression that fails past its start is a heading, the expression and a
caret below all of it, in the column that is the offset of the failure. That is below the place of
the failure exactly if it is in the first line, and no lines follow but such that are the line of
the caret once more. So it is right for all expressions of one line. -/
theorem pointsAt_report_iff (failed : e.eval text = .error x) (later : 0 < x.position) :
    ∃ p : TextPlace, p.IsAt (linesOf text) x.position ∧
      (∃ heading, linesOf (x.report e.maxDepth text).message =
        heading :: linesOf text ++ [caretLine x.position]) ∧
      (PointsAt (x.report e.maxDepth text).message text x.position ↔
        p.before = [] ∧ ∀ line ∈ p.after, line = caretLine x.position) ∧
      (IsOneLine text → PointsAt (x.report e.maxDepth text).message text x.position) := by
  have inside : x.position < extent (linesOf text) := by
    rw [extent_linesOf]
    exact Nat.lt_succ_of_le (position_le_length failed)
  obtain ⟨p, h⟩ := TextPlace.exists_isAt inside
  have points := pointsAt_report_iff_of_isAt failed later h
  refine ⟨p, h, ⟨_, linesOf_message_report failed later⟩, points, fun oneLine => points.mpr ?_⟩
  have single : [text.toList] = p.before ++ p.line :: p.after :=
    oneLine.linesOf_eq.symm.trans h.lines_eq
  obtain ⟨hbefore, tail⟩ | ⟨-, tail⟩ := List.append_eq_singleton_iff.mp single.symm
  · exact ⟨hbefore, by simp [(List.cons.inj tail).2]⟩
  · cases tail

/-- A sum without a right operand fails at the parenthesis after it, on whatever line that is. -/
theorem eval_sum_without_right {c : Char} (blank : c = ' ' ∨ c = '\n') :
    (⟨.empty, [], 100⟩ : Evaluator).eval (String.ofList ['a', ' ', '+', c, ')']) =
      .error ⟨.unexpectedToken .rparen, 4⟩ := by
  have first : Lexeme.scan? ['a', ' ', '+', c, ')'] = some (.identifier "a", 1) := rfl
  have plus : Lexeme.scan? ['+', c, ')'] = some (.operator (.binary .add), 1) := by
    rcases blank with rfl | rfl <;> rfl
  have last : Lexeme.scan? [')'] = some (.rparen, 1) := rfl
  have isBlank_c : isBlank c := by rcases blank with rfl | rfl <;> rfl
  have tokenized : Token.ofText (String.ofList ['a', ' ', '+', c, ')']) =
      .ok [⟨.identifier "a", 0⟩, ⟨.operator (.binary .add), 2⟩, ⟨.rparen, 4⟩] := by
    rw [Token.ofText, String.toList_ofList, Token.scanFrom_lexeme rfl first, Nat.sub_self,
      List.drop_zero, Token.scanFrom_blank rfl, Token.scanFrom_lexeme rfl plus, Nat.sub_self,
      List.drop_zero, Token.scanFrom_blank isBlank_c, Token.scanFrom_lexeme rfl last, List.drop_nil,
      Token.scanFrom_nil]
    rfl
  rw [eval, Expr.readText, tokenized]
  rfl

/-- On one line the caret is below the parenthesis. -/
theorem pointsAt_of_sum_on_one_line :
    (⟨.empty, [], 100⟩ : Evaluator).eval "a + )" = .error ⟨.unexpectedToken .rparen, 4⟩ ∧
      0 < (⟨.unexpectedToken .rparen, 4⟩ : SyntaxError).position ∧
      PointsAt (SyntaxError.report 100 "a + )" ⟨.unexpectedToken .rparen, 4⟩).message
        "a + )" 4 := by
  have failed := eval_sum_without_right (.inl rfl : ' ' = ' ' ∨ ' ' = '\n')
  obtain ⟨-, -, -, -, points⟩ := pointsAt_report_iff failed (by decide)
  exact ⟨failed, by decide, points (by decide)⟩

/-- On two lines it is not, and stands four columns to the right of it. -/
theorem not_pointsAt_of_sum_on_two_lines :
    (⟨.empty, [], 100⟩ : Evaluator).eval "a +\n)" = .error ⟨.unexpectedToken .rparen, 4⟩ ∧
      ¬ PointsAt (SyntaxError.report 100 "a +\n)" ⟨.unexpectedToken .rparen, 4⟩).message
        "a +\n)" 4 := by
  have failed := eval_sum_without_right (.inr rfl : '\n' = ' ' ∨ '\n' = '\n')
  have place : TextPlace.IsAt ⟨["a +".toList], [')'], [], 0⟩ (linesOf "a +\n)") 4 :=
    ⟨by decide, by decide, by decide⟩
  refine ⟨failed, fun points => ?_⟩
  have first := (pointsAt_report_iff_of_isAt failed (by decide) place).mp points
  exact absurd first.1 (by decide)

end Evaluator

end Bulletin
