import Bulletin.Proofs.Expr.Reading
import Bulletin.Proofs.Number.Written

/-!
# Words

How the lexemes of an expression can be spelled. A word is a text that the scanner reads as one
lexeme if it is followed by a space or by nothing, which keeps greedy rules from going on. Words
with spaces between them are scanned to the lexemes they spell. There are words for all operators
and parentheses, and for all keywords, paths, decimal numerals and strings.
-/

namespace Bulletin

/-- Nothing follows, or a space. -/
def Separated (rest : List Char) : Prop := rest = [] ∨ ∃ after, rest = ' ' :: after

/-- A text that is one lexeme, if a space or nothing follows it. -/
structure Word where
  text : List Char
  lexeme : Lexeme
  starts : ∃ c others, text = c :: others ∧ isBlank c = false
  scans : ∀ rest, Separated rest → Lexeme.scan? (text ++ rest) = some (lexeme, text.length)

namespace Word

theorem scanFrom_append (w : Word) {rest : List Char} (h : Separated rest) (position : Nat) :
    Token.scanFrom position (w.text ++ rest) =
      (Token.scanFrom (position + w.text.length) rest).map (⟨w.lexeme, position⟩ :: ·) := by
  obtain ⟨c, others, htext, hblank⟩ := w.starts
  have scanned := w.scans rest h
  simp only [htext, List.cons_append] at scanned ⊢
  rw [Token.scanFrom_lexeme hblank scanned]
  simp

def line (words : List Word) : List Char := [' '].intercalate (words.map text)

/-- Words with spaces between them are scanned to the lexemes that they spell. -/
theorem scanFrom_line (words : List Word) (position : Nat) :
    ∃ tokens, Token.scanFrom position (line words) = .ok tokens ∧
      lexemes tokens = words.map lexeme := by
  induction words generalizing position with
  | nil => exact ⟨[], Token.scanFrom_nil position, rfl⟩
  | cons w others ih =>
    cases others with
    | nil =>
      have alone := w.scanFrom_append (.inl rfl) position
      rw [List.append_nil, Token.scanFrom_nil] at alone
      exact ⟨[⟨w.lexeme, position⟩], by simpa [line, Except.map] using alone, rfl⟩
    | cons next others =>
      obtain ⟨tokens, hscan, hlexemes⟩ := ih (position + w.text.length + 1)
      refine ⟨⟨w.lexeme, position⟩ :: tokens, ?_, by simp [hlexemes]⟩
      have first : line (w :: next :: others) = w.text ++ ' ' :: line (next :: others) := by
        simp [line]
      rw [first, w.scanFrom_append (.inr ⟨_, rfl⟩), Token.scanFrom_blank rfl, hscan]
      rfl

end Word

/-! ### Operators and parentheses -/

theorem Operator.scan?_symbol_append (op : Operator) {rest : List Char} (h : Separated rest) :
    Operator.scan? (op.symbol.toList ++ rest) = some op := by
  rcases h with rfl | ⟨after, rfl⟩
  · rw [List.append_nil]
    rcases op with _ | op
    · decide
    · cases op <;> decide
  · rcases op with _ | op
    · rfl
    · cases op <;> rfl

theorem Operator.exists_symbol_eq_cons (op : Operator) :
    ∃ c others, op.symbol.toList = c :: others ∧ isBlank c = false := by
  rcases op with _ | op
  · exact ⟨_, _, rfl, rfl⟩
  · cases op <;> exact ⟨_, _, rfl, rfl⟩

namespace Word

def operator (op : Operator) : Word where
  text := op.symbol.toList
  lexeme := .operator op
  starts := op.exists_symbol_eq_cons
  scans := by
    intro rest h
    obtain ⟨c, others, hsymbol, -⟩ := op.exists_symbol_eq_cons
    have scanned := op.scan?_symbol_append h
    simp only [hsymbol, List.cons_append] at scanned ⊢
    simp only [Lexeme.scan?, scanned, ← hsymbol, String.length_toList]

def lparen : Word := ⟨['('], .lparen, ⟨'(', [], rfl, rfl⟩, fun _ _ => rfl⟩

def rparen : Word := ⟨[')'], .rparen, ⟨')', [], rfl, rfl⟩, fun _ _ => rfl⟩

end Word

/-- The characters that start an operator, a parenthesis or a quoted string. -/
def marks : List Char :=
  Operator.longestFirst.filterMap (·.symbol.toList.head?) ++ ['(', ')', '\'', '"']

theorem not_mem_marks {kind : Char → Bool} (hkind : marks.any kind = false) {c : Char}
    (hc : kind c) : c ∉ marks := by
  intro hmem
  have hany : marks.any kind := List.any_eq_true.mpr ⟨c, hmem, hc⟩
  rw [hkind] at hany
  cases hany

theorem Operator.scan?_eq_none {c : Char} (h : c ∉ marks) (rest : List Char) :
    Operator.scan? (c :: rest) = none := by
  rw [Operator.scan?, List.find?_eq_none]
  intro op hop hprefix
  obtain ⟨first, others, hsymbol, -⟩ := op.exists_symbol_eq_cons
  simp only [hsymbol, List.isPrefixOf_cons_cons, Bool.and_eq_true, beq_iff_eq] at hprefix
  apply h
  rw [marks, List.mem_append, List.mem_filterMap]
  exact .inl ⟨op, hop, by rw [hsymbol, ← hprefix.1]; rfl⟩

/-- A character that is no mark starts a number or a path, if anything. -/
theorem Lexeme.scan?_cons {c : Char} (h : c ∉ marks) (rest : List Char) :
    Lexeme.scan? (c :: rest) =
      if startsNumber (c :: rest) then
        some (.literal (.number (numberValue ((c :: rest).take (numberWidth false (c :: rest))))),
          numberWidth false (c :: rest))
      else if isPathStart c then
        some (pathLexeme (String.ofList (c :: rest.takeWhile isPathPart)),
          (c :: rest.takeWhile isPathPart).length)
      else none := by
  have none := Operator.scan?_eq_none h rest
  have hne (x : Char) (hx : x ∈ marks) : c ≠ x := by
    rintro rfl
    exact h hx
  have hopen : c ≠ '(' := hne _ (by decide)
  have hclose : c ≠ ')' := hne _ (by decide)
  have hsingle : c ≠ '\'' := hne _ (by decide)
  have hdouble : c ≠ '"' := hne _ (by decide)
  simp only [Lexeme.scan?, none, hopen, hclose, hsingle, hdouble, decide_false, Bool.or_self,
    Bool.false_eq_true, if_false]

/-! ### Strings -/

/-- A way to write strings: between quotes of one kind, with a backslash before some characters,
among them that quote and the backslash itself. -/
structure Quoting where
  quote : Char
  quote_eq : quote = '\'' ∨ quote = '"'
  escaped : Char → Bool
  escaped_quote : escaped quote
  escaped_backslash : escaped '\\'

namespace Quoting

def body (q : Quoting) (s : List Char) : List Char :=
  s.flatMap fun c => if q.escaped c then ['\\', c] else [c]

theorem quotedBody_body_append (q : Quoting) (s rest : List Char) :
    quotedBody q.quote (q.body s ++ q.quote :: rest) = (s, (q.body s).length + 1) := by
  have hquote : q.quote ≠ '\\' := by rcases q.quote_eq with h | h <;> rw [h] <;> decide
  induction s with
  | nil =>
    change quotedBody q.quote (q.quote :: rest) = ([], 1)
    cases rest <;> simp [quotedBody, hquote]
  | cons c s ih =>
    by_cases hc : q.escaped c
    · have hbody : q.body (c :: s) = '\\' :: c :: q.body s := by simp [body, hc]
      rw [hbody, List.cons_append, List.cons_append, quotedBody, ih]
      rfl
    · have hbody : q.body (c :: s) = c :: q.body s := by simp [body, hc]
      have hne : c ≠ q.quote := by
        rintro rfl
        exact hc q.escaped_quote
      have hplain : c ≠ '\\' := by
        rintro rfl
        exact hc q.escaped_backslash
      rw [hbody, List.cons_append, quotedBody, ih]
      · simp [hne]
      · exact fun h => absurd h hplain
      · exact fun _ _ h => absurd h hplain

def word (q : Quoting) (s : String) : Word where
  text := q.quote :: (q.body s.toList ++ [q.quote])
  lexeme := .literal (.string s)
  starts := ⟨q.quote, _, rfl, by rcases q.quote_eq with h | h <;> rw [h] <;> rfl⟩
  scans := by
    intro rest _
    have read := q.quotedBody_body_append s.toList rest
    have scan (others : List Char) : Lexeme.scan? (q.quote :: others) =
        some (.literal (.string (String.ofList (quotedBody q.quote others).1)),
          (quotedBody q.quote others).2 + 1) := by
      rcases q.quote_eq with h | h <;> rw [h] <;> rfl
    rw [List.cons_append, List.append_assoc, List.singleton_append, scan, read]
    simp

end Quoting

/-! ### Paths and keywords -/

theorem toNat_of_isAlpha {c : Char} (h : c.isAlpha) :
    (65 ≤ c.toNat ∧ c.toNat ≤ 90) ∨ (97 ≤ c.toNat ∧ c.toNat ≤ 122) := by
  rcases Bool.or_eq_true_iff.mp h with h | h
  · obtain ⟨hlow, hhigh⟩ := of_decide_eq_true h
    exact .inl ⟨UInt32.le_iff_toNat_le.mp hlow, UInt32.le_iff_toNat_le.mp hhigh⟩
  · obtain ⟨hlow, hhigh⟩ := Bool.and_eq_true_iff.mp h
    exact .inr ⟨UInt32.le_iff_toNat_le.mp (of_decide_eq_true hlow),
      UInt32.le_iff_toNat_le.mp (of_decide_eq_true hhigh)⟩

theorem isDigit_of_isAlpha {c : Char} (h : c.isAlpha) : c.isDigit = false := by
  have hletter := toNat_of_isAlpha h
  cases hdigit : c.isDigit with
  | false => rfl
  | true =>
    have hrange := toNat_of_isDigit hdigit
    omega

theorem isBlank_of_isPathStart {c : Char} (h : isPathStart c) : isBlank c = false := by
  simp only [isPathStart, Bool.or_eq_true, decide_eq_true_eq] at h
  rcases h with h | rfl
  · have hletter := toNat_of_isAlpha h
    apply isBlank_eq_false <;> omega
  · rfl

theorem isBlank_of_isPathPart {c : Char} (h : isPathPart c) : isBlank c = false := by
  simp only [isPathPart, Char.isAlphanum, Bool.or_eq_true, decide_eq_true_eq] at h
  rcases h with (((((h | h) | rfl) | rfl) | rfl) | rfl) | rfl
  · have hletter := toNat_of_isAlpha h
    apply isBlank_eq_false <;> omega
  · exact isBlank_of_isDigit h
  all_goals rfl

theorem startsNumber_of_isPathStart {c : Char} (h : isPathStart c) (rest : List Char) :
    startsNumber (c :: rest) = false := by
  simp only [isPathStart, Bool.or_eq_true, decide_eq_true_eq] at h
  rcases h with h | rfl
  · have hpoint : c ≠ '.' := by
      rintro rfl
      cases h
    simp [startsNumber, isDigit_of_isAlpha h, hpoint]
  · rfl

theorem takeWhile_isPathPart_append {others rest : List Char} (h : others.all isPathPart)
    (hr : Separated rest) : (others ++ rest).takeWhile isPathPart = others := by
  rw [List.takeWhile_append_of_pos (List.all_eq_true.mp h)]
  rcases hr with rfl | ⟨after, rfl⟩
  · simp
  · rw [List.takeWhile_cons_of_neg (by decide), List.append_nil]

def Word.path (c : Char) (others : List Char) (hc : isPathStart c) (ho : others.all isPathPart) :
    Word where
  text := c :: others
  lexeme := pathLexeme (String.ofList (c :: others))
  starts := ⟨c, others, rfl, isBlank_of_isPathStart hc⟩
  scans := by
    intro rest hr
    rw [List.cons_append, Lexeme.scan?_cons (not_mem_marks rfl hc),
      startsNumber_of_isPathStart hc, takeWhile_isPathPart_append ho hr]
    simp only [Bool.false_eq_true, if_false, hc, if_true]

structure PathName where
  first : Char
  others : List Char
  first_start : isPathStart first
  others_part : others.all isPathPart
  not_keyword : String.ofList (first :: others) ∉ ["true", "false", "null"]

namespace PathName

def path (name : PathName) : String := String.ofList (name.first :: name.others)

def word (name : PathName) : Word :=
  .path name.first name.others name.first_start name.others_part

theorem lexeme_word (name : PathName) : name.word.lexeme = .identifier name.path := by
  have h := name.not_keyword
  simp only [List.mem_cons, List.not_mem_nil, or_false, not_or] at h
  obtain ⟨htrue, hfalse, hnull⟩ := h
  simp only [word, Word.path, pathLexeme, htrue, hfalse, hnull, if_false, path]

end PathName

/-! ### Numbers -/

def pointed : Option (List Char) → List Char
  | none => []
  | some fraction => '.' :: fraction

def isNumeralPart (c : Char) : Bool := c.isDigit || c = '_'

/-- An unsigned decimal numeral: digits with at most one point before, among or after them.
Underscores may stand anywhere after the first digit. -/
structure Numeral where
  whole : List Char
  fraction : Option (List Char)
  whole_part : whole.all isNumeralPart
  fraction_part : (fraction.getD []).all isNumeralPart
  starts : (whole ++ fraction.getD []).head?.any Char.isDigit

/-- The digits of a numeral without the underscores. -/
def digitsOf (text : List Char) : List Char := text.filter (· != '_')

theorem isDigit_of_mem_digitsOf {text : List Char} (h : text.all isNumeralPart) :
    ∀ c ∈ digitsOf text, c.isDigit := by
  intro c hc
  obtain ⟨hmem, hne⟩ := List.mem_filter.mp hc
  have hpart : isNumeralPart c := List.all_eq_true.mp h c hmem
  simpa [isNumeralPart, (by simpa using hne : c ≠ '_')] using hpart

theorem takeDigits_append_pointed {digits : List Char} (h : ∀ c ∈ digits, c.isDigit)
    (fraction : Option (List Char)) :
    takeDigits (digits ++ pointed fraction) = (digits, pointed fraction) := by
  refine takeDigits_of_head h ?_
  cases fraction <;> rfl

/-- Digits with a point among or around them are read as the decimal number that they denote. -/
theorem Decimal.read?_digits (whole : List Char) (fraction : Option (List Char))
    (hw : ∀ c ∈ whole, c.isDigit) (hf : ∀ c ∈ fraction.getD [], c.isDigit)
    (hne : whole ++ fraction.getD [] ≠ []) :
    Decimal.read? (whole ++ pointed fraction) =
      some ⟨false, digitsValue (whole ++ fraction.getD []), -((fraction.getD []).length : Int)⟩ := by
  have sign : takeSign (whole ++ pointed fraction) = (false, whole ++ pointed fraction) := by
    cases whole with
    | nil => cases fraction <;> rfl
    | cons c whole => exact takeSign_digit (hw c (List.mem_cons_self ..)) _
  have after : takeFraction (pointed fraction) = (fraction.getD [], []) := by
    cases fraction with
    | none => rfl
    | some fraction => exact takeDigits_of_forall hf
  have some_digit : (whole.isEmpty && (fraction.getD []).isEmpty) = false := by
    simpa using hne
  simp [Decimal.read?, sign, takeDigits_append_pointed hw, after, readExponent?, some_digit]

theorem numberWidth_append {text : List Char} (h : text.all isNumeralPart)
    (seenPoint : Bool) (rest : List Char) :
    numberWidth seenPoint (text ++ rest) = text.length + numberWidth seenPoint rest := by
  induction text with
  | nil => simp
  | cons c text ih =>
    obtain ⟨hc, ht⟩ := Bool.and_eq_true_iff.mp h
    have hpart : (c.isDigit || decide (c = '_')) = true := hc
    simp only [List.cons_append, numberWidth, hpart, if_true, ih ht, List.length_cons]
    omega

theorem numberWidth_separated {rest : List Char} (h : Separated rest) (seenPoint : Bool) :
    numberWidth seenPoint rest = 0 := by
  rcases h with rfl | ⟨after, rfl⟩ <;> rfl

namespace Numeral

def text (n : Numeral) : List Char := n.whole ++ pointed n.fraction

/-- The double nearest to the number that the digits denote. -/
def value (n : Numeral) : Double :=
  Decimal.toDouble ⟨false, digitsValue (digitsOf n.whole ++ digitsOf (n.fraction.getD [])),
    -((digitsOf (n.fraction.getD [])).length : Int)⟩

theorem numberWidth_append (n : Numeral) {rest : List Char} (h : Separated rest) :
    numberWidth false (n.text ++ rest) = n.text.length := by
  rw [text, List.append_assoc, Bulletin.numberWidth_append n.whole_part]
  cases hf : n.fraction with
  | none => simp [pointed, numberWidth_separated h]
  | some fraction =>
    have part := n.fraction_part
    simp only [hf, Option.getD_some] at part
    have point : numberWidth false ('.' :: (fraction ++ rest)) =
        numberWidth true (fraction ++ rest) + 1 := rfl
    rw [pointed, List.cons_append, point, Bulletin.numberWidth_append part,
      numberWidth_separated h]
    simp

/-- The first digit, after a point or not. -/
theorem exists_starts (n : Numeral) :
    ∃ c, c.isDigit ∧ ((∃ whole, n.whole = c :: whole) ∨
      ∃ fraction, n.whole = [] ∧ n.fraction = some (c :: fraction)) := by
  obtain ⟨whole, fraction, -, -, starts⟩ := n
  cases whole with
  | cons c whole => exact ⟨c, starts, .inl ⟨whole, rfl⟩⟩
  | nil =>
    cases fraction with
    | none => cases starts
    | some fraction =>
      cases fraction with
      | nil => cases starts
      | cons c fraction => exact ⟨c, starts, .inr ⟨fraction, rfl, rfl⟩⟩

theorem digitsOf_ne_nil (n : Numeral) :
    digitsOf n.whole ++ digitsOf (n.fraction.getD []) ≠ [] := by
  obtain ⟨c, hc, hstart⟩ := n.exists_starts
  have hne : c ≠ '_' := ne_of_isDigit hc rfl
  rcases hstart with ⟨whole, hw⟩ | ⟨fraction, -, hf⟩
  · simp [hw, digitsOf, hne]
  · simp [hf, digitsOf, hne]

/-- Without its underscores, a numeral is read as the decimal number that its digits denote. -/
theorem read?_text (n : Numeral) :
    Decimal.read? (n.text.filter (· != '_')) =
      some ⟨false, digitsValue (digitsOf n.whole ++ digitsOf (n.fraction.getD [])),
        -((digitsOf (n.fraction.getD [])).length : Int)⟩ := by
  have hfilter : n.text.filter (· != '_') =
      digitsOf n.whole ++ pointed (n.fraction.map digitsOf) := by
    cases hf : n.fraction <;> simp [text, hf, pointed, digitsOf]
  have hgetD : (n.fraction.map digitsOf).getD [] = digitsOf (n.fraction.getD []) := by
    cases n.fraction <;> rfl
  have read := Decimal.read?_digits (digitsOf n.whole) (n.fraction.map digitsOf)
  rw [hgetD] at read
  rw [hfilter, read (isDigit_of_mem_digitsOf n.whole_part)
    (isDigit_of_mem_digitsOf n.fraction_part) n.digitsOf_ne_nil]

theorem numberValue_text (n : Numeral) : numberValue n.text = n.value := by
  rw [numberValue, n.read?_text, value]

def word (n : Numeral) : Word where
  text := n.text
  lexeme := .literal (.number n.value)
  starts := by
    obtain ⟨c, hc, ⟨whole, hw⟩ | ⟨fraction, hw, hf⟩⟩ := n.exists_starts
    · exact ⟨c, _, by rw [text, hw, List.cons_append], isBlank_of_isDigit hc⟩
    · exact ⟨'.', _, by rw [text, hw, hf]; rfl, rfl⟩
  scans := by
    intro rest hr
    have width := n.numberWidth_append hr
    have first : ∃ c others, n.text ++ rest = c :: others ∧ c ∉ marks ∧
        startsNumber (c :: others) := by
      obtain ⟨c, hc, ⟨whole, hw⟩ | ⟨fraction, hw, hf⟩⟩ := n.exists_starts
      · exact ⟨c, _, by rw [text, hw, List.cons_append, List.cons_append],
          not_mem_marks rfl hc, by simp [startsNumber, hc]⟩
      · exact ⟨'.', _, by rw [text, hw, hf]; rfl, by decide, by simp [startsNumber, hc]⟩
    obtain ⟨c, others, htext, hmarks, hstarts⟩ := first
    rw [htext] at width ⊢
    rw [Lexeme.scan?_cons hmarks, if_pos hstarts, width, ← htext, List.take_left,
      n.numberValue_text]

end Numeral

end Bulletin
