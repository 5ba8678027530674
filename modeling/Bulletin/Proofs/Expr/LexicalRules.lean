import Bulletin.Proofs.Expr.Spelling
import Bulletin.Proofs.Number.Nearest

/-!
# Lexical rules

The five rules of the lexical grammar, apart from any way of scanning. A rule says which texts it
matches, and as which lexeme; only an unclosed string also needs to know that nothing follows it.
Strings and numbers are the rules whose matches are read character by character: the reading
functions find the longest ones.
-/

namespace Bulletin

inductive Rule where
  | operator
  | paren
  | string
  | number
  | path
  deriving DecidableEq

def keywords : List (String × Literal) :=
  [("true", .boolean true), ("false", .boolean false), ("null", .null)]

/-- What stands between quotes, as it is written and as it is meant: a backslash stands for the
character after it, and a quote without one would be the end. -/
inductive QuotedText (quote : Char) : List Char → List Char → Prop where
  | nil : QuotedText quote [] []
  | plain {c : Char} {written text : List Char} (not_quote : c ≠ quote) (not_backslash : c ≠ '\\')
      (rest : QuotedText quote written text) : QuotedText quote (c :: written) (c :: text)
  | escaped {c : Char} {written text : List Char} (rest : QuotedText quote written text) :
      QuotedText quote ('\\' :: c :: written) (c :: text)

/-- Digits and underscores with at most one point among them, of which the first is a digit or the
point before one. -/
structure IsNumberText (text : List Char) : Prop where
  parts : ∀ c ∈ text, c.isDigit ∨ c = '_' ∨ c = '.'
  points : text.count '.' ≤ 1
  starts : ∃ c others, c.isDigit ∧ (text = c :: others ∨ text = '.' :: c :: others)

namespace Rule

/-- A rule matches a text, with others after it, as a lexeme. -/
inductive Matches : Rule → List Char → List Char → Lexeme → Prop where
  | operator (op : Operator) (rest : List Char) :
      Matches .operator op.symbol.toList rest (.operator op)
  | lparen (rest : List Char) : Matches .paren ['('] rest .lparen
  | rparen (rest : List Char) : Matches .paren [')'] rest .rparen
  | closed {quote : Char} {written text : List Char} (isQuote : quote = '\'' ∨ quote = '"')
      (body : QuotedText quote written text) (rest : List Char) :
      Matches .string (quote :: (written ++ [quote])) rest
        (.literal (.string (String.ofList text)))
  | unclosed {quote : Char} {written text stray : List Char} (isQuote : quote = '\'' ∨ quote = '"')
      (body : QuotedText quote written text) (stray_eq : stray = [] ∨ stray = ['\\']) :
      Matches .string (quote :: (written ++ stray)) [] (.literal (.string (String.ofList text)))
  | number {text : List Char} (isNumber : IsNumberText text) (rest : List Char) :
      Matches .number text rest
        (.literal (.number (Value.toNumber (.str (String.ofList (text.filter (· != '_')))))))
  | keyword {word : String} {l : Literal} (isKeyword : (word, l) ∈ keywords) (rest : List Char) :
      Matches .path word.toList rest (.literal l)
  | identifier {c : Char} {others : List Char} (start : isPathStart c)
      (parts : ∀ c ∈ others, isPathPart c)
      (not_keyword : String.ofList (c :: others) ∉ keywords.map Prod.fst) (rest : List Char) :
      Matches .path (c :: others) rest (.identifier (String.ofList (c :: others)))

/-- A match that no character after it makes longer. -/
def Longest (rule : Rule) (text rest : List Char) (x : Lexeme) : Prop :=
  rule.Matches text rest x ∧
    ∀ more rest' y, rest = more ++ rest' → more ≠ [] → ¬ rule.Matches (text ++ more) rest' y

def Applies (rule : Rule) (text : List Char) : Prop :=
  ∃ first rest x, text = first ++ rest ∧ rule.Matches first rest x

end Rule

/-! ### Strings -/

/-- What may follow the body of a quoted string: its quote, or the end with at most a backslash
before it. -/
def Closes (quote : Char) (rest : List Char) : Prop :=
  (∃ after, rest = quote :: after) ∨ rest = [] ∨ rest = ['\\']

theorem Closes.cons {quote c : Char} {rest : List Char} (h : Closes quote (c :: rest)) :
    c = quote ∨ c = '\\' ∧ rest = [] := by
  rcases h with ⟨after, h⟩ | h | h
  · exact .inl (List.cons.inj h).1
  · cases h
  · exact .inr (List.cons.inj h)

namespace QuotedText

variable {quote : Char} {written written' text text' rest rest' : List Char}

theorem not_closes (hquote : quote ≠ '\\') (h : QuotedText quote written text)
    (hne : written ≠ []) : ¬ Closes quote (written ++ rest) := by
  intro hcloses
  cases h with
  | nil => exact hne rfl
  | plain not_quote not_backslash body =>
    rcases hcloses.cons with rfl | ⟨rfl, -⟩
    · exact not_quote rfl
    · exact not_backslash rfl
  | escaped body =>
    rcases hcloses.cons with rfl | ⟨-, h⟩
    · exact hquote rfl
    · cases h

/-- A text has one body of a quoted string at its start. -/
theorem unique (hquote : quote ≠ '\\') (h : QuotedText quote written text)
    (h' : QuotedText quote written' text') (hrest : Closes quote rest)
    (hrest' : Closes quote rest') (same : written ++ rest = written' ++ rest') :
    written = written' ∧ text = text' := by
  induction h generalizing written' text' with
  | nil =>
    rw [List.nil_append] at same
    rw [same] at hrest
    cases h' with
    | nil => exact ⟨rfl, rfl⟩
    | plain not_quote not_backslash body' =>
      exact absurd hrest ((body'.plain not_quote not_backslash).not_closes hquote (by simp))
    | escaped body' => exact absurd hrest (body'.escaped.not_closes hquote (by simp))
  | plain not_quote not_backslash body ih =>
    cases h' with
    | nil =>
      rw [List.nil_append] at same
      rw [← same] at hrest'
      exact absurd hrest' ((body.plain not_quote not_backslash).not_closes hquote (by simp))
    | plain not_quote' not_backslash' body' =>
      obtain ⟨rfl, later⟩ := List.cons.inj same
      obtain ⟨rfl, rfl⟩ := ih body' later
      exact ⟨rfl, rfl⟩
    | escaped body' => exact absurd (List.cons.inj same).1 not_backslash
  | escaped body ih =>
    cases h' with
    | nil =>
      rw [List.nil_append] at same
      rw [← same] at hrest'
      exact absurd hrest' (body.escaped.not_closes hquote (by simp))
    | plain not_quote' not_backslash' body' =>
      exact absurd (List.cons.inj same).1.symm not_backslash'
    | escaped body' =>
      obtain ⟨rfl, later⟩ := List.cons.inj (List.cons.inj same).2
      obtain ⟨rfl, rfl⟩ := ih body' later
      exact ⟨rfl, rfl⟩

end QuotedText

/-- Reading a quoted string reads its body, and then the closing quote or whatever is left. -/
theorem quotedBody_spec (quote : Char) (text : List Char) :
    ∃ written body rest, QuotedText quote written body ∧ text = written ++ rest ∧
      ((∃ after, rest = quote :: after ∧ quotedBody quote text = (body, written.length + 1)) ∨
        (rest = [] ∨ rest = ['\\']) ∧ quotedBody quote text = (body, text.length)) := by
  fun_induction quotedBody quote text with
  | case1 => exact ⟨[], [], [], .nil, rfl, .inr ⟨.inl rfl, rfl⟩⟩
  | case2 => exact ⟨[], [], ['\\'], .nil, rfl, .inr ⟨.inr rfl, rfl⟩⟩
  | case3 c rest body width read ih =>
    obtain ⟨written, body', after, hbody, rfl, h⟩ := ih
    refine ⟨'\\' :: c :: written, c :: body', after, .escaped hbody, rfl, ?_⟩
    rcases h with ⟨others, rfl, read'⟩ | ⟨hend, read'⟩
    · cases read.symm.trans read'
      exact .inl ⟨others, rfl, rfl⟩
    · cases read.symm.trans read'
      exact .inr ⟨hend, rfl⟩
  | case4 rest => exact ⟨[], [], quote :: rest, .nil, rfl, .inl ⟨rest, rfl, rfl⟩⟩
  | case5 c rest not_last not_escape not_quote body width read ih =>
    obtain ⟨written, body', after, hbody, rfl, h⟩ := ih
    have not_backslash : c ≠ '\\' := by
      intro hc
      cases others : written ++ after with
      | nil => exact not_last hc others
      | cons c' rest' => exact not_escape c' rest' hc others
    refine ⟨c :: written, c :: body', after, .plain not_quote not_backslash hbody, rfl, ?_⟩
    rcases h with ⟨others, rfl, read'⟩ | ⟨hend, read'⟩
    · cases read.symm.trans read'
      exact .inl ⟨others, rfl, rfl⟩
    · cases read.symm.trans read'
      exact .inr ⟨hend, rfl⟩

namespace Rule

theorem quote_ne_backslash {quote : Char} (h : quote = '\'' ∨ quote = '"') : quote ≠ '\\' := by
  rcases h with rfl | rfl <;> decide

/-- A match of a string is a quote, a body and what closes it. -/
theorem Matches.string_inv {text rest : List Char} {x : Lexeme} (h : Matches .string text rest x) :
    ∃ quote written body closing, (quote = '\'' ∨ quote = '"') ∧ QuotedText quote written body ∧
      Closes quote closing ∧ text ++ rest = quote :: (written ++ closing) ∧
        text.length = written.length + 1 + min closing.length 1 ∧
          x = .literal (.string (String.ofList body)) := by
  cases h with
  | closed isQuote body rest =>
    exact ⟨_, _, _, _, isQuote, body, .inl ⟨rest, rfl⟩, by simp, by simp, rfl⟩
  | unclosed isQuote body stray_eq =>
    refine ⟨_, _, _, _, isQuote, body, .inr stray_eq, by simp, ?_, rfl⟩
    rcases stray_eq with rfl | rfl <;> simp

/-- A text has one string at its start. -/
theorem Matches.string_unique {text text' rest rest' : List Char} {x x' : Lexeme}
    (h : Matches .string text rest x) (h' : Matches .string text' rest' x')
    (same : text ++ rest = text' ++ rest') : text = text' ∧ x = x' := by
  obtain ⟨quote, written, body, closing, isQuote, hbody, hcloses, heq, hlength, rfl⟩ := h.string_inv
  obtain ⟨quote', written', body', closing', -, hbody', hcloses', heq', hlength', rfl⟩ :=
    h'.string_inv
  obtain ⟨rfl, later⟩ := List.cons.inj (heq.symm.trans (same.trans heq'))
  obtain ⟨rfl, rfl⟩ := hbody.unique (quote_ne_backslash isQuote) hbody' hcloses hcloses' later
  obtain rfl := List.append_cancel_left later
  exact ⟨(List.append_inj same (hlength.trans hlength'.symm)).1, rfl⟩

/-- The one string at the start of a text is the longest. -/
theorem Matches.longest_string {text rest : List Char} {x : Lexeme}
    (h : Matches .string text rest x) : Longest .string text rest x := by
  refine ⟨h, fun more rest' y hrest hne longer => hne ?_⟩
  have same := (h.string_unique longer (by rw [hrest, List.append_assoc])).1
  exact List.self_eq_append_right.mp same

theorem longest_string {quote : Char} (isQuote : quote = '\'' ∨ quote = '"') (text : List Char) :
    ∃ first rest, quote :: text = first ++ rest ∧ first.length = (quotedBody quote text).2 + 1 ∧
      Longest .string first rest
        (.literal (.string (String.ofList (quotedBody quote text).1))) := by
  obtain ⟨written, body, rest, hbody, rfl, ⟨after, rfl, read⟩ | ⟨hend, read⟩⟩ :=
    quotedBody_spec quote text
  · have matched := Matches.closed isQuote hbody after
    rw [read]
    exact ⟨_, after, by simp, by simp, matched.longest_string⟩
  · have matched := Matches.unclosed isQuote hbody hend
    rw [read]
    exact ⟨_, [], by simp, by simp, matched.longest_string⟩

end Rule

/-! ### Numbers -/

theorem startsNumber_iff {text : List Char} :
    startsNumber text ↔
      ∃ c others, c.isDigit ∧ (text = c :: others ∨ text = '.' :: c :: others) := by
  constructor
  · intro h
    match text with
    | [c] =>
      refine ⟨c, [], ?_, .inl rfl⟩
      simpa [startsNumber] using h
    | c :: d :: rest =>
      have h : c.isDigit ∨ c = '.' ∧ d.isDigit := by simpa [startsNumber] using h
      rcases h with hc | ⟨rfl, hd⟩
      · exact ⟨c, _, hc, .inl rfl⟩
      · exact ⟨d, rest, hd, .inr rfl⟩
  · rintro ⟨c, others, hc, rfl | rfl⟩ <;> simp [startsNumber, hc]

/-- A number takes all digits, underscores and points that it may take. -/
theorem numberWidth_spec (seenPoint : Bool) (text : List Char) :
    ∃ first rest, text = first ++ rest ∧ numberWidth seenPoint text = first.length ∧
      (∀ c ∈ first, c.isDigit ∨ c = '_' ∨ c = '.') ∧
        first.count '.' ≤ (if seenPoint then 0 else 1) ∧
          ∀ c others, rest = c :: others →
            ¬ (c.isDigit ∨ c = '_') ∧ (c = '.' → seenPoint ∨ '.' ∈ first) := by
  fun_induction numberWidth seenPoint text with
  | case1 => exact ⟨[], [], rfl, rfl, by simp, by simp, by simp⟩
  | case2 seenPoint c text hc ih =>
    obtain ⟨first, rest, rfl, hwidth, parts, points, stop⟩ := ih
    have hpart : c.isDigit ∨ c = '_' := by simpa using hc
    have hpoint : c ≠ '.' := by
      rintro rfl
      cases hc
    refine ⟨c :: first, rest, rfl, by rw [hwidth, List.length_cons], ?_, ?_, ?_⟩
    · intro d hd
      rcases List.mem_cons.mp hd with rfl | hd
      · exact hpart.imp_right .inl
      · exact parts d hd
    · rwa [List.count_cons_of_ne hpoint]
    · intro d others hrest
      exact (stop d others hrest).imp_right fun h hd => (h hd).imp_right (List.mem_cons_of_mem _)
  | case3 seenPoint c text hc hpoint ih =>
    obtain ⟨first, rest, rfl, hwidth, parts, points, stop⟩ := ih
    obtain ⟨rfl, rfl⟩ : c = '.' ∧ seenPoint = false := by simpa using hpoint
    refine ⟨'.' :: first, rest, rfl, by rw [hwidth, List.length_cons], ?_, ?_, ?_⟩
    · intro d hd
      rcases List.mem_cons.mp hd with rfl | hd
      · exact .inr (.inr rfl)
      · exact parts d hd
    · rw [List.count_cons_self]
      exact Nat.succ_le_succ points
    · intro d others hrest
      exact (stop d others hrest).imp_right fun _ _ => .inr (List.mem_cons_self ..)
  | case4 seenPoint c text hc hpoint =>
    refine ⟨[], c :: text, rfl, rfl, by simp, by simp, ?_⟩
    rintro _ _ ⟨⟩
    refine ⟨by simpa using hc, fun hd => .inl ?_⟩
    simpa [hd] using hpoint

namespace IsNumberText

variable {text : List Char}

/-- The digits before and after the point are those of a decimal numeral. -/
theorem exists_numeral (h : IsNumberText text) : ∃ n : Numeral, n.text = text := by
  obtain ⟨parts, points, first, others, hfirst, hstarts⟩ := h
  have hne : first ≠ '.' := ne_of_isDigit hfirst rfl
  have all_parts (part : List Char) (hsub : ∀ c ∈ part, c ∈ text) (hpoint : '.' ∉ part) :
      part.all isNumeralPart := by
    refine List.all_eq_true.mpr fun c hc => ?_
    rcases parts c (hsub c hc) with hd | rfl | rfl
    · simp [isNumeralPart, hd]
    · rfl
    · exact absurd hc hpoint
  by_cases hpoint : '.' ∈ text
  · obtain ⟨whole, fraction, rfl⟩ := List.append_of_mem hpoint
    rw [List.count_append, List.count_cons_self] at points
    have hwhole : '.' ∉ whole := List.count_eq_zero.mp (by omega)
    have hfraction : '.' ∉ fraction := List.count_eq_zero.mp (by omega)
    refine ⟨⟨whole, some fraction, all_parts whole (by simp +contextual) hwhole,
      all_parts fraction (by simp +contextual) hfraction, ?_⟩, rfl⟩
    cases whole with
    | nil =>
      rcases hstarts with heq | heq
      · exact absurd (List.cons.inj heq).1.symm hne
      · rw [(List.cons.inj heq).2]
        exact hfirst
    | cons c whole =>
      rcases hstarts with heq | heq
      · rw [(List.cons.inj heq).1]
        exact hfirst
      · exact absurd (List.cons.inj heq).1 fun hc => hwhole (hc ▸ List.mem_cons_self ..)
  · refine ⟨⟨text, none, all_parts text (fun _ => id) hpoint, rfl, ?_⟩, List.append_nil _⟩
    rcases hstarts with rfl | rfl
    · exact hfirst
    · exact absurd (List.mem_cons_self ..) hpoint

theorem not_blank (h : IsNumberText text) : ∀ c ∈ text, isBlank c = false := by
  intro c hc
  rcases h.parts c hc with hd | rfl | rfl
  · exact isBlank_of_isDigit hd
  · rfl
  · rfl

/-- A start of a number that is not shorter than its first digit is a number. -/
theorem of_append {more : List Char} (h : IsNumberText (text ++ more))
    (starts : startsNumber text) : IsNumberText text where
  parts := fun c hc => h.parts c (List.mem_append_left _ hc)
  points := by
    have := h.points
    rw [List.count_append] at this
    omega
  starts := startsNumber_iff.mp starts

/-- The value of a number is that of its text without underscores. -/
theorem numberValue_eq (h : IsNumberText text) :
    numberValue text = Value.toNumber (.str (String.ofList (text.filter (· != '_')))) := by
  obtain ⟨n, rfl⟩ := h.exists_numeral
  have visible : ∀ c ∈ n.text.filter (· != '_'), isBlank c = false :=
    fun c hc => h.not_blank c (List.mem_filter.mp hc).1
  rw [Value.toNumber, String.toList_ofList, readDouble_of_read? visible n.read?_text,
    n.numberValue_text, Numeral.value]

theorem isNaN_toNumber (h : IsNumberText text) :
    (Value.toNumber (.str (String.ofList (text.filter (· != '_'))))).isNaN = false := by
  rw [← h.numberValue_eq]
  obtain ⟨n, rfl⟩ := h.exists_numeral
  rw [n.numberValue_text]
  exact Decimal.isNaN_toDouble _

end IsNumberText

end Bulletin
