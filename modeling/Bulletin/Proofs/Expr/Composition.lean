import Bulletin.Proofs.Expr.TokenBoundaries

/-!
# Expressions put together as texts

The text of an expression in parentheses can stand in a larger text as an operand. The scanner reads
it there as it does alone, since a closing parenthesis goes on with no token; only a string without
a closing quote would take it in. The parser stops at the closing parenthesis, and the operand needs
the room that it needs alone and one level more.
-/

namespace Bulletin

/-! ### Strings without a closing quote -/

/-- A quoted string whose closing quote is missing, so that the whole text belongs to it. -/
def IsOpenString (text : List Char) : Prop :=
  ∃ quote written body stray, (quote = '\'' ∨ quote = '"') ∧ QuotedText quote written body ∧
    (stray = [] ∨ stray = ['\\']) ∧ text = quote :: (written ++ stray)

/-- The last token of an expression is a string without a closing quote. -/
def EndsInOpenString (expression : String) : Prop :=
  ∃ before t, Token.ofText expression = .ok (before ++ [t]) ∧
    IsOpenString (expression.toList.drop t.position)

theorem QuotedText.not_isOpenString {quote : Char} {written body : List Char}
    (isQuote : quote = '\'' ∨ quote = '"') (h : QuotedText quote written body)
    (rest : List Char) : ¬ IsOpenString (quote :: (written ++ quote :: rest)) := by
  have hquote : quote ≠ '\\' := by rcases isQuote with rfl | rfl <;> decide
  rintro ⟨quote', written', body', stray, -, h', hstray, same⟩
  obtain ⟨rfl, later⟩ := List.cons.inj same
  obtain ⟨rfl, -⟩ := h.unique hquote h' (.inl ⟨rest, rfl⟩) (.inr hstray) later
  have hclosing := List.append_cancel_left later
  rcases hstray with rfl | rfl
  · cases hclosing
  · exact hquote (List.cons.inj hclosing).1

theorem not_endsInOpenString {expression : String} {before : List Token} {t : Token}
    (read : Token.ofText expression = .ok (before ++ [t]))
    (closed : ¬ IsOpenString (expression.toList.drop t.position)) :
    ¬ EndsInOpenString expression := by
  rintro ⟨before', t', read', isOpen⟩
  have same : before ++ [t] = before' ++ [t'] := Except.ok.inj (read.symm.trans read')
  obtain ⟨-, rfl⟩ := List.append_singleton_inj.mp same
  exact closed isOpen

theorem Rule.Longest.of_rparen {rule : Rule} {text : List Char} {x : Lexeme}
    (h : rule.Longest text [] x) (closed : ¬ IsOpenString text) (rest : List Char) :
    rule.Longest text (')' :: rest) x := by
  by_cases hrule : rule = .string
  · subst hrule
    refine Matches.longest_string ?_
    cases h.1 with
    | closed isQuote body => exact .closed isQuote body (')' :: rest)
    | unclosed isQuote body stray_eq =>
      exact absurd ⟨_, _, _, _, isQuote, body, stray_eq, rfl⟩ closed
  · exact h.of_not_mem hrule (fun _ _ _ hmatch => hmatch.not_rparen hrule) rest

/-- A span that goes on to where the lexemes stop is the last one. -/
theorem IsTokenization.eq_concat_of_finish {text : List Char} {start stop : Nat}
    {spans : List Span} (h : IsTokenization text start stop spans) {s : Span} (hs : s ∈ spans)
    (hfinish : s.finish = stop) : ∃ before, spans = before ++ [s] := by
  obtain ⟨before, after, rfl⟩ := List.append_of_mem hs
  cases after with
  | nil => exact ⟨before, rfl⟩
  | cons next after =>
    have hordered := (List.pairwise_cons.mp (List.pairwise_append.mp h.ordered).2.1).1 next
      (List.mem_cons_self ..)
    have hnext := h.within next (by simp)
    omega

/-- A closing parenthesis goes on with no token of an expression before it. -/
theorem Token.scanFrom_append_rparen {expression : String} {tokens : List Token}
    (read : ofText expression = .ok tokens) (closed : ¬ EndsInOpenString expression)
    (rest : List Char) :
    scanFrom 0 (expression.toList ++ ')' :: rest) =
      (scanFrom expression.toList.length (')' :: rest)).map (tokens ++ ·) := by
  obtain ⟨spans, rfl, h⟩ := ofText_eq_ok_iff.mp read
  have alone : IsTokenization (expression.toList ++ []) 0 expression.toList.length spans := by
    rwa [List.append_nil]
  have followed : IsTokenization (expression.toList ++ ')' :: rest) 0 expression.toList.length
      spans := by
    refine alone.of_longest (Nat.le_refl _) fun s hs hfinish rule longest => ?_
    refine longest.of_rparen (fun isOpen => closed ?_) rest
    obtain ⟨before, rfl⟩ := h.eq_concat_of_finish hs hfinish
    refine ⟨before.map Span.token, s.token, ?_, isOpen⟩
    rw [read, List.map_append, List.map_singleton]
  have scanned := followed.scanFrom_eq (Nat.zero_le _) (by simp)
  rwa [List.drop_zero, List.drop_left] at scanned

/-! ### Texts and their lexemes -/

/-- A text is scanned to lexemes, at whatever offset it stands. -/
def Spells (text : List Char) (xs : List Lexeme) : Prop :=
  ∀ position, ∃ tokens, Token.scanFrom position text = .ok tokens ∧ lexemes tokens = xs

theorem lexemes_map_later (count : Nat) (tokens : List Token) :
    lexemes (tokens.map (Token.later count)) = lexemes tokens := by
  simp [lexemes, Token.later]

namespace Spells

variable {text rest : List Char} {xs ys : List Lexeme} {x : Lexeme}

theorem of_zero {tokens : List Token} (h : Token.scanFrom 0 text = .ok tokens)
    (hxs : lexemes tokens = xs) : Spells text xs := by
  intro position
  refine ⟨tokens.map (Token.later position), ?_, by rw [lexemes_map_later, hxs]⟩
  rw [← Nat.zero_add position, Token.scanFrom_add, h, Nat.zero_add]
  rfl

theorem nil : Spells [] [] := fun position => ⟨[], Token.scanFrom_nil position, rfl⟩

/-- A lexeme in front of a text. -/
theorem cons {c : Char} {others : List Char} (hblank : isBlank c = false)
    (hscan : Lexeme.scan? (c :: (others ++ rest)) = some (x, others.length + 1))
    (h : Spells rest xs) : Spells (c :: (others ++ rest)) (x :: xs) := by
  intro position
  obtain ⟨tokens, htokens, rfl⟩ := h (position + (others.length + 1))
  refine ⟨⟨x, position⟩ :: tokens, ?_, rfl⟩
  rw [Token.scanFrom_lexeme hblank hscan, Nat.add_sub_cancel, List.drop_left, htokens]
  rfl

theorem lparen (h : Spells rest xs) : Spells ('(' :: rest) (.lparen :: xs) := by
  rw [← List.nil_append rest]
  exact cons rfl rfl h

theorem rparen (h : Spells rest xs) : Spells (')' :: rest) (.rparen :: xs) := by
  rw [← List.nil_append rest]
  exact cons rfl rfl h

/-- An operator before an opening parenthesis. -/
theorem operator (op : Operator) (h : Spells ('(' :: rest) xs) :
    Spells (op.symbol.toList ++ '(' :: rest) (.operator op :: xs) := by
  have found : Operator.scan? (op.symbol.toList ++ '(' :: rest) = some op := by
    rcases op with _ | op
    · rfl
    · cases op <;> rfl
  obtain ⟨c, others, hsymbol, hblank⟩ := op.exists_symbol_eq_cons
  have hlength : op.symbol.length = others.length + 1 := by
    rw [← String.length_toList, hsymbol, List.length_cons]
  rw [hsymbol, List.cons_append] at found ⊢
  exact cons hblank (by simp only [Lexeme.scan?, found, hlength]) h

/-- An expression in parentheses. -/
theorem enclose {expression : String} {tokens : List Token}
    (read : Token.ofText expression = .ok tokens) (closed : ¬ EndsInOpenString expression)
    (h : Spells rest xs) :
    Spells ('(' :: (expression.toList ++ ')' :: rest))
      (.lparen :: (lexemes tokens ++ .rparen :: xs)) := by
  refine lparen ?_
  obtain ⟨behind, hbehind, hxs⟩ := h.rparen expression.toList.length
  have scanned : Token.scanFrom 0 (expression.toList ++ ')' :: rest) = .ok (tokens ++ behind) := by
    rw [Token.scanFrom_append_rparen read closed, hbehind]
    rfl
  exact of_zero scanned (by rw [lexemes_append, hxs])

end Spells

/-! ### Derivations of enclosed expressions -/

namespace Derivation

/-- Two expressions in parentheses, with an operator between them. -/
theorem exists_binary_enclosed (op : BinaryOp) (d d' : Derivation (.tier .disjunction)) :
    ∃ whole : Derivation (.tier .disjunction),
      whole.yield = .lparen :: (d.yield ++ .rparen :: .operator (.binary op) ::
        .lparen :: (d'.yield ++ [.rparen])) ∧
      whole.nesting = max d.nesting d'.nesting + 1 ∧
      ∀ {α : Type} (m : Meaning α), whole.value m = m.binary op (d.value m) (d'.value m) := by
  have tighter (l : Level) : l.rank ≤ Level.primary.rank := Nat.le_of_lt_succ l.rank_lt
  obtain ⟨left, hy, hn, hv⟩ := (paren d).exists_loosen (.tier op.tier) (tighter _)
  obtain ⟨right, hy', hn', hv'⟩ := (paren d').exists_loosen op.tier.operand (tighter _)
  obtain ⟨whole, hyield, hnesting, hvalue⟩ :=
    (binary op rfl left right).exists_loosen (.tier .disjunction) (Nat.zero_le _)
  refine ⟨whole, ?_, ?_, fun m => ?_⟩
  · simp [hyield, yield, hy, hy']
  · rw [hnesting, nesting, hn, hn', nesting, nesting, Nat.add_max_add_right]
  · rw [hvalue, value, hv, hv', value, value]

/-- An expression in parentheses after a `!`. -/
theorem exists_not_enclosed (d : Derivation (.tier .disjunction)) :
    ∃ whole : Derivation (.tier .disjunction),
      whole.yield = .operator .not :: .lparen :: (d.yield ++ [.rparen]) ∧
      whole.nesting = d.nesting + 2 ∧
      ∀ {α : Type} (m : Meaning α), whole.value m = m.not (d.value m) :=
  (not (alone (paren d))).exists_loosen (.tier .disjunction) (Nat.zero_le _)

end Derivation

/-! ### Values of enclosed expressions -/

/-- A text that spells the yield of a derivation stands for what the derivation stands for. -/
theorem Expr.readText_of_spells {α : Type} {m : Meaning α} {room : Nat} {expression : String}
    (d : Derivation (.tier .disjunction)) (h : Spells expression.toList d.yield)
    (hroom : d.nesting ≤ room) : readText m room expression = .ok (d.value m) := by
  obtain ⟨tokens, htokens, hlexemes⟩ := h 0
  exact readText_eq_ok_iff.mpr ⟨tokens, htokens, d, hlexemes.symm, hroom, rfl⟩

/-- Two expressions that have values, and that do not end in a string without a closing quote, can
be put in parentheses on both sides of an operator, and a `!` before the parentheses. The whole has
the value that the operator gives for the two values, with room for one more level of nesting, or
for two with the `!`. -/
theorem Evaluator.eval_enclosed (context : Context) (environ : Environ) (maxDepth : Nat)
    (op : BinaryOp) {first second : String} {v w : Value}
    (hfirst : (⟨context, environ, maxDepth⟩ : Evaluator).eval first = .ok v)
    (hsecond : (⟨context, environ, maxDepth⟩ : Evaluator).eval second = .ok w)
    (closed : ¬ EndsInOpenString first) (closed' : ¬ EndsInOpenString second) :
    (⟨context, environ, maxDepth + 1⟩ : Evaluator).eval
        ("(" ++ first ++ ")" ++ op.symbol ++ "(" ++ second ++ ")") = .ok (op.apply v w) ∧
      (⟨context, environ, maxDepth + 2⟩ : Evaluator).eval ("!(" ++ first ++ ")") =
        .ok (.bool (!v.truthy)) := by
  obtain ⟨tokens, read, d, hyield, hnesting, rfl⟩ := Expr.readText_eq_ok_iff.mp hfirst
  obtain ⟨tokens', read', d', hyield', hnesting', rfl⟩ := Expr.readText_eq_ok_iff.mp hsecond
  simp only [Int.toNat_natCast] at hnesting hnesting'
  constructor
  · obtain ⟨whole, wholeYield, wholeNesting, wholeValue⟩ := d.exists_binary_enclosed op d'
    have spells := Spells.enclose read closed
      (Spells.operator (.binary op) (Spells.enclose read' closed' .nil))
    have hroom : whole.nesting ≤ ((maxDepth : Int) + 1).toNat := by omega
    rw [Evaluator.eval, Expr.readText_of_spells whole ?_ hroom, wholeValue]
    · rfl
    · rw [wholeYield, hyield, hyield']
      simpa [Operator.symbol] using spells
  · obtain ⟨whole, wholeYield, wholeNesting, wholeValue⟩ := d.exists_not_enclosed
    have spells := Spells.operator .not (Spells.enclose read closed .nil)
    have hroom : whole.nesting ≤ ((maxDepth : Int) + 2).toNat := by omega
    rw [Evaluator.eval, Expr.readText_of_spells whole ?_ hroom, wholeValue]
    · rfl
    · rw [wholeYield, hyield]
      simpa [Operator.symbol] using spells

/-- A string that holds a parenthesis, and a negation that needs one level of nesting. -/
theorem Evaluator.eval_enclosed_string :
    (⟨.empty, [], 1⟩ : Evaluator).eval "')'" = .ok (.str ")") ∧
      (⟨.empty, [], 1⟩ : Evaluator).eval "!true" = .ok (.bool false) ∧
      ¬ EndsInOpenString "')'" ∧ ¬ EndsInOpenString "!true" ∧
      (⟨.empty, [], 2⟩ : Evaluator).eval "(')')+(!true)" = .ok (.str ")false") ∧
      (⟨.empty, [], 3⟩ : Evaluator).eval "!(')')" = .ok (.bool false) := by
  have read : Token.ofText "')'" = .ok ([] ++ [⟨.literal (.string ")"), 0⟩]) :=
    toOption_eq_some_iff.mp (by decide +kernel)
  have read' : Token.ofText "!true" =
      .ok ([⟨.operator .not, 0⟩] ++ [⟨.literal (.boolean true), 1⟩]) :=
    toOption_eq_some_iff.mp (by decide +kernel)
  have hfirst : (⟨.empty, [], 1⟩ : Evaluator).eval "')'" = .ok (.str ")") := by
    rw [eval, Expr.readText, read]
    rfl
  have hsecond : (⟨.empty, [], 1⟩ : Evaluator).eval "!true" = .ok (.bool false) := by
    rw [eval, Expr.readText, read']
    rfl
  have closed : ¬ EndsInOpenString "')'" := by
    have body : QuotedText '\'' [')'] [')'] := .plain (by decide) (by decide) .nil
    exact not_endsInOpenString read (body.not_isOpenString (.inl rfl) [])
  have closed' : ¬ EndsInOpenString "!true" := by
    refine not_endsInOpenString read' ?_
    rintro ⟨quote, _, _, _, isQuote, -, -, same⟩
    have hquote : 't' = quote := (List.cons.inj same).1
    rcases isQuote with rfl | rfl <;> exact absurd hquote (by decide)
  have sum : "(" ++ "')'" ++ ")" ++ BinaryOp.add.symbol ++ "(" ++ "!true" ++ ")" =
      "(')')+(!true)" := by decide +kernel
  have negation : "!(" ++ "')'" ++ ")" = "!(')')" := by decide +kernel
  have value : BinaryOp.add.apply (.str ")") (.bool false) = .str ")false" := by rfl
  have whole := eval_enclosed .empty [] 1 .add hfirst hsecond closed closed'
  rw [sum, negation, value] at whole
  exact ⟨hfirst, hsecond, closed, closed', whole⟩

end Bulletin
