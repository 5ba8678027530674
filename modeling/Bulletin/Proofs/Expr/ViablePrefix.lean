import Bulletin.Proofs.Expr.Reading
import Bulletin.Report

/-!
# The first impossible token

When tokens are no expression, the parser reports the first one that nothing can follow to make an
expression, or the end of the text if every token fits what comes before it. The tokens before the
reported one can go on to an expression that keeps to the nesting limit, and with the reported one
they cannot. The limit is blamed exactly when they could under a larger one.

A failure is followed from the place where it arises outwards. At every level it is known that the
tokens read so far can go on to a phrase of the level, and that the parser fails in the same way
whatever comes after the reported token. That no larger limit would help, unless the limit is
blamed, is a statement of its own: parsers with more room give the same answers.
-/

namespace Bulletin

namespace Expr

variable {α β γ : Type} {m : Meaning α} {finish : Nat}

/-! ### More room -/

/-- One parser gives what the other gives, except where the other runs out of room. -/
def Widens (wide narrow : Parser α) : Prop :=
  ∀ tokens, wide tokens = narrow tokens ∨
    ∃ position, narrow tokens = .error ⟨.tooDeep, position⟩

theorem parseMore_widens {tier : Tier} {wide narrow : Parser α} (hop : Widens wide narrow)
    (bound : List Token) (a : α) (rest : List Token) :
    parseMore m tier wide bound a rest = parseMore m tier narrow bound a rest ∨
      ∃ position, parseMore m tier narrow bound a rest = .error ⟨.tooDeep, position⟩ := by
  induction bound generalizing a rest with
  | nil => exact .inl rfl
  | cons _ bound ih =>
    simp only [parseMore]
    cases takeOperator? tier rest with
    | none => exact .inl rfl
    | some found =>
      obtain ⟨op, afterOp⟩ := found
      rcases hop afterOp with same | ⟨position, deep⟩
      · simp only [same]
        cases narrow afterOp with
        | error e => exact .inl rfl
        | ok result => exact ih _ _
      · exact .inr ⟨position, by simp only [deep]⟩

theorem parseTier_widens {tier : Tier} {wide narrow : Parser α} (hop : Widens wide narrow) :
    Widens (parseTier m tier wide) (parseTier m tier narrow) := by
  intro tokens
  simp only [parseTier]
  rcases hop tokens with same | ⟨position, deep⟩
  · simp only [same]
    cases narrow tokens with
    | error e => exact .inl rfl
    | ok result => exact parseMore_widens hop _ _ _
  · exact .inr ⟨position, by simp only [deep]⟩

theorem parserWithin_succ_widens (room : Nat) (l : Level) :
    Widens (parserWithin m finish (room + 1) l) (parserWithin m finish room l) := by
  induction room, l using roomInduction with
  | primary room ih =>
    intro tokens
    cases tokens with
    | nil => exact .inl rfl
    | cons token rest =>
      cases hx : token.lexeme with
      | literal l => exact .inl (by rw [parserWithin_literal hx, parserWithin_literal hx])
      | identifier path =>
        exact .inl (by rw [parserWithin_identifier hx, parserWithin_identifier hx])
      | lparen =>
        cases room with
        | zero => exact .inr ⟨_, parserWithin_lparen_zero hx rest⟩
        | succ r =>
          rw [parserWithin_lparen hx, parserWithin_lparen hx]
          rcases ih r rfl (.tier .disjunction) rest with same | ⟨position, deep⟩
          · exact .inl (by rw [same])
          · exact .inr ⟨position, by rw [deep]; rfl⟩
      | operator op =>
        have unexpected : token.lexeme = .rparen ∨ ∃ op, token.lexeme = .operator op :=
          .inr ⟨op, hx⟩
        exact .inl (by rw [parserWithin_unexpected unexpected, parserWithin_unexpected unexpected])
      | rparen =>
        have unexpected : token.lexeme = .rparen ∨ ∃ op, token.lexeme = .operator op := .inl hx
        exact .inl (by rw [parserWithin_unexpected unexpected, parserWithin_unexpected unexpected])
  | unary room ih primary =>
    intro tokens
    cases tokens with
    | nil => exact .inl rfl
    | cons token rest =>
      by_cases hx : token.lexeme = .operator .not
      · cases room with
        | zero => exact .inr ⟨_, parserWithin_not_zero hx rest⟩
        | succ r =>
          rw [parserWithin_not hx, parserWithin_not hx]
          rcases ih r rfl rest with same | ⟨position, deep⟩
          · exact .inl (by rw [same])
          · exact .inr ⟨position, by rw [deep]; rfl⟩
      · rw [parserWithin_unary_of_ne hx, parserWithin_unary_of_ne hx]
        exact primary (token :: rest)
  | tier room t hop =>
    rw [parserWithin_tier, parserWithin_tier]
    exact parseTier_widens hop

/-- More room is no cure for a failure that is not blamed on the room. -/
theorem readTokens_eq_error_of_le {room room' : Nat} (hle : room ≤ room') {tokens : List Token}
    {e : SyntaxError} (h : readTokens m finish room tokens = .error e)
    (hne : e.fault ≠ .tooDeep) : readTokens m finish room' tokens = .error e := by
  induction hle with
  | refl => exact h
  | @step room' _ ih =>
    simp only [readTokens, parseWithin_expression] at ih ⊢
    rcases parserWithin_succ_widens room' (.tier .disjunction) tokens with same | ⟨position, deep⟩
    · rw [same]
      exact ih
    · simp only [deep, Except.error.injEq] at ih
      subst ih
      exact absurd rfl hne

/-! ### Where a parser fails -/

/-- The tokens can go on to a phrase of a level that fits in the room. -/
def Completable (l : Level) (room : Nat) (tokens : List Token) : Prop :=
  ∃ (d : Derivation l) (more : List Lexeme), d.yield = lexemes tokens ++ more ∧ d.nesting ≤ room

theorem Completable.mono {l : Level} {room room' : Nat} {tokens : List Token}
    (h : Completable l room tokens) (hle : room ≤ room') : Completable l room' tokens := by
  obtain ⟨d, more, hy, hn⟩ := h
  exact ⟨d, more, hy, Nat.le_trans hn hle⟩

theorem exists_nesting_eq_zero (l : Level) : ∃ d : Derivation l, d.nesting = 0 := by
  induction l using Level.tightestFirst with
  | primary => exact ⟨.literal .null, rfl⟩
  | unary => exact ⟨.alone (.literal .null), rfl⟩
  | tier t ih =>
    obtain ⟨only, h⟩ := ih
    exact ⟨.single only, h⟩

theorem Completable.nil (l : Level) (room : Nat) : Completable l room [] := by
  obtain ⟨d, h⟩ := exists_nesting_eq_zero l
  exact ⟨d, d.yield, rfl, by rw [h]; exact Nat.zero_le _⟩

/-- A failure after some tokens: at the end of the text, or at the next token whatever comes after
it. The room is blamed only if there is one in which the next token fits. -/
def Stuck (finish : Nat) (l : Level) (parse : List Token → Except SyntaxError β)
    (taken : List Token) (e : SyntaxError) : List Token → Prop
  | [] => e.position = finish ∧ e.fault ≠ .tooDeep
  | token :: _ => e.position = token.position ∧
      (∀ more, parse (taken ++ token :: more) = .error e) ∧
        (e.fault = .tooDeep → ∃ room, Completable l room (taken ++ [token]))

/-- A parser fails after tokens that can go on to a phrase of its level. -/
def FailsAt (finish : Nat) (l : Level) (room : Nat) (parse : List Token → Except SyntaxError β)
    (tokens : List Token) (e : SyntaxError) : Prop :=
  ∃ taken rest, tokens = taken ++ rest ∧ Completable l room taken ∧
    Stuck finish l parse taken e rest

/-- A failure of a part is one of the whole, if the whole completes what the part completes and
fails where the part fails. -/
theorem FailsAt.lift {l l' : Level} {room room' : Nat} {part : List Token → Except SyntaxError β}
    {whole : List Token → Except SyntaxError γ} {tokens : List Token} {e : SyntaxError}
    (h : FailsAt finish l room part tokens e)
    (before : List Token)
    (complete : ∀ n others, Completable l n others →
      ∃ n', (n ≤ room → n' ≤ room') ∧ Completable l' n' (before ++ others))
    (fails : ∀ others, others.head? = tokens.head? → part others = .error e →
      whole (before ++ others) = .error e) :
    FailsAt finish l' room' whole (before ++ tokens) e := by
  obtain ⟨taken, rest, rfl, hc, hs⟩ := h
  obtain ⟨n, hn, hc'⟩ := complete room taken hc
  refine ⟨before ++ taken, rest, by rw [List.append_assoc], hc'.mono (hn (Nat.le_refl _)), ?_⟩
  cases rest with
  | nil => exact hs
  | cons token rest =>
    obtain ⟨hp, hall, hdeep⟩ := hs
    refine ⟨hp, ?_, ?_⟩
    · intro more
      rw [List.append_assoc]
      apply fails _ _ (hall more)
      cases taken <;> rfl
    · intro htoo
      obtain ⟨deeper, hd⟩ := hdeep htoo
      obtain ⟨n', -, hd'⟩ := complete deeper _ hd
      exact ⟨n', by rw [List.append_assoc]; exact hd'⟩

/-- Every failure of a parser is one that `FailsAt` describes. -/
def Blames (finish : Nat) (l : Level) (room : Nat) (parse : Parser α) : Prop :=
  ∀ tokens e, parse tokens = .error e → FailsAt finish l room parse tokens e

/-- The loop of a tier fails after a derivation of the tier, or after an operator and where its
right operand fails. -/
theorem parseMore_failsAt {tier : Tier} {room : Nat}
    (hop : Blames finish tier.operand room (parserWithin m finish room tier.operand))
    {bound : List Token} (taken rest : List Token) (d : Derivation (.tier tier))
    (hy : lexemes taken = d.yield) (hn : d.nesting ≤ room) {e : SyntaxError}
    (h : parseMore m tier (parserWithin m finish room tier.operand) bound (d.value m) rest =
      .error e) :
    FailsAt finish (.tier tier) room (parserWithin m finish room (.tier tier)) (taken ++ rest) e := by
  induction bound generalizing taken rest d with
  | nil => cases h
  | cons _ bound ih =>
    simp only [parseMore] at h
    cases htake : takeOperator? tier rest with
    | none => simp [htake] at h
    | some found =>
      obtain ⟨op, afterOp⟩ := found
      obtain ⟨token, rfl, hx, htier⟩ := takeOperator?_eq_some htake
      simp only [htake] at h
      cases hright : parserWithin m finish room tier.operand afterOp with
      | error e' =>
        simp only [hright, Except.error.injEq] at h
        subst h
        -- the phrase read so far and the operator go before whatever the operand could become
        have lifted : FailsAt finish (.tier tier) room (parserWithin m finish room (.tier tier))
            ((taken ++ [token]) ++ afterOp) e' := by
          apply (hop afterOp e' hright).lift (taken ++ [token])
          · rintro n others ⟨right, more, hyr, hnr⟩
            exact ⟨max d.nesting n, by omega, .binary op htier d right, more,
              by simp [Derivation.yield, hy, hx, hyr],
              Nat.max_le.mpr ⟨Nat.le_max_left _ _, Nat.le_trans hnr (Nat.le_max_right _ _)⟩⟩
          · intro others _ hothers
            have stops : Stops (tier.rank + 1) (lexemes (token :: others)) := by
              rw [lexemes_cons, hx]
              exact Stops.binary (by rw [htier]; exact Nat.lt_add_one _) _
            have resumes : Resumes m finish room (.tier tier) (d.value m) (token :: others)
                (parserWithin m finish room (.tier tier) (taken ++ token :: others)) :=
              parserWithin_append d room taken (token :: others) hn hy stops
            rw [List.append_assoc, List.singleton_append]
            exact (resumes.round hx htier).1 _ hothers
        simpa using lifted
      | ok result =>
        obtain ⟨right, rest'⟩ := result
        simp only [hright] at h
        obtain ⟨dr, took, rfl, hyr, hnr, rfl, -⟩ := parserWithin_sound room _ _ _ _ hright
        have fails := ih (taken ++ token :: took) rest' (.binary op htier d dr)
          (by simp [Derivation.yield, hy, hyr, hx]) (Nat.max_le.mpr ⟨hn, hnr⟩) h
        simpa using fails

theorem parseTier_blames {tier : Tier} {room : Nat}
    (hop : Blames finish tier.operand room (parserWithin m finish room tier.operand)) :
    Blames finish (.tier tier) room (parserWithin m finish room (.tier tier)) := by
  intro tokens e h
  simp only [parserWithin_tier, parseTier] at h
  cases hleft : parserWithin m finish room tier.operand tokens with
  | error e' =>
    simp only [hleft, Except.error.injEq] at h
    subst h
    rw [← List.nil_append tokens]
    apply (hop tokens e' hleft).lift []
    · rintro n others ⟨d, more, hy, hn⟩
      exact ⟨n, id, .single d, more, hy, hn⟩
    · intro others _ hothers
      simp only [List.nil_append, parserWithin_tier, parseTier, hothers]
  | ok result =>
    obtain ⟨left, rest⟩ := result
    simp only [hleft] at h
    obtain ⟨d, taken, rfl, hy, hn, rfl, -⟩ := parserWithin_sound room _ _ _ _ hleft
    exact parseMore_failsAt hop taken rest (.single d) hy hn h

namespace FailsAt

variable {l : Level} {room : Nat} {token : Token} {rest : List Token} {e : SyntaxError}

theorem unexpected (hx : token.lexeme = .rparen ∨ ∃ op, token.lexeme = .operator op)
    (h : parserWithin m finish room .primary (token :: rest) = .error e) :
    FailsAt finish .primary room (parserWithin m finish room .primary) (token :: rest) e := by
  rw [parserWithin_unexpected hx] at h
  cases h
  exact ⟨[], token :: rest, rfl, .nil _ _, rfl, parserWithin_unexpected hx, by simp⟩

/-- A token without room for it starts a phrase that has room elsewhere. -/
theorem deep {parse : Parser α} (d : Derivation l) {more : List Lexeme}
    (hy : d.yield = token.lexeme :: more) (rest : List Token)
    (h : ∀ more, parse (token :: more) = .error ⟨.tooDeep, token.position⟩) :
    FailsAt finish l room parse (token :: rest) ⟨.tooDeep, token.position⟩ :=
  ⟨[], token :: rest, rfl, .nil l room, rfl, h, fun _ => ⟨d.nesting, d, more, hy, Nat.le_refl _⟩⟩

theorem paren (hx : token.lexeme = .lparen)
    (h : FailsAt finish (.tier .disjunction) room
      (parserWithin m finish room (.tier .disjunction)) rest e) :
    FailsAt finish .primary (room + 1) (parserWithin m finish (room + 1) .primary)
      (token :: rest) e := by
  apply h.lift [token]
  · rintro n others ⟨d, more, hy, hn⟩
    exact ⟨n + 1, Nat.succ_le_succ, .paren d, more ++ [.rparen],
      by simp [Derivation.yield, hx, hy], Nat.succ_le_succ hn⟩
  · intro others _ hothers
    rw [List.singleton_append, parserWithin_lparen hx, hothers]
    rfl

/-- What is missing after the expression in parentheses is the closing one. -/
theorem unclosed (hx : token.lexeme = .lparen) {body : Derivation (.tier .disjunction)}
    {taken : List Token} (hy : lexemes taken = body.yield) (hn : body.nesting ≤ room)
    (hs : Stops 0 (lexemes rest))
    (h : closeParen finish token (.ok (body.value m, rest)) = .error e) :
    FailsAt finish .primary (room + 1) (parserWithin m finish (room + 1) .primary)
      (token :: (taken ++ rest)) e := by
  have hc : Completable .primary (room + 1) (token :: taken) :=
    ⟨.paren body, [.rparen], by simp [Derivation.yield, hx, hy], Nat.succ_le_succ hn⟩
  refine ⟨token :: taken, rest, rfl, hc, ?_⟩
  cases rest with
  | nil =>
    cases h
    exact ⟨rfl, by simp⟩
  | cons closing rest =>
    by_cases hclosing : closing.lexeme = .rparen
    · simp [closeParen, hclosing] at h
    · simp only [closeParen, hclosing, if_false, Except.error.injEq] at h
      subst h
      refine ⟨rfl, ?_, by simp⟩
      intro more
      have stops : Stops 0 (lexemes (closing :: more)) := hs.of_head _
      rw [List.cons_append, parserWithin_lparen hx, parserWithin_append_of_stops body hn hy stops]
      simp only [closeParen, hclosing, if_false]

theorem not (hx : token.lexeme = .operator .not)
    (h : FailsAt finish .unary room (parserWithin m finish room .unary) rest e) :
    FailsAt finish .unary (room + 1) (parserWithin m finish (room + 1) .unary)
      (token :: rest) e := by
  apply h.lift [token]
  · rintro n others ⟨d, more, hy, hn⟩
    exact ⟨n + 1, Nat.succ_le_succ, .not d, more, by simp [Derivation.yield, hx, hy],
      Nat.succ_le_succ hn⟩
  · intro others _ hothers
    rw [List.singleton_append, parserWithin_not hx, hothers]
    rfl

theorem alone (hx : token.lexeme ≠ .operator .not)
    (h : FailsAt finish .primary room (parserWithin m finish room .primary) (token :: rest) e) :
    FailsAt finish .unary room (parserWithin m finish room .unary) (token :: rest) e := by
  apply h.lift []
  · rintro n others ⟨d, more, hy, hn⟩
    exact ⟨n, id, .alone d, more, hy, hn⟩
  · intro others hhead hothers
    -- what follows the first token may differ, but the first token is no `!` either way
    cases others with
    | nil => cases hhead
    | cons first others =>
      obtain rfl : first = token := by simpa using hhead
      rw [List.nil_append, parserWithin_unary_of_ne hx]
      exact hothers

end FailsAt

/-- The parser of every level fails after tokens that can go on to a phrase of the level. -/
theorem parserWithin_blames (room : Nat) (l : Level) :
    Blames finish l room (parserWithin m finish room l) := by
  induction room, l using roomInduction with
  | primary room ih =>
    intro tokens e h
    cases tokens with
    | nil =>
      cases h
      exact ⟨[], [], rfl, .nil _ _, rfl, by simp⟩
    | cons token rest =>
      cases hx : token.lexeme with
      | literal l => simp [parserWithin_literal hx] at h
      | identifier path => simp [parserWithin_identifier hx] at h
      | lparen =>
        cases room with
        | zero =>
          rw [parserWithin_lparen_zero hx] at h
          cases h
          obtain ⟨d, -⟩ := exists_nesting_eq_zero (.tier .disjunction)
          exact .deep (.paren d) (by rw [hx]; rfl) rest (parserWithin_lparen_zero hx)
        | succ r =>
          rw [parserWithin_lparen hx] at h
          cases hinside : parserWithin m finish r (.tier .disjunction) rest with
          | error e' =>
            rw [hinside] at h
            cases h
            exact .paren hx (ih r rfl _ rest e hinside)
          | ok result =>
            obtain ⟨a, rest'⟩ := result
            obtain ⟨d, taken, rfl, hy, hn, rfl, hs⟩ := parserWithin_sound r _ _ _ _ hinside
            rw [hinside] at h
            exact .unclosed hx hy hn hs h
      | operator op => exact .unexpected (.inr ⟨op, hx⟩) h
      | rparen => exact .unexpected (.inl hx) h
  | unary room ih primary =>
    intro tokens e h
    cases tokens with
    | nil =>
      cases h
      exact ⟨[], [], rfl, .nil _ _, rfl, by simp⟩
    | cons token rest =>
      by_cases hx : token.lexeme = .operator .not
      · cases room with
        | zero =>
          rw [parserWithin_not_zero hx] at h
          cases h
          exact .deep (.not (.alone (.literal .null))) (by rw [hx]; rfl) rest
            (parserWithin_not_zero hx)
        | succ r =>
          rw [parserWithin_not hx] at h
          cases hoperand : parserWithin m finish r .unary rest with
          | ok result => simp [hoperand, Except.map] at h
          | error e' =>
            rw [hoperand] at h
            cases h
            exact .not hx (ih r rfl rest e hoperand)
      · rw [parserWithin_unary_of_ne hx] at h
        exact .alone hx (primary _ e h)
  | tier room t hop => exact parseTier_blames hop

/-! ### Whole lists of tokens -/

/-- When a list of tokens is no expression, the tokens before the reported one can go on to an
expression that fits in the room, and the failure is the same whatever comes after it. -/
theorem readTokens_failsAt {room : Nat} {tokens : List Token} {e : SyntaxError}
    (h : readTokens m finish room tokens = .error e) :
    FailsAt finish (.tier .disjunction) room (readTokens m finish room) tokens e := by
  simp only [readTokens, parseWithin_expression] at h
  cases hparse : parserWithin m finish room (.tier .disjunction) tokens with
  | error e' =>
    simp only [hparse, Except.error.injEq] at h
    subst h
    rw [← List.nil_append tokens]
    apply (parserWithin_blames room _ _ _ hparse).lift []
    · intro n others hc
      exact ⟨n, id, hc⟩
    · intro others _ hothers
      simp only [List.nil_append, readTokens, parseWithin_expression, hothers]
  | ok result =>
    obtain ⟨a, rest⟩ := result
    obtain ⟨d, taken, rfl, hy, hn, rfl, hs⟩ := parserWithin_sound room _ _ _ _ hparse
    have hc : Completable (.tier .disjunction) room taken :=
      ⟨d, [], by rw [hy, List.append_nil], hn⟩
    cases rest with
    | nil =>
      rw [hparse] at h
      cases h
    | cons token rest =>
      simp only [hparse, Except.error.injEq] at h
      subst h
      refine ⟨taken, token :: rest, rfl, hc, rfl, ?_, by simp⟩
      intro more
      have stops : Stops 0 (lexemes (token :: more)) := hs.of_head _
      simp only [readTokens, parseWithin_expression, parserWithin_append_of_stops d hn hy stops]

end Expr

namespace Evaluator

open Bulletin.Expr

/-- The tokens are an expression. Where their text ends matters to failures only. -/
def Accepts (e : Evaluator) (tokens : List Token) : Prop := ∃ v, e.evalTokens 0 tokens = .ok v

/-- The tokens can go on to an expression. -/
def Viable (e : Evaluator) (tokens : List Token) : Prop := ∃ more, e.Accepts (tokens ++ more)

theorem exists_evalTokens_eq_ok_iff (e : Evaluator) (finish : Nat) (tokens : List Token) :
    (∃ v, e.evalTokens finish tokens = .ok v) ↔
      ∃ d : Derivation (.tier .disjunction),
        d.yield = lexemes tokens ∧ d.nesting ≤ e.maxDepth.toNat := by
  simp only [evalTokens, readTokens_eq_ok_iff]
  constructor
  · rintro ⟨v, d, hy, hn, -⟩
    exact ⟨d, hy, hn⟩
  · rintro ⟨d, hy, hn⟩
    exact ⟨_, d, hy, hn, rfl⟩

theorem accepts_iff (e : Evaluator) (finish : Nat) (tokens : List Token) :
    e.Accepts tokens ↔ ∃ v, e.evalTokens finish tokens = .ok v := by
  rw [Accepts, exists_evalTokens_eq_ok_iff, exists_evalTokens_eq_ok_iff]

theorem viable_iff_completable (e : Evaluator) (tokens : List Token) :
    e.Viable tokens ↔ Completable (.tier .disjunction) e.maxDepth.toNat tokens := by
  constructor
  · rintro ⟨more, accepted⟩
    obtain ⟨d, hy, hn⟩ := (e.exists_evalTokens_eq_ok_iff 0 _).mp accepted
    exact ⟨d, lexemes more, by rw [hy, lexemes_append], hn⟩
  · rintro ⟨d, more, hy, hn⟩
    have same : lexemes (more.map (Token.mk · 0)) = more := by
      simp [lexemes, Function.comp_def]
    exact ⟨more.map (Token.mk · 0),
      (e.exists_evalTokens_eq_ok_iff 0 _).mpr ⟨d, by rw [hy, lexemes_append, same], hn⟩⟩

/-- Tokens after which every reading fails cannot go on to an expression. -/
theorem not_viable {e : Evaluator} {finish : Nat} {tokens : List Token}
    (h : ∀ more, ∃ x, e.evalTokens finish (tokens ++ more) = .error x) : ¬ e.Viable tokens := by
  rintro ⟨more, accepted⟩
  obtain ⟨v, hv⟩ := (e.accepts_iff finish _).mp accepted
  obtain ⟨x, hx⟩ := h more
  rw [hv] at hx
  cases hx

/-- The limit is blamed for a token exactly when the token fits under a larger limit. -/
theorem fault_eq_tooDeep_iff {e : Evaluator} {finish : Nat} {tokens : List Token} {x : SyntaxError}
    (hall : ∀ more, e.evalTokens finish (tokens ++ more) = .error x)
    (hdeep : x.fault = .tooDeep → ∃ room, Completable (.tier .disjunction) room tokens) :
    x.fault = .tooDeep ↔
      ∃ larger > e.maxDepth, Viable { e with maxDepth := larger } tokens := by
  constructor
  · intro htoo
    obtain ⟨room, hc⟩ := hdeep htoo
    refine ⟨max (e.maxDepth + 1) room, by omega, (viable_iff_completable _ _).mpr (hc.mono ?_)⟩
    change room ≤ (max (e.maxDepth + 1) room).toNat
    omega
  · rintro ⟨larger, hlarger, viable⟩
    by_cases htoo : x.fault = .tooDeep
    · exact htoo
    -- any other failure is the same under the larger limit, whatever follows
    · have hle : e.maxDepth.toNat ≤ larger.toNat := Int.toNat_le_toNat (Int.le_of_lt hlarger)
      have refused : ¬ Viable { e with maxDepth := larger } tokens :=
        not_viable fun more => ⟨x, readTokens_eq_error_of_le hle (hall more) htoo⟩
      exact absurd viable refused

theorem className_report_eq_iff {limit : Int} {expression : String} {x : SyntaxError} :
    (x.report limit expression).className = "NestingDepthError" ↔ x.fault = .tooDeep := by
  rw [SyntaxError.className_report]
  cases x.fault <;> simp

/-- An expression that is made of tokens and fails is blamed on its first impossible token, or on
its end if it is too short. What comes before that can go on to an expression under the limit, and
with the token it cannot. The class is that of the nesting limit exactly when the tokens up to the
blamed one could go on under a larger limit. -/
theorem position_of_eval_eq_error (e : Evaluator) {expression : String} {tokens : List Token}
    (ht : Token.ofText expression = .ok tokens) {x : SyntaxError}
    (hx : e.eval expression = .error x) :
    (∃ before token after, tokens = before ++ token :: after ∧ x.position = token.position ∧
        e.Viable before ∧ ¬ e.Viable (before ++ [token]) ∧
        ((x.report e.maxDepth expression).className = "NestingDepthError" ↔
          ∃ larger > e.maxDepth, Viable { e with maxDepth := larger } (before ++ [token]))) ∨
      (x.position = expression.length ∧ e.Viable tokens ∧ ¬ e.Accepts tokens ∧
        (x.report e.maxDepth expression).className ≠ "NestingDepthError") := by
  have failed : e.evalTokens expression.length tokens = .error x := by
    simpa only [eval, evalTokens, Expr.readText, ht] using hx
  rw [ne_eq, className_report_eq_iff]
  obtain ⟨before, after, rfl, hc, hs⟩ := readTokens_failsAt failed
  have viable : e.Viable before := (e.viable_iff_completable before).mpr hc
  cases after with
  | nil =>
    obtain ⟨hposition, hne⟩ := hs
    rw [List.append_nil] at failed ⊢
    refine .inr ⟨hposition, viable, ?_, hne⟩
    intro accepted
    obtain ⟨v, hv⟩ := (e.accepts_iff expression.length before).mp accepted
    rw [hv] at failed
    cases failed
  | cons token after =>
    obtain ⟨hposition, hall, hdeep⟩ := hs
    have hall' (more : List Token) :
        e.evalTokens expression.length (before ++ [token] ++ more) = .error x := by
      rw [List.append_assoc]
      exact hall more
    exact .inl ⟨before, token, after, rfl, hposition, viable,
      not_viable fun more => ⟨x, hall' more⟩, fault_eq_tooDeep_iff hall' hdeep⟩

/-- With room for one level, `(!` is blamed on its `!`, which only fits under a larger limit. -/
theorem viable_of_nested_not :
    Token.ofText "(!" = .ok [⟨.lparen, 0⟩, ⟨.operator .not, 1⟩] ∧
      (⟨.empty, [], 1⟩ : Evaluator).eval "(!" = .error ⟨.tooDeep, 1⟩ ∧
      Viable ⟨.empty, [], 1⟩ [⟨.lparen, 0⟩] ∧
      ¬ Viable ⟨.empty, [], 1⟩ [⟨.lparen, 0⟩, ⟨.operator .not, 1⟩] ∧
      ∃ larger > 1, Viable ⟨.empty, [], larger⟩ [⟨.lparen, 0⟩, ⟨.operator .not, 1⟩] := by
  have last : Token.scanFrom 1 ['!'] = .ok [⟨.operator .not, 1⟩] := by
    have scanned : Lexeme.scan? ['!'] = some (.operator .not, 1) := rfl
    rw [Token.scanFrom_lexeme rfl scanned, List.drop_nil, Token.scanFrom_nil]
    rfl
  have tokenized : Token.ofText "(!" = .ok [⟨.lparen, 0⟩, ⟨.operator .not, 1⟩] := by
    have scanned : Lexeme.scan? ['(', '!'] = some (.lparen, 1) := rfl
    change Token.scanFrom 0 ['(', '!'] = _
    rw [Token.scanFrom_lexeme rfl scanned, Nat.zero_add, Nat.sub_self, List.drop_zero, last]
    rfl
  have failed : (⟨.empty, [], 1⟩ : Evaluator).eval "(!" = .error ⟨.tooDeep, 1⟩ := by
    rw [eval, Expr.readText, tokenized]
    rfl
  refine ⟨tokenized, failed, ?_⟩
  rcases position_of_eval_eq_error _ tokenized failed with
    ⟨before, token, after, htokens, hposition, viable, refused, hdeep⟩ | ⟨hposition, -⟩
  · obtain ⟨rfl, rfl⟩ : before = [⟨.lparen, 0⟩] ∧ token = ⟨.operator .not, 1⟩ := by
      clear viable refused hdeep
      rcases before with _ | ⟨first, _ | ⟨second, before⟩⟩ <;> grind [List.append_eq_nil_iff]
    exact ⟨viable, refused, hdeep.mp rfl⟩
  · exact absurd hposition (by decide)

end Evaluator

end Bulletin
