import Mathlib.Logic.Relation
import Bulletin.Proofs.Expr.Reading

/-!
# Open calls

The productions of the grammar as a machine that calls them one at a time, with the calls that wait
for another kept on a stack, and a counter of the parentheses and `!` around. It halts with what the
parser gives. The loops of the tiers take their operands one after another, so they add nothing to
the stack, and every level of nesting adds at most one call of each of the seven productions. So
there are never more than `7 * (limit + 1)` calls open, whatever the tokens are.
-/

namespace Bulletin

namespace Expr

variable {α : Type}

/-- A call of a production that waits for the one it has made. -/
inductive WaitingCall (α : Type) where
  /-- A tier that waits for its first operand. -/
  | first (tier : Tier)
  /-- A tier that has a left operand and an operator, and waits for the right operand. -/
  | more (tier : Tier) (left : α) (op : BinaryOp)
  /-- A primary expression without a `!` in front. -/
  | alone
  /-- A `!` that waits for its operand. -/
  | not
  /-- Parentheses that wait for what is inside. -/
  | paren (opening : Token)

/-- A parse under way: the innermost call is about to start on some tokens, or has just given a
value and left some tokens, or an outcome has been reached and no call is left. The depth counts the
parentheses and `!` around. -/
inductive ParseState (α : Type) where
  | calling (level : Level) (tokens : List Token) (depth : Nat) (waiting : List (WaitingCall α))
  | giving (a : α) (rest : List Token) (depth : Nat) (waiting : List (WaitingCall α))
  | halted (outcome : Except SyntaxError α)

namespace ParseState

def start (tokens : List Token) : ParseState α := .calling (.tier .disjunction) tokens 0 []

/-- The calls of productions that are open at the same time. -/
def openCalls : ParseState α → Nat
  | .calling _ _ _ waiting => waiting.length + 1
  | .giving _ _ _ waiting => waiting.length
  | .halted _ => 0

/-- Goes on inside a parenthesis or `!`, unless that is too deep. -/
def enter (limit : Nat) (token : Token) (depth : Nat) (inside : Nat → ParseState α) :
    ParseState α :=
  if depth + 1 > limit then .halted (.error ⟨.tooDeep, token.position⟩) else inside (depth + 1)

/-- A tier that has a left operand: it takes an operator and calls for the right operand, or is
done. -/
def goOn (tier : Tier) (left : α) (rest : List Token) (depth : Nat)
    (waiting : List (WaitingCall α)) : ParseState α :=
  match takeOperator? tier rest with
  | none => .giving left rest depth waiting
  | some (op, afterOp) => .calling tier.operand afterOp depth (.more tier left op :: waiting)

def call (m : Meaning α) (finish limit : Nat) (level : Level) (tokens : List Token) (depth : Nat)
    (waiting : List (WaitingCall α)) : ParseState α :=
  match level, tokens with
  | .tier tier, tokens => .calling tier.operand tokens depth (.first tier :: waiting)
  | .unary, [] => .calling .primary [] depth (.alone :: waiting)
  | .unary, token :: rest =>
    if token.lexeme = .operator .not then
      enter limit token depth fun depth => .calling .unary rest depth (.not :: waiting)
    else .calling .primary (token :: rest) depth (.alone :: waiting)
  | .primary, [] => .halted (.error ⟨.unexpectedEnd, finish⟩)
  | .primary, token :: rest =>
    match token.lexeme with
    | .literal l => .giving (m.literal l) rest depth waiting
    | .identifier path => .giving (m.identifier path) rest depth waiting
    | .lparen =>
      enter limit token depth fun depth =>
        .calling (.tier .disjunction) rest depth (.paren token :: waiting)
    | lexeme => .halted (.error ⟨.unexpectedToken lexeme, token.position⟩)

/-- The innermost call that waits is given a value, or the whole list of tokens has been read. -/
def give (m : Meaning α) (finish : Nat) (a : α) (rest : List Token) (depth : Nat)
    (waiting : List (WaitingCall α)) : ParseState α :=
  match waiting, rest with
  | [], [] => .halted (.ok a)
  | [], token :: _ => .halted (.error ⟨.trailingToken token.lexeme, token.position⟩)
  | .first tier :: waiting, rest => goOn tier a rest depth waiting
  | .more tier left op :: waiting, rest => goOn tier (m.binary op left a) rest depth waiting
  | .alone :: waiting, rest => .giving a rest depth waiting
  | .not :: waiting, rest => .giving (m.not a) rest (depth - 1) waiting
  | .paren opening :: _, [] => .halted (.error ⟨.unclosed opening.position, finish⟩)
  | .paren opening :: waiting, closing :: rest =>
    if closing.lexeme = .rparen then .giving a rest (depth - 1) waiting
    else .halted (.error ⟨.unclosed opening.position, closing.position⟩)

def step? (m : Meaning α) (finish limit : Nat) : ParseState α → Option (ParseState α)
  | .calling level tokens depth waiting => some (call m finish limit level tokens depth waiting)
  | .giving a rest depth waiting => some (give m finish a rest depth waiting)
  | .halted _ => none

def Reaches (m : Meaning α) (finish limit : Nat) : ParseState α → ParseState α → Prop :=
  Relation.ReflTransGen fun s t => step? m finish limit s = some t

/-- Any number of steps, after each of which no more calls are open than a budget allows. -/
def ReachesWithin (m : Meaning α) (finish limit budget : Nat) :
    ParseState α → ParseState α → Prop :=
  Relation.ReflTransGen fun s t => step? m finish limit s = some t ∧ t.openCalls ≤ budget

variable {m : Meaning α} {finish limit depth : Nat} {s t : ParseState α}
  {waiting : List (WaitingCall α)}

/-! ### The calls that wait -/

/-- The calls that wait for a call of a level with some parentheses and `!` around. -/
inductive Nested : List (WaitingCall α) → Level → Nat → Prop where
  | outermost : Nested [] (.tier .disjunction) 0
  | first {waiting : List (WaitingCall α)} {tier : Tier} {depth : Nat}
      (outer : Nested waiting (.tier tier) depth) :
      Nested (.first tier :: waiting) tier.operand depth
  | more {waiting : List (WaitingCall α)} {tier : Tier} {depth : Nat} (left : α) (op : BinaryOp)
      (outer : Nested waiting (.tier tier) depth) :
      Nested (.more tier left op :: waiting) tier.operand depth
  | alone {waiting : List (WaitingCall α)} {depth : Nat} (outer : Nested waiting .unary depth) :
      Nested (.alone :: waiting) .primary depth
  | not {waiting : List (WaitingCall α)} {depth : Nat} (outer : Nested waiting .unary depth) :
      Nested (.not :: waiting) .unary (depth + 1)
  | paren {waiting : List (WaitingCall α)} {depth : Nat} (opening : Token)
      (outer : Nested waiting .primary depth) :
      Nested (.paren opening :: waiting) (.tier .disjunction) (depth + 1)

/-- Seven calls for every parenthesis and `!` around, and one for each looser level. -/
theorem Nested.length_le {level : Level} (h : Nested waiting level depth) :
    waiting.length ≤ 7 * depth + level.rank := by
  induction h with
  | outermost => exact Nat.le_refl 0
  | first _ ih | more _ _ _ ih =>
    simp only [List.length_cons, Level.rank_operand]
    exact Nat.succ_le_succ ih
  | alone _ ih | not _ ih | paren _ _ ih =>
    simp only [List.length_cons, Level.rank, Tier.rank] at ih ⊢
    omega

/-- The calls that wait are nested, and no deeper than the limit. -/
def Proper (limit : Nat) : ParseState α → Prop
  | .calling level _ depth waiting => Nested waiting level depth ∧ depth ≤ limit
  | .giving _ _ depth waiting => (∃ level, Nested waiting level depth) ∧ depth ≤ limit
  | .halted _ => True

theorem proper_start (tokens : List Token) : (start tokens : ParseState α).Proper limit :=
  ⟨.outermost, Nat.zero_le limit⟩

theorem Proper.openCalls_le (h : s.Proper limit) : s.openCalls ≤ 7 * (limit + 1) := by
  cases s with
  | calling level tokens depth waiting =>
    have length := h.1.length_le
    have rank := level.rank_lt
    have := h.2
    simp only [openCalls]
    omega
  | giving a rest depth waiting =>
    obtain ⟨⟨level, nested⟩, _⟩ := h
    have length := nested.length_le
    have rank := level.rank_lt
    simp only [openCalls]
    omega
  | halted outcome => exact Nat.zero_le _

theorem proper_enter (token : Token) {inside : Nat → ParseState α}
    (h : depth + 1 ≤ limit → (inside (depth + 1)).Proper limit) :
    (enter limit token depth inside).Proper limit := by
  unfold enter
  split
  · trivial
  · next fits => exact h (Nat.le_of_not_lt fits)

theorem proper_goOn {tier : Tier} (nested : Nested waiting (.tier tier) depth)
    (within : depth ≤ limit) (left : α) (rest : List Token) :
    (goOn tier left rest depth waiting).Proper limit := by
  unfold goOn
  split
  · exact ⟨⟨_, nested⟩, within⟩
  · exact ⟨nested.more _ _, within⟩

theorem proper_call {level : Level} (nested : Nested waiting level depth) (within : depth ≤ limit)
    (tokens : List Token) : (call m finish limit level tokens depth waiting).Proper limit := by
  cases level with
  | tier tier => exact ⟨nested.first, within⟩
  | unary =>
    cases tokens with
    | nil => exact ⟨nested.alone, within⟩
    | cons token rest =>
      simp only [call]
      split
      · exact proper_enter _ fun fits => ⟨nested.not, fits⟩
      · exact ⟨nested.alone, within⟩
  | primary =>
    cases tokens with
    | nil => trivial
    | cons token rest =>
      simp only [call]
      cases token.lexeme with
      | literal l => exact ⟨⟨_, nested⟩, within⟩
      | identifier path => exact ⟨⟨_, nested⟩, within⟩
      | lparen => exact proper_enter _ fun fits => ⟨nested.paren _, fits⟩
      | operator op => trivial
      | rparen => trivial

theorem proper_give {level : Level} (nested : Nested waiting level depth) (within : depth ≤ limit)
    (a : α) (rest : List Token) : (give m finish a rest depth waiting).Proper limit := by
  cases nested with
  | outermost => cases rest <;> trivial
  | first outer => exact proper_goOn outer within _ _
  | more left op outer => exact proper_goOn outer within _ _
  | alone outer => exact ⟨⟨_, outer⟩, within⟩
  | not outer => exact ⟨⟨_, outer⟩, Nat.le_of_succ_le within⟩
  | paren opening outer =>
    cases rest with
    | nil => trivial
    | cons closing rest =>
      simp only [give]
      split
      · exact ⟨⟨_, outer⟩, Nat.le_of_succ_le within⟩
      · trivial

theorem Proper.step? (h : s.Proper limit) (next : step? m finish limit s = some t) :
    t.Proper limit := by
  cases s with
  | calling level tokens depth waiting =>
    cases next
    exact proper_call h.1 h.2 tokens
  | giving a rest depth waiting =>
    cases next
    obtain ⟨⟨level, nested⟩, within⟩ := h
    exact proper_give nested within a rest
  | halted outcome => cases next

theorem Proper.reaches (h : s.Proper limit) (reaches : Reaches m finish limit s t) :
    t.Proper limit := by
  induction reaches with
  | refl => exact h
  | tail _ next ih => exact ih.step? next

/-- A parse makes the same steps with a budget of seven calls for every level of nesting. -/
theorem Proper.reachesWithin_iff (h : s.Proper limit) :
    ReachesWithin m finish limit (7 * (limit + 1)) s t ↔ Reaches m finish limit s t := by
  constructor
  · intro within
    induction within with
    | refl => exact .refl
    | tail _ next ih => exact ih.tail next.1
  · intro reaches
    induction reaches with
    | refl => exact .refl
    | tail before next ih => exact ih.tail ⟨next, ((h.reaches before).step? next).openCalls_le⟩

/-! ### What the machine computes -/

/-- The state in which a call of a parser has given what it gives. -/
def after (depth : Nat) (waiting : List (WaitingCall α)) :
    Except SyntaxError (α × List Token) → ParseState α
  | .error e => .halted (.error e)
  | .ok (a, rest) => .giving a rest depth waiting

theorem enter_of_lt (h : depth < limit) (token : Token) (inside : Nat → ParseState α) :
    enter limit token depth inside = inside (depth + 1) := if_neg (Nat.not_lt.mpr h)

theorem enter_limit (token : Token) (inside : Nat → ParseState α) :
    enter limit token limit inside = .halted (.error ⟨.tooDeep, token.position⟩) :=
  if_pos (Nat.lt_succ_self limit)

theorem reaches_of_alone (result : Except SyntaxError (α × List Token)) :
    Reaches m finish limit (after depth (.alone :: waiting) result)
      (after depth waiting result) := by
  cases result with
  | error e => exact .refl
  | ok read => exact .single rfl

theorem reaches_of_not (result : Except SyntaxError (α × List Token)) :
    Reaches m finish limit (after (depth + 1) (.not :: waiting) result)
      (after depth waiting (result.map fun (operand, rest) => (m.not operand, rest))) := by
  cases result with
  | error e => exact .refl
  | ok read => exact .single rfl

theorem reaches_of_paren (opening : Token) (result : Except SyntaxError (α × List Token)) :
    Reaches m finish limit (after (depth + 1) (.paren opening :: waiting) result)
      (after depth waiting (closeParen finish opening result)) := by
  match result with
  | .error e => exact .refl
  | .ok (_, []) => exact .single rfl
  | .ok (a, closing :: rest) =>
    refine .single ?_
    simp only [step?, after, give, closeParen]
    split <;> rfl

/-- The calls of a level lead to what the parser of the level gives, if the parentheses and `!`
around and the room for more make up the limit. -/
def Calls (m : Meaning α) (finish limit room : Nat) (level : Level) : Prop :=
  ∀ tokens depth waiting, depth + room = limit →
    Reaches m finish limit (.calling level tokens depth waiting)
      (after depth waiting (parserWithin m finish room level tokens))

/-- The loop of a tier. A parser leaves no more tokens than it was given, so the bound on the
rounds is never met. -/
theorem reaches_of_goOn {room : Nat} {tier : Tier}
    (operand : Calls m finish limit room tier.operand) (fits : depth + room = limit)
    (bound : List Token) (left : α) (rest : List Token) (bounded : rest.length ≤ bound.length) :
    Reaches m finish limit (goOn tier left rest depth waiting)
      (after depth waiting
        (parseMore m tier (parserWithin m finish room tier.operand) bound left rest)) := by
  induction bound generalizing left rest with
  | nil =>
    obtain rfl := List.eq_nil_of_length_eq_zero (Nat.le_zero.mp bounded)
    exact .refl
  | cons _ bound ih =>
    cases take : takeOperator? tier rest with
    | none =>
      simp only [goOn, parseMore, take]
      exact .refl
    | some found =>
      obtain ⟨op, afterOp⟩ := found
      have called := operand afterOp depth (.more tier left op :: waiting) fits
      simp only [goOn, parseMore, take]
      refine called.trans ?_
      cases hright : parserWithin m finish room tier.operand afterOp with
      | error e => exact .refl
      | ok read =>
        obtain ⟨right, rest'⟩ := read
        obtain ⟨token, rfl, -, -⟩ := takeOperator?_eq_some take
        obtain ⟨-, taken, rfl, -⟩ := parserWithin_sound room tier.operand _ _ _ hright
        have shorter : rest'.length ≤ bound.length := by
          simp only [List.length_cons, List.length_append] at bounded
          omega
        exact .head rfl (ih (m.binary op left right) rest' shorter)

/-- Every level, by induction on the room and the level. The depth goes up where the room goes
down. -/
theorem calls (room : Nat) (level : Level) : Calls m finish limit room level := by
  induction room, level using roomInduction with
  | primary room ih =>
    intro tokens depth waiting fits
    cases tokens with
    | nil => exact .single rfl
    | cons token rest =>
      cases hx : token.lexeme with
      | literal l =>
        rw [parserWithin_literal hx]
        exact .single (by simp only [step?, call, hx, after])
      | identifier path =>
        rw [parserWithin_identifier hx]
        exact .single (by simp only [step?, call, hx, after])
      | operator op =>
        rw [parserWithin_unexpected (.inr ⟨op, hx⟩)]
        exact .single (by simp only [step?, call, hx, after])
      | rparen =>
        rw [parserWithin_unexpected (.inl hx)]
        exact .single (by simp only [step?, call, hx, after])
      | lparen =>
        cases room with
        | zero =>
          obtain rfl : depth = limit := fits
          rw [parserWithin_lparen_zero hx]
          exact .single (by simp only [step?, call, hx, enter_limit, after])
        | succ r =>
          have opens : step? m finish limit (.calling .primary (token :: rest) depth waiting) =
              some (.calling (.tier .disjunction) rest (depth + 1) (.paren token :: waiting)) := by
            simp only [step?, call, hx, enter_of_lt (show depth < limit by omega)]
          have inside := ih r rfl (.tier .disjunction) rest (depth + 1) (.paren token :: waiting)
            (by omega)
          rw [parserWithin_lparen hx]
          exact .head opens (inside.trans (reaches_of_paren token _))
  | unary room ih primary =>
    intro tokens depth waiting fits
    cases tokens with
    | nil => exact .head rfl ((primary [] depth _ fits).trans (reaches_of_alone _))
    | cons token rest =>
      by_cases hx : token.lexeme = .operator .not
      · cases room with
        | zero =>
          obtain rfl : depth = limit := fits
          rw [parserWithin_not_zero hx]
          exact .single (by simp only [step?, call, hx, if_true, enter_limit, after])
        | succ r =>
          have enter : step? m finish limit (.calling .unary (token :: rest) depth waiting) =
              some (.calling .unary rest (depth + 1) (.not :: waiting)) := by
            simp only [step?, call, hx, if_true, enter_of_lt (show depth < limit by omega)]
          have inside := ih r rfl rest (depth + 1) (.not :: waiting) (by omega)
          rw [parserWithin_not hx]
          exact .head enter (inside.trans (reaches_of_not _))
      · have alone : step? m finish limit (.calling .unary (token :: rest) depth waiting) =
            some (.calling .primary (token :: rest) depth (.alone :: waiting)) := by
          simp only [step?, call, hx, if_false]
        rw [parserWithin_unary_of_ne hx]
        exact .head alone ((primary _ depth _ fits).trans (reaches_of_alone _))
  | tier room tier operand =>
    intro tokens depth waiting fits
    have called := operand tokens depth (.first tier :: waiting) fits
    rw [parserWithin_tier, parseTier]
    refine .head rfl (called.trans ?_)
    cases parserWithin m finish room tier.operand tokens with
    | error e => exact .refl
    | ok read =>
      obtain ⟨left, rest⟩ := read
      exact .head rfl (reaches_of_goOn operand fits rest left rest (Nat.le_refl _))

/-- A parse halts with what the parser gives. -/
theorem reaches_readTokens (tokens : List Token) :
    Reaches m finish limit (start tokens) (.halted (readTokens m finish limit tokens)) := by
  have called : Reaches m finish limit (start tokens) _ :=
    calls limit (.tier .disjunction) tokens 0 [] (Nat.zero_add limit)
  refine called.trans ?_
  rw [readTokens, parseWithin_expression]
  rcases parserWithin m finish limit (.tier .disjunction) tokens with e | ⟨a, _ | ⟨token, rest⟩⟩
  · exact .refl
  · exact .single rfl
  · exact .single rfl

theorem Reaches.eq_of_halted {outcome : Except SyntaxError α}
    (h : Reaches m finish limit (.halted outcome) s) : s = .halted outcome := by
  rcases Relation.ReflTransGen.cases_head h with same | ⟨t, next, -⟩
  · exact same.symm
  · cases next

/-- Every step is determined, so a parse halts with one outcome. -/
theorem reaches_halted_iff {tokens : List Token} {outcome : Except SyntaxError α} :
    Reaches m finish limit (start tokens) (.halted outcome) ↔
      outcome = readTokens m finish limit tokens := by
  constructor
  · intro h
    have unique : Relator.RightUnique fun s t => step? m finish limit s = some t :=
      fun _ _ _ first second => Option.some.inj (first.symm.trans second)
    rcases Relation.ReflTransGen.total_of_right_unique unique h (reaches_readTokens tokens) with
      on | on
    · exact (ParseState.halted.inj (Reaches.eq_of_halted on)).symm
    · exact ParseState.halted.inj (Reaches.eq_of_halted on)
  · rintro rfl
    exact reaches_readTokens tokens

end ParseState

end Expr

open Bulletin.Expr Bulletin.Expr.ParseState in
/-- A parse never has more than seven calls open for every level of nesting that the limit allows,
the outermost included, however many tokens there are and whether or not they are an expression. So
it gives the same value or error whether its calls have that budget or none. -/
theorem Evaluator.evalTokens_open_calls (context : Context) (environ : Environ)
    (maxDepth finish : Nat) (tokens : List Token) :
    let m := Value.meaning (context.resolve environ)
    (∀ s, Reaches m finish maxDepth (start tokens) s → s.openCalls ≤ 7 * (maxDepth + 1)) ∧
      ∀ outcome,
        (Reaches m finish maxDepth (start tokens) (.halted outcome) ↔
          outcome = (⟨context, environ, maxDepth⟩ : Evaluator).evalTokens finish tokens) ∧
        (ReachesWithin m finish maxDepth (7 * (maxDepth + 1)) (start tokens) (.halted outcome) ↔
          outcome = (⟨context, environ, maxDepth⟩ : Evaluator).evalTokens finish tokens) := by
  intro m
  have proper : (start tokens : ParseState Value).Proper maxDepth := proper_start tokens
  refine ⟨fun s reaches => (proper.reaches reaches).openCalls_le, fun outcome => ?_⟩
  rw [proper.reachesWithin_iff, reaches_halted_iff]
  exact ⟨Iff.rfl, Iff.rfl⟩

end Bulletin
