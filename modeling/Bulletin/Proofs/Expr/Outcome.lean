import Bulletin.Proofs.Expr.Reading
import Bulletin.Report

/-!
# Failure is a matter of the text

The parser computes values while it reads, and could let a value decide how it goes on. It does
not: under any meaning it reads what it reads under the meaning of trees, up to the last token,
and gives what the tree stands for. So an expression is evaluated by reading its tree and taking
it to a value, and whether it fails, and how, depends neither on a context nor on an environment.
-/

namespace Bulletin

namespace Expr

variable {α : Type} {m : Meaning α} {finish : Nat}

/-- What a parser gives, with the tree taken to what it stands for. -/
def foldRead (m : Meaning α) :
    Except SyntaxError (Expr × List Token) → Except SyntaxError (α × List Token)
  | .error e => .error e
  | .ok (e, rest) => .ok (e.fold m, rest)

/-- One parser gives what the trees of the other stand for, and leaves the same tokens. -/
def Follows (m : Meaning α) (parse : Parser α) (parseTree : Parser Expr) : Prop :=
  ∀ tokens, parse tokens = foldRead m (parseTree tokens)

theorem parseMore_follows {tier : Tier} {operand : Parser α} {operandTree : Parser Expr}
    (hop : Follows m operand operandTree) (bound : List Token) (e : Expr) (rest : List Token) :
    parseMore m tier operand bound (e.fold m) rest =
      foldRead m (parseMore tree tier operandTree bound e rest) := by
  induction bound generalizing e rest with
  | nil => rfl
  | cons _ bound ih =>
    simp only [parseMore]
    cases takeOperator? tier rest with
    | none => rfl
    | some found =>
      obtain ⟨op, afterOp⟩ := found
      simp only [hop afterOp]
      cases operandTree afterOp with
      | error e => rfl
      | ok result =>
        obtain ⟨right, rest'⟩ := result
        exact ih (.binary op e right) rest'

theorem parseTier_follows {tier : Tier} {operand : Parser α} {operandTree : Parser Expr}
    (hop : Follows m operand operandTree) :
    Follows m (parseTier m tier operand) (parseTier tree tier operandTree) := by
  intro tokens
  simp only [parseTier, hop tokens]
  cases operandTree tokens with
  | error e => rfl
  | ok result =>
    obtain ⟨left, rest⟩ := result
    exact parseMore_follows hop rest left rest

theorem closeParen_foldRead (opening : Token) (result : Except SyntaxError (Expr × List Token)) :
    closeParen finish opening (foldRead m result) =
      foldRead m (closeParen finish opening result) := by
  match result with
  | .error e => rfl
  | .ok (_, []) => rfl
  | .ok (body, closing :: rest) =>
    simp only [foldRead, closeParen]
    split <;> rfl

/-- The parser reads the same under every meaning. -/
theorem parserWithin_follows (room : Nat) (l : Level) :
    Follows m (parserWithin m finish room l) (parserWithin tree finish room l) := by
  induction room, l using roomInduction with
  | primary room ih =>
    intro tokens
    cases tokens with
    | nil => rfl
    | cons token rest =>
      cases hx : token.lexeme with
      | literal l => simp only [parserWithin_literal hx]; rfl
      | identifier path => simp only [parserWithin_identifier hx]; rfl
      | lparen =>
        cases room with
        | zero => simp only [parserWithin_lparen_zero hx]; rfl
        | succ r =>
          have inside := ih r rfl (.tier .disjunction) rest
          rw [parserWithin_lparen hx, parserWithin_lparen hx, inside, closeParen_foldRead]
      | operator op => simp only [parserWithin_unexpected (.inr ⟨op, hx⟩)]; rfl
      | rparen => simp only [parserWithin_unexpected (.inl hx)]; rfl
  | unary room ih primary =>
    intro tokens
    cases tokens with
    | nil => rfl
    | cons token rest =>
      by_cases hx : token.lexeme = .operator .not
      · cases room with
        | zero => simp only [parserWithin_not_zero hx]; rfl
        | succ r =>
          rw [parserWithin_not hx, parserWithin_not hx, ih r rfl rest]
          cases parserWithin tree finish r .unary rest <;> rfl
      · rw [parserWithin_unary_of_ne hx, parserWithin_unary_of_ne hx]
        exact primary (token :: rest)
  | tier room t hop =>
    rw [parserWithin_tier, parserWithin_tier]
    exact parseTier_follows hop

theorem readTokens_eq_map_fold (room : Nat) (tokens : List Token) :
    readTokens m finish room tokens =
      (readTokens tree finish room tokens).map (Expr.fold m) := by
  simp only [readTokens, parseWithin_expression]
  rw [parserWithin_follows room (.tier .disjunction) tokens]
  rcases parserWithin tree finish room (.tier .disjunction) tokens with e | ⟨e, _ | ⟨token, rest⟩⟩ <;>
    rfl

/-- A text stands for what its tree stands for. -/
theorem readText_eq_map_fold (room : Nat) (expression : String) :
    readText m room expression = (ofText room expression).map (Expr.fold m) := by
  simp only [ofText, readText]
  cases Token.ofText expression with
  | error stray => rfl
  | ok tokens => exact readTokens_eq_map_fold room tokens

end Expr

namespace Evaluator

/-- An expression is evaluated by reading its tree, and computing the value of the tree. -/
theorem eval_eq_map_eval (e : Evaluator) (expression : String) :
    e.eval expression =
      (Expr.ofText e.maxDepth.toNat expression).map
        (Expr.eval (e.context.resolve e.environ)) :=
  Expr.readText_eq_map_fold _ expression

def report? (e : Evaluator) (expression : String) : Option Report :=
  match e.eval expression with
  | .ok _ => none
  | .error x => some (x.report e.maxDepth expression)

theorem report?_eq_none_iff (e : Evaluator) (expression : String) :
    e.report? expression = none ↔ ∃ v, e.eval expression = .ok v := by
  simp only [report?]
  cases e.eval expression <;> simp

theorem report?_eq_of_ofText (e : Evaluator) (expression : String) :
    e.report? expression =
      match Expr.ofText e.maxDepth.toNat expression with
      | .ok _ => none
      | .error x => some (x.report e.maxDepth expression) := by
  rw [report?, eval_eq_map_eval]
  cases Expr.ofText e.maxDepth.toNat expression <;> rfl

end Evaluator

/-- Whether an expression fails, and with which class, position and message, depends on its text
and on the limit alone, and there are three classes in which it can fail. So no look-up and no
operator fails, whatever values it meets. -/
theorem Evaluator.report?_eq_report? (expression : String) (maxDepth : Int)
    (context context' : Context) (environ environ' : Environ) :
    ((∃ v, (⟨context, environ, maxDepth⟩ : Evaluator).eval expression = .ok v) ↔
        ∃ v, (⟨context', environ', maxDepth⟩ : Evaluator).eval expression = .ok v) ∧
      (⟨context, environ, maxDepth⟩ : Evaluator).report? expression =
        (⟨context', environ', maxDepth⟩ : Evaluator).report? expression ∧
      ((⟨context, environ, maxDepth⟩ : Evaluator).report? expression).map Report.className ∈
        [none, some "LexError", some "ParseError", some "NestingDepthError"] := by
  have same : (⟨context, environ, maxDepth⟩ : Evaluator).report? expression =
      (⟨context', environ', maxDepth⟩ : Evaluator).report? expression := by
    rw [report?_eq_of_ofText, report?_eq_of_ofText]
  refine ⟨?_, same, ?_⟩
  · rw [← report?_eq_none_iff, ← report?_eq_none_iff, same]
  · rw [report?]
    cases (⟨context, environ, maxDepth⟩ : Evaluator).eval expression with
    | ok v => simp
    | error x =>
      rw [Option.map_some, SyntaxError.className_report]
      cases x.fault <;> simp

end Bulletin
