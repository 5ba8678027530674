import Bulletin.Expr.Token

/-!
# From tokens to expressions

The grammar has five tiers of binary operators, each associating to the left, then `!`, then
literals, paths and parentheses. A single pass over the tokens computes what the expression stands
for while it is read, in whatever meaning is asked for; no tree is kept unless trees are the
meaning, and parentheses leave no trace in a tree. Parentheses and `!` use up nesting room. The
parser for some room is built from the parser for one less, so nesting cannot go deeper than the
room allows, and no more productions are under way at a time than seven for every level.

The first token that no expression can have in its place is the one reported. Whether a text is
refused depends on the text and on the room alone.
-/

namespace Bulletin

/-! ### Expressions -/

/-- What the constructs of an expression stand for. -/
structure Meaning (α : Type) where
  literal : Literal → α
  identifier : String → α
  not : α → α
  binary : BinaryOp → α → α → α

def Value.meaning (resolve : String → Value) : Meaning Value where
  literal := Literal.toValue
  identifier := resolve
  not operand := .bool (!operand.truthy)
  binary := BinaryOp.apply

inductive Expr where
  | literal (l : Literal)
  | identifier (path : String)
  | not (operand : Expr)
  | binary (op : BinaryOp) (left right : Expr)
  deriving DecidableEq

namespace Expr

def tree : Meaning Expr := ⟨.literal, .identifier, .not, .binary⟩

/-- What an expression stands for, from the leaves up. -/
def fold (m : Meaning α) : Expr → α
  | .literal l => m.literal l
  | .identifier path => m.identifier path
  | .not operand => m.not (operand.fold m)
  | .binary op left right => m.binary op (left.fold m) (right.fold m)

def eval (resolve : String → Value) (e : Expr) : Value := e.fold (Value.meaning resolve)

@[simp] theorem eval_not (resolve : String → Value) (operand : Expr) :
    operand.not.eval resolve = .bool (!(operand.eval resolve).truthy) := rfl

@[simp] theorem eval_binary (resolve : String → Value) (op : BinaryOp) (left right : Expr) :
    (binary op left right).eval resolve = op.apply (left.eval resolve) (right.eval resolve) := rfl

def paths : Expr → List String
  | .literal _ => []
  | .identifier path => [path]
  | .not operand => operand.paths
  | .binary _ left right => left.paths ++ right.paths

/-- The value depends on the paths of the expression only. -/
theorem eval_congr {f g : String → Value} {e : Expr} (h : ∀ p ∈ e.paths, f p = g p) :
    e.eval f = e.eval g := by
  induction e with
  | literal l => rfl
  | identifier path => exact h path (by simp [paths])
  | not operand ih => simp only [eval_not, ih h]
  | binary op left right ihl ihr =>
    have hl := ihl fun p hp => h p (by simp [paths, hp])
    have hr := ihr fun p hp => h p (by simp [paths, hp])
    simp only [eval_binary, hl, hr]

end Expr

/-! ### Parsing -/

inductive Fault where
  | strayCharacter (c : Char)
  | unexpectedToken (lexeme : Lexeme)
  | trailingToken (lexeme : Lexeme)
  | unexpectedEnd
  | unclosed (opened : Nat)
  | tooDeep
  deriving DecidableEq

structure SyntaxError where
  fault : Fault
  position : Nat
  deriving DecidableEq

namespace Expr

/-- A parser takes an expression off the front of a list of tokens, and says what it stands
for. -/
abbrev Parser (α : Type) := List Token → Except SyntaxError (α × List Token)

/-- The two places where the grammar refers back to itself. -/
inductive Entry where
  /-- A whole expression, inside parentheses. -/
  | expression
  /-- The operand of a `!`. -/
  | operand
  deriving DecidableEq

/-- Parsers for what stands one level deeper; none when there is no room left. -/
abbrev Inner (α : Type) := Option (Entry → Parser α)

variable {α : Type}

/-- A closing parenthesis after what was read inside. The end of the text is at `finish`. -/
def closeParen (finish : Nat) (opening : Token) :
    Except SyntaxError (α × List Token) → Except SyntaxError (α × List Token)
  | .error e => .error e
  | .ok (_, []) => .error ⟨.unclosed opening.position, finish⟩
  | .ok (body, closing :: rest) =>
    if closing.lexeme = .rparen then .ok (body, rest)
    else .error ⟨.unclosed opening.position, closing.position⟩

def parsePrimary (m : Meaning α) (finish : Nat) (inner : Inner α) : Parser α
  | [] => .error ⟨.unexpectedEnd, finish⟩
  | token :: rest =>
    match token.lexeme with
    | .literal l => .ok (m.literal l, rest)
    | .identifier path => .ok (m.identifier path, rest)
    | .lparen =>
      match inner with
      | none => .error ⟨.tooDeep, token.position⟩
      | some parse => closeParen finish token (parse .expression rest)
    | lexeme => .error ⟨.unexpectedToken lexeme, token.position⟩

def parseUnary (m : Meaning α) (finish : Nat) (inner : Inner α) : Parser α
  | [] => parsePrimary m finish inner []
  | token :: rest =>
    if token.lexeme = .operator .not then
      match inner with
      | none => .error ⟨.tooDeep, token.position⟩
      | some parse => (parse .operand rest).map fun (operand, rest') => (m.not operand, rest')
    else parsePrimary m finish inner (token :: rest)

def takeOperator? (tier : Tier) : List Token → Option (BinaryOp × List Token)
  | [] => none
  | token :: rest =>
    match token.lexeme with
    | .operator (.binary op) => if op.tier = tier then some (op, rest) else none
    | _ => none

/-- The operators of a tier and their right operands that follow a left operand. Every round
takes an operator, so there are no more rounds than tokens in `bound`. -/
def parseMore (m : Meaning α) (tier : Tier) (operand : Parser α) : List Token → α → Parser α
  | [], left, rest => .ok (left, rest)
  | _ :: bound, left, rest =>
    match takeOperator? tier rest with
    | none => .ok (left, rest)
    | some (op, afterOp) =>
      match operand afterOp with
      | .error e => .error e
      | .ok (right, rest') => parseMore m tier operand bound (m.binary op left right) rest'

def parseTier (m : Meaning α) (tier : Tier) (operand : Parser α) : Parser α := fun tokens =>
  match operand tokens with
  | .error e => .error e
  | .ok (left, rest) => parseMore m tier operand rest left rest

/-- The grammar on top of what stands one level deeper. -/
def parseEntry (m : Meaning α) (finish : Nat) (inner : Inner α) : Entry → Parser α
  | .operand => parseUnary m finish inner
  | .expression =>
    parseTier m .disjunction <| parseTier m .conjunction <| parseTier m .comparison <|
      parseTier m .sum <| parseTier m .product <| parseUnary m finish inner

def parseWithin (m : Meaning α) (finish : Nat) : Nat → Entry → Parser α
  | 0, entry, tokens => parseEntry m finish none entry tokens
  | room + 1, entry, tokens => parseEntry m finish (some (parseWithin m finish room)) entry tokens

def readTokens (m : Meaning α) (finish room : Nat) (tokens : List Token) : Except SyntaxError α :=
  match parseWithin m finish room .expression tokens with
  | .error e => .error e
  | .ok (a, []) => .ok a
  | .ok (_, token :: _) => .error ⟨.trailingToken token.lexeme, token.position⟩

/-- What a text stands for as one expression, with room for a number of enclosing parentheses and
`!`. -/
def readText (m : Meaning α) (room : Nat) (expression : String) : Except SyntaxError α :=
  match Token.ofText expression with
  | .error stray => .error ⟨.strayCharacter stray.character, stray.position⟩
  | .ok tokens => readTokens m expression.length room tokens

def ofText (room : Nat) (expression : String) : Except SyntaxError Expr :=
  readText tree room expression

end Expr

/-! ### Showing where an expression fails -/

/-- A problem of an expression, with the expression and a caret at a position past its start. -/
def locate (problem expression : String) (position : Int) : String :=
  if 0 < position && expression != "" then
    problem ++ " at position " ++ String.ofList (intText position) ++ ":\n" ++ expression ++ "\n"
      ++ String.ofList (List.replicate position.toNat ' ') ++ "^"
  else problem ++ ": " ++ expression

def strayProblem (character : String) (position : Int) : String :=
  "Unexpected character " ++ quoted character ++ " at offset " ++ String.ofList (intText position)

def depthProblem (limit : Int) : String :=
  "Expression nesting exceeds maximum depth of " ++ String.ofList (intText limit)

def Fault.problem (limit : Int) (position : Nat) : Fault → String
  | .strayCharacter c => strayProblem (String.singleton c) position
  | .unexpectedToken lexeme => "Unexpected token " ++ lexeme.describe
  | .trailingToken lexeme => "Unexpected trailing token " ++ lexeme.describe
  | .unexpectedEnd => "Unexpected end of expression"
  | .unclosed opened =>
    "Missing closing parenthesis for '(' opened at position "
      ++ String.ofList (decimalDigits opened)
  | .tooDeep => depthProblem limit

end Bulletin
