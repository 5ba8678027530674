import Bulletin.Value.Operators

/-!
# Operators and tokens

An expression is read as a sequence of lexemes with blanks between them. Each lexeme is as long
as the rule of its first character allows: an operator, a parenthesis, a quoted string, a number,
or a dotted path. A character that starts no lexeme is refused. There are sixteen operators. Both
operands of every binary operator have a value, so `||` and `&&` only pick one of the two.
-/

namespace Bulletin

/-! ### Operators -/

inductive BinaryOp where
  | or
  | and
  | looseEq
  | looseNe
  | strictEq
  | strictNe
  | gt
  | ge
  | lt
  | le
  | add
  | sub
  | mul
  | div
  | rem
  deriving DecidableEq, Repr

/-- How tightly an operator binds, the loosest first. Operators of one tier associate to the
left. -/
inductive Tier where
  | disjunction
  | conjunction
  | comparison
  | sum
  | product
  deriving DecidableEq, Repr

inductive Operator where
  | not
  | binary (op : BinaryOp)
  deriving DecidableEq, Repr

namespace BinaryOp

def tier : BinaryOp → Tier
  | .or => .disjunction
  | .and => .conjunction
  | .looseEq | .looseNe | .strictEq | .strictNe | .gt | .ge | .lt | .le => .comparison
  | .add | .sub => .sum
  | .mul | .div | .rem => .product

def symbol : BinaryOp → String
  | .or => "||"
  | .and => "&&"
  | .looseEq => "=="
  | .looseNe => "!="
  | .strictEq => "==="
  | .strictNe => "!=="
  | .gt => ">"
  | .ge => ">="
  | .lt => "<"
  | .le => "<="
  | .add => "+"
  | .sub => "-"
  | .mul => "*"
  | .div => "/"
  | .rem => "%"

/-- Loose equality as the operator `==` has it: texts that are plain numerals count as numbers
first. -/
def equalAsNumerals (a b : Value) : Bool :=
  Value.looseEq a.coerceNumeral b.coerceNumeral

def apply : BinaryOp → Value → Value → Value
  | .or, a, b => if a.truthy then a else b
  | .and, a, b => if a.truthy then b else a
  | .looseEq, a, b => .bool (equalAsNumerals a b)
  | .looseNe, a, b => .bool (!equalAsNumerals a b)
  | .strictEq, a, b => .bool (a.strictEq b)
  | .strictNe, a, b => .bool (!a.strictEq b)
  | .gt, a, b => .bool (b.toNumber.lt a.toNumber)
  | .ge, a, b => .bool (b.toNumber.le a.toNumber)
  | .lt, a, b => .bool (a.toNumber.lt b.toNumber)
  | .le, a, b => .bool (a.toNumber.le b.toNumber)
  | .add, a, b => a.add b
  | .sub, a, b => a.sub b
  | .mul, a, b => a.mul b
  | .div, a, b => a.div b
  | .rem, a, b => a.rem b

end BinaryOp

namespace Operator

def symbol : Operator → String
  | .not => "!"
  | .binary op => op.symbol

def longestFirst : List Operator :=
  [.binary .strictEq, .binary .strictNe,
    .binary .le, .binary .ge, .binary .looseEq, .binary .looseNe, .binary .and, .binary .or,
    .binary .gt, .binary .lt, .not, .binary .add, .binary .sub, .binary .mul, .binary .div,
    .binary .rem]

/-- The operator with the longest symbol that a text starts with. -/
def scan? (text : List Char) : Option Operator :=
  longestFirst.find? fun op => op.symbol.toList.isPrefixOf text

theorem mem_longestFirst (op : Operator) : op ∈ longestFirst := by
  rcases op with _ | op
  · decide
  · cases op <;> decide

end Operator

/-! ### Tokens -/

inductive Literal where
  | null
  | boolean (b : Bool)
  | number (x : Double)
  | string (s : String)
  deriving DecidableEq

def Literal.toValue : Literal → Value
  | .null => .null
  | .boolean b => .bool b
  | .number x => .double x
  | .string s => .str s

inductive Lexeme where
  | literal (l : Literal)
  | identifier (path : String)
  | operator (op : Operator)
  | lparen
  | rparen
  deriving DecidableEq

structure Token where
  lexeme : Lexeme
  position : Nat
  deriving DecidableEq

structure StrayChar where
  character : Char
  position : Nat
  deriving DecidableEq, Repr

namespace Lexeme

def kindName : Lexeme → String
  | .literal .null => "null"
  | .literal (.boolean _) => "boolean"
  | .literal (.number _) => "number"
  | .literal (.string _) => "string"
  | .identifier _ => "identifier"
  | .operator _ => "operator"
  | .lparen => "lparen"
  | .rparen => "rparen"

/-- What a lexeme carries: a decoded literal, a path, or the symbol itself. -/
def payload : Lexeme → Value
  | .literal l => l.toValue
  | .identifier path => .str path
  | .operator op => .str op.symbol
  | .lparen => .str "("
  | .rparen => .str ")"

def describe : Lexeme → String
  | .literal .null => "null"
  | .literal (.boolean b) => if b then "true" else "false"
  | .literal (.number x) => "number " ++ String.ofList x.fullText
  | .literal (.string s) => "string " ++ quoted s
  | .identifier path => "identifier " ++ quoted path
  | .operator op => "'" ++ op.symbol ++ "'"
  | .lparen => "'('"
  | .rparen => "')'"

end Lexeme

/-- The text of a quoted string after its opening quote, and the number of characters it takes,
the closing quote included. A backslash stands for the character after it. A string without a
closing quote goes on to the end of the expression. -/
def quotedBody (quote : Char) : List Char → List Char × Nat
  | [] => ([], 0)
  | ['\\'] => ([], 1)
  | '\\' :: c :: rest =>
    let (text, width) := quotedBody quote rest
    (c :: text, width + 2)
  | c :: rest =>
    if c = quote then ([], 1)
    else
      let (text, width) := quotedBody quote rest
      (c :: text, width + 1)

/-- The length of the longest run of digits, underscores and at most one point. -/
def numberWidth (seenPoint : Bool) : List Char → Nat
  | [] => 0
  | c :: rest =>
    if c.isDigit || c = '_' then numberWidth seenPoint rest + 1
    else if c = '.' && !seenPoint then numberWidth true rest + 1
    else 0

/-- The double that a number lexeme denotes. Underscores are separators without a meaning. -/
def numberValue (lexeme : List Char) : Double :=
  match Decimal.read? (lexeme.filter (· != '_')) with
  | some numeral => numeral.toDouble
  | none => .nan

def startsNumber : List Char → Bool
  | [] => false
  | c :: rest => c.isDigit || (c = '.' && (rest.head?.any Char.isDigit))

def isPathStart (c : Char) : Bool := c.isAlpha || c = '_'

def isPathPart (c : Char) : Bool :=
  c.isAlphanum || c = '_' || c = '.' || c = '-' || c = '[' || c = ']'

/-- The lexeme of a path: three of them are keywords. -/
def pathLexeme (path : String) : Lexeme :=
  if path = "true" then .literal (.boolean true)
  else if path = "false" then .literal (.boolean false)
  else if path = "null" then .literal .null
  else .identifier path

def Lexeme.scan? (text : List Char) : Option (Lexeme × Nat) :=
  match text with
  | [] => none
  | c :: rest =>
    match Operator.scan? (c :: rest) with
    | some op => some (.operator op, op.symbol.length)
    | none =>
      if c = '(' then some (.lparen, 1)
      else if c = ')' then some (.rparen, 1)
      else if c = '\'' || c = '"' then
        let (body, width) := quotedBody c rest
        some (.literal (.string (String.ofList body)), width + 1)
      else if startsNumber (c :: rest) then
        let width := numberWidth false (c :: rest)
        some (.literal (.number (numberValue ((c :: rest).take width))), width)
      else if isPathStart c then
        let path := c :: rest.takeWhile isPathPart
        some (pathLexeme (String.ofList path), path.length)
      else none

namespace Token

/-- The tokens of a text whose first character stands at an offset. -/
def scanFrom (position : Nat) (text : List Char) : Except StrayChar (List Token) :=
  match text with
  | [] => .ok []
  | c :: rest =>
    if isBlank c then scanFrom (position + 1) rest
    else
      match Lexeme.scan? (c :: rest) with
      | none => .error ⟨c, position⟩
      | some (lexeme, width) =>
        (scanFrom (position + width) (rest.drop (width - 1))).map (⟨lexeme, position⟩ :: ·)
termination_by text.length
decreasing_by
  · simp
  · simp only [List.length_cons, List.length_drop]
    omega

@[simp] theorem scanFrom_nil (position : Nat) : scanFrom position [] = .ok [] := by
  rw [scanFrom.eq_def]

theorem scanFrom_blank {c : Char} (h : isBlank c) (position : Nat) (rest : List Char) :
    scanFrom position (c :: rest) = scanFrom (position + 1) rest := by
  rw [scanFrom.eq_def]
  simp only [h, if_true]

theorem scanFrom_lexeme {c : Char} {rest : List Char} {lexeme : Lexeme} {width : Nat}
    (hblank : isBlank c = false) (h : Lexeme.scan? (c :: rest) = some (lexeme, width))
    (position : Nat) :
    scanFrom position (c :: rest) =
      (scanFrom (position + width) (rest.drop (width - 1))).map (⟨lexeme, position⟩ :: ·) := by
  rw [scanFrom.eq_def]
  simp only [hblank, Bool.false_eq_true, if_false, h]

theorem scanFrom_stray {c : Char} {rest : List Char} (hblank : isBlank c = false)
    (h : Lexeme.scan? (c :: rest) = none) (position : Nat) :
    scanFrom position (c :: rest) = .error ⟨c, position⟩ := by
  rw [scanFrom.eq_def]
  simp only [hblank, Bool.false_eq_true, if_false, h]

def ofText (expression : String) : Except StrayChar (List Token) := scanFrom 0 expression.toList

end Token

end Bulletin
