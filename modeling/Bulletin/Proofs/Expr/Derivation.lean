import Bulletin.Expr.Parser

/-!
# Derivations

The grammar of expressions, apart from any way of reading it. Five tiers of binary operators
associate to the left, each over operands of the next tighter level; `!` binds tighter than all of
them, and literals, paths and parentheses stand alone. A derivation is a tree of this grammar with
a list of lexemes as its yield. The main statement is that a list of lexemes has at most one
derivation, whatever it is followed by, as long as no operator in what follows goes on with it.
-/

namespace Bulletin

/-- A nonterminal of the grammar, the loosest first. -/
inductive Level where
  | tier (tier : Tier)
  | unary
  | primary
  deriving DecidableEq

namespace Tier

/-- The loosest tier comes first. -/
def rank : Tier → Nat
  | .disjunction => 0
  | .conjunction => 1
  | .comparison => 2
  | .sum => 3
  | .product => 4

def operand : Tier → Level
  | .disjunction => .tier .conjunction
  | .conjunction => .tier .comparison
  | .comparison => .tier .sum
  | .sum => .tier .product
  | .product => .unary

theorem rank_injective {a b : Tier} (h : a.rank = b.rank) : a = b := by
  revert h
  cases a <;> cases b <;> decide

theorem rank_lt (tier : Tier) : tier.rank < 5 := by cases tier <;> decide

end Tier

namespace Level

/-- The loosest level comes first. -/
def rank : Level → Nat
  | .tier t => t.rank
  | .unary => 5
  | .primary => 6

@[simp] theorem rank_operand (tier : Tier) : tier.operand.rank = tier.rank + 1 := by
  cases tier <;> rfl

theorem rank_lt (l : Level) : l.rank < 7 := by
  cases l with
  | tier t => exact Nat.lt_trans t.rank_lt (by decide)
  | unary | primary => decide

/-- Induction from the tightest level to the loosest. -/
theorem tightestFirst {P : Level → Prop} (primary : P .primary) (unary : P .unary)
    (tier : ∀ t : Tier, P t.operand → P (.tier t)) (l : Level) : P l := by
  have product := tier .product unary
  have sum := tier .sum product
  have comparison := tier .comparison sum
  have conjunction := tier .conjunction comparison
  match l with
  | .primary => exact primary
  | .unary => exact unary
  | .tier .product => exact product
  | .tier .sum => exact sum
  | .tier .comparison => exact comparison
  | .tier .conjunction => exact conjunction
  | .tier .disjunction => exact tier .disjunction conjunction

end Level

/-- A derivation tree of the grammar, from a level. -/
inductive Derivation : Level → Type where
  | single {tier : Tier} (only : Derivation tier.operand) : Derivation (.tier tier)
  | binary {tier : Tier} (op : BinaryOp) (tier_eq : op.tier = tier)
      (left : Derivation (.tier tier)) (right : Derivation tier.operand) :
      Derivation (.tier tier)
  | alone (primary : Derivation .primary) : Derivation .unary
  | not (operand : Derivation .unary) : Derivation .unary
  | literal (l : Literal) : Derivation .primary
  | identifier (path : String) : Derivation .primary
  | paren (body : Derivation (.tier .disjunction)) : Derivation .primary

namespace Derivation

variable {α : Type} {l : Level} {tier : Tier}

/-- The lexemes at the leaves, from left to right. -/
def yield : {l : Level} → Derivation l → List Lexeme
  | _, .single only => only.yield
  | _, .binary op _ left right => left.yield ++ .operator (.binary op) :: right.yield
  | _, .alone primary => primary.yield
  | _, .not operand => .operator .not :: operand.yield
  | _, .literal l => [.literal l]
  | _, .identifier path => [.identifier path]
  | _, .paren body => .lparen :: body.yield ++ [.rparen]

def value (m : Meaning α) : {l : Level} → Derivation l → α
  | _, .single only => only.value m
  | _, .binary op _ left right => m.binary op (left.value m) (right.value m)
  | _, .alone primary => primary.value m
  | _, .not operand => m.not (operand.value m)
  | _, .literal l => m.literal l
  | _, .identifier path => m.identifier path
  | _, .paren body => body.value m

/-- The greatest number of parentheses and `!` around a lexeme. -/
def nesting : {l : Level} → Derivation l → Nat
  | _, .single only => only.nesting
  | _, .binary _ _ left right => max left.nesting right.nesting
  | _, .alone primary => primary.nesting
  | _, .not operand => operand.nesting + 1
  | _, .literal _ => 0
  | _, .identifier _ => 0
  | _, .paren body => body.nesting + 1

/-- What is derived from a level is derived from every looser level. -/
theorem exists_loosen (d : Derivation l) (l' : Level) (hrank : l'.rank ≤ l.rank) :
    ∃ d' : Derivation l', d'.yield = d.yield ∧ d'.nesting = d.nesting ∧
      ∀ {α : Type} (m : Meaning α), d'.value m = d.value m := by
  induction l' using Level.tightestFirst with
  | primary =>
    cases l with
    | primary => exact ⟨d, rfl, rfl, fun _ => rfl⟩
    | unary => simp [Level.rank] at hrank
    | tier t =>
      have := t.rank_lt
      simp only [Level.rank] at hrank
      omega
  | unary =>
    cases l with
    | primary => exact ⟨.alone d, rfl, rfl, fun _ => rfl⟩
    | unary => exact ⟨d, rfl, rfl, fun _ => rfl⟩
    | tier t =>
      have := t.rank_lt
      simp only [Level.rank] at hrank
      omega
  | tier t ih =>
    -- a tighter level goes through the operands of the tier
    have further (hlt : t.rank < l.rank) : ∃ d' : Derivation (.tier t), d'.yield = d.yield ∧
        d'.nesting = d.nesting ∧ ∀ {α : Type} (m : Meaning α), d'.value m = d.value m := by
      obtain ⟨d', hyield, hnesting, hvalue⟩ := ih (by rw [Level.rank_operand]; exact hlt)
      exact ⟨.single d', hyield, hnesting, hvalue⟩
    rcases Nat.lt_or_eq_of_le hrank with hlt | heq
    · exact further hlt
    · cases l with
      | primary => exact further (Nat.lt_trans t.rank_lt (by decide))
      | unary => exact further t.rank_lt
      | tier t' =>
        obtain rfl := Tier.rank_injective heq
        exact ⟨d, rfl, rfl, fun _ => rfl⟩

/-! ### Chains of operands -/

structure Link (tier : Tier) where
  op : BinaryOp
  tier_eq : op.tier = tier
  right : Derivation tier.operand

def Link.yield (link : Link tier) : List Lexeme := .operator (.binary link.op) :: link.right.yield

def extend (d : Derivation (.tier tier)) : List (Link tier) → Derivation (.tier tier)
  | [] => d
  | link :: links => extend (.binary link.op link.tier_eq d link.right) links

end Derivation

/-! ### Unique derivations -/

/-- What follows does not start with a binary operator of a rank or a tighter one. -/
def Stops (rank : Nat) (rest : List Lexeme) : Prop :=
  ∀ op, rest.head? = some (.operator (.binary op)) → op.tier.rank < rank

namespace Stops

theorem mono {n k : Nat} {rest : List Lexeme} (h : Stops n rest) (hnk : n ≤ k) : Stops k rest :=
  fun op hop => Nat.lt_of_lt_of_le (h op hop) hnk

theorem nil (n : Nat) : Stops n [] := by intro op hop; cases hop

/-- No binary operator is as tight as the level of `!`. -/
theorem of_le {n : Nat} (h : 5 ≤ n) (rest : List Lexeme) : Stops n rest :=
  fun op _ => Nat.lt_of_lt_of_le op.tier.rank_lt h

theorem binary {n : Nat} {op : BinaryOp} (h : op.tier.rank < n) (rest : List Lexeme) :
    Stops n (.operator (.binary op) :: rest) := by
  intro op' hop
  cases hop
  exact h

/-- Only the first lexeme matters. -/
theorem of_head {n : Nat} {x : Lexeme} {rest : List Lexeme} (h : Stops n (x :: rest))
    (others : List Lexeme) : Stops n (x :: others) := h

end Stops

namespace Derivation

variable {l : Level} {tier : Tier}

/-- Two derivations of one level with what follows them are the same, but for links that one of
them may have more. -/
def Agree : {l : Level} → Derivation l → List Lexeme → Derivation l → List Lexeme → Prop
  | .tier _, d, rest, d', rest' =>
    (∃ links, d' = d.extend links ∧ rest = links.flatMap Link.yield ++ rest') ∨
      ∃ links, d = d'.extend links ∧ rest' = links.flatMap Link.yield ++ rest
  | _, d, rest, d', rest' => d = d' ∧ rest = rest'

/-- A derivation that stops has no more links. -/
private theorem links_eq_nil {links : List (Link tier)} {rest rest' : List Lexeme}
    (h : rest = links.flatMap Link.yield ++ rest') (hs : Stops tier.rank rest) : links = [] := by
  cases links with
  | nil => rfl
  | cons link links =>
    subst h
    have := hs link.op rfl
    rw [link.tier_eq] at this
    exact absurd this (Nat.lt_irrefl _)

theorem Agree.eq {d d' : Derivation l} {rest rest' : List Lexeme} (h : Agree d rest d' rest')
    (hs : Stops l.rank rest) (hs' : Stops l.rank rest') : d = d' ∧ rest = rest' := by
  cases l with
  | tier tier =>
    rcases h with ⟨links, hd, hr⟩ | ⟨links, hd, hr⟩
    · obtain rfl := links_eq_nil hr hs
      exact ⟨hd.symm, hr⟩
    · obtain rfl := links_eq_nil hr hs'
      exact ⟨hd, hr.symm⟩
  | unary => exact h
  | primary => exact h

end Derivation

end Bulletin
