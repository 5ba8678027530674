import Bulletin.Proofs.Expr.Spelling

/-!
# Writing expressions down

Every expression tree can be written down and read back. Its words stand in a line with single
spaces between them, and parentheses only where the tiers and their association to the left ask
for them. The line is scanned to the words, the words have a derivation from the level of the
tree, and the derivation stands for the tree.
-/

namespace Bulletin

inductive Atom where
  | null
  | boolean (b : Bool)
  | number (n : Numeral)
  | string (q : Quoting) (s : String)
  | name (n : PathName)

namespace Atom

def expr : Atom → Expr
  | .null => .literal .null
  | .boolean b => .literal (.boolean b)
  | .number n => .literal (.number n.value)
  | .string _ s => .literal (.string s)
  | .name n => .identifier n.path

def word : Atom → Word
  | .null => .path 'n' ['u', 'l', 'l'] (by decide) (by decide)
  | .boolean true => .path 't' ['r', 'u', 'e'] (by decide) (by decide)
  | .boolean false => .path 'f' ['a', 'l', 's', 'e'] (by decide) (by decide)
  | .number n => n.word
  | .string q s => q.word s
  | .name n => n.word

end Atom

/-- An expression tree with the spelling of its leaves. -/
inductive Phrase where
  | atom (a : Atom)
  | not (operand : Phrase)
  | binary (op : BinaryOp) (left right : Phrase)

namespace Phrase

def expr : Phrase → Expr
  | .atom a => a.expr
  | .not operand => .not operand.expr
  | .binary op left right => .binary op left.expr right.expr

/-- The tightest level that a phrase is a phrase of. -/
def level : Phrase → Level
  | .atom _ => .primary
  | .not _ => .unary
  | .binary op _ _ => .tier op.tier

def isBinary : Phrase → Bool
  | .binary _ _ _ => true
  | _ => false

/-- Words, in parentheses if need be. -/
def enclose (needed : Bool) (words : List Word) : List Word :=
  if needed then .lparen :: words ++ [.rparen] else words

/-- The words of a phrase. A left operand is enclosed if it is looser than its operator, a right
operand also if it is of the same tier, and the operand of a `!` if it is binary. -/
def words : Phrase → List Word
  | .atom a => [a.word]
  | .not operand => .operator .not :: enclose operand.isBinary operand.words
  | .binary op left right =>
    enclose (left.level.rank < op.tier.rank) left.words ++
      .operator (.binary op) :: enclose (right.level.rank ≤ op.tier.rank) right.words

/-- The text of a phrase: its words with single spaces between them. -/
def text (phrase : Phrase) : String := String.ofList (Word.line phrase.words)

/-- The greatest number of parentheses and `!` around a word of a phrase. -/
def nesting : Phrase → Nat
  | .atom _ => 0
  | .not operand => operand.nesting + operand.isBinary.toNat + 1
  | .binary op left right =>
    max (left.nesting + (decide (left.level.rank < op.tier.rank)).toNat)
      (right.nesting + (decide (right.level.rank ≤ op.tier.rank)).toNat)

end Phrase

/-- What a derivation stands for is what its tree stands for. -/
theorem Derivation.value_eq_fold {α : Type} (m : Meaning α) {l : Level} (d : Derivation l) :
    d.value m = (d.value Expr.tree).fold m := by
  induction d with
  | single only ih => exact ih
  | binary op tier_eq left right ihl ihr => simp only [value, ihl, ihr]; rfl
  | alone primary ih => exact ih
  | not operand ih => simp only [value, ih]; rfl
  | literal l => rfl
  | identifier path => rfl
  | paren body ih => exact ih

/-- Words have a derivation from a level, which has a nesting and stands for a tree. -/
def Derives (l : Level) (words : List Word) (nesting : Nat) (x : Expr) : Prop :=
  ∃ d : Derivation l, d.yield = words.map Word.lexeme ∧ d.nesting = nesting ∧
    d.value Expr.tree = x

namespace Derives

variable {l : Level} {words : List Word} {n : Nat} {x : Expr}

/-- A phrase of a level is a phrase of every looser level. -/
theorem loosen (h : Derives l words n x) (l' : Level) (hrank : l'.rank ≤ l.rank) :
    Derives l' words n x := by
  obtain ⟨d, hy, hn, hv⟩ := h
  obtain ⟨d', hy', hn', hv'⟩ := d.exists_loosen l' hrank
  exact ⟨d', hy'.trans hy, hn'.trans hn, (hv' Expr.tree).trans hv⟩

/-- In parentheses, a phrase of any level is a primary one. -/
theorem paren (h : Derives l words n x) :
    Derives .primary (.lparen :: words ++ [.rparen]) (n + 1) x := by
  obtain ⟨d, hy, hn, hv⟩ := h.loosen (.tier .disjunction) (Nat.zero_le _)
  exact ⟨.paren d, by simp [Derivation.yield, hy, Word.lparen, Word.rparen],
    congrArg (· + 1) hn, hv⟩

/-- A phrase that is enclosed where it is looser than a level is a phrase of the level. -/
theorem enclose (h : Derives l words n x) {l' : Level} {needed : Bool}
    (hneeded : needed = decide (l.rank < l'.rank)) :
    Derives l' (Phrase.enclose needed words) (n + needed.toNat) x := by
  by_cases hlt : l.rank < l'.rank
  · have hprimary : l'.rank ≤ Level.primary.rank := by
      cases l' with
      | primary => exact Nat.le_refl _
      | unary => decide
      | tier t => exact Nat.le_trans (Nat.le_of_lt t.rank_lt) (by decide)
    simp only [hlt, decide_true] at hneeded
    rw [hneeded]
    exact h.paren.loosen l' hprimary
  · simp only [hlt, decide_false] at hneeded
    rw [hneeded]
    exact h.loosen l' (Nat.le_of_not_lt hlt)

end Derives

theorem Atom.derives (a : Atom) : Derives .primary [a.word] 0 a.expr := by
  match a with
  | .null => exact ⟨.literal .null, rfl, rfl, rfl⟩
  | .boolean true => exact ⟨.literal (.boolean true), rfl, rfl, rfl⟩
  | .boolean false => exact ⟨.literal (.boolean false), rfl, rfl, rfl⟩
  | .number n => exact ⟨.literal (.number n.value), rfl, rfl, rfl⟩
  | .string q s => exact ⟨.literal (.string s), rfl, rfl, rfl⟩
  | .name n => exact ⟨.identifier n.path, by simp [Derivation.yield, word, n.lexeme_word], rfl, rfl⟩

namespace Phrase

theorem isBinary_eq (phrase : Phrase) :
    phrase.isBinary = decide (phrase.level.rank < Level.unary.rank) := by
  cases phrase with
  | atom a => rfl
  | not operand => rfl
  | binary op left right => exact (decide_eq_true op.tier.rank_lt).symm

/-- The words of a phrase have a derivation from its level, which stands for its tree. -/
theorem derives (phrase : Phrase) :
    Derives phrase.level phrase.words phrase.nesting phrase.expr := by
  induction phrase with
  | atom a => exact a.derives
  | not operand ih =>
    obtain ⟨d, hy, hn, hv⟩ := ih.enclose operand.isBinary_eq
    exact ⟨.not d, by simp [Derivation.yield, hy, words, Word.operator],
      congrArg (· + 1) hn, congrArg Expr.not hv⟩
  | binary op left right ihl ihr =>
    have hleft : decide (left.level.rank < op.tier.rank) =
        decide (left.level.rank < (Level.tier op.tier).rank) := rfl
    have hright : decide (right.level.rank ≤ op.tier.rank) =
        decide (right.level.rank < op.tier.operand.rank) := by
      rw [Level.rank_operand]
      exact decide_eq_decide.mpr Nat.lt_succ_iff.symm
    obtain ⟨dl, hyl, hnl, hvl⟩ := ihl.enclose hleft
    obtain ⟨dr, hyr, hnr, hvr⟩ := ihr.enclose hright
    refine ⟨.binary op rfl dl dr, ?_, ?_, ?_⟩
    · simp [Derivation.yield, hyl, hyr, words, Word.operator]
    · simp only [Derivation.nesting, hnl, hnr, nesting]
    · simp only [Derivation.value, hvl, hvr]
      rfl

end Phrase

/-- An atom alone is evaluated without any room for nesting. -/
theorem Evaluator.eval_atom (e : Evaluator) (a : Atom) :
    e.eval (String.ofList a.word.text) = .ok (a.expr.eval (e.context.resolve e.environ)) := by
  obtain ⟨d, hyield, hnesting, hvalue⟩ :=
    a.derives.loosen (.tier .disjunction) (Nat.zero_le _)
  obtain ⟨tokens, hscan, hlexemes⟩ := Word.scanFrom_line [a.word] 0
  have tokenized : Token.ofText (String.ofList a.word.text) = .ok tokens := by
    rw [Token.ofText, String.toList_ofList, ← hscan]
    simp [Word.line]
  rw [Evaluator.eval, Expr.readText_eq_ok_iff]
  exact ⟨tokens, tokenized, d, by rw [hyield, hlexemes], by rw [hnesting]; exact Nat.zero_le _,
    by rw [d.value_eq_fold, hvalue]; rfl⟩

/-- Every expression tree is written down as a text that evaluates to its value, with paths looked
up in the context, if the limit allows for the parentheses and `!` of the text. -/
theorem Evaluator.eval_text (context : Context) (environ : Environ) (maxDepth : Int)
    (phrase : Phrase) (h : phrase.nesting ≤ maxDepth) :
    (⟨context, environ, maxDepth⟩ : Evaluator).eval phrase.text =
      .ok (phrase.expr.eval (context.resolve environ)) := by
  obtain ⟨d, hy, hn, hv⟩ := phrase.derives.loosen (.tier .disjunction) (Nat.zero_le _)
  obtain ⟨tokens, hscan, hlexemes⟩ := Word.scanFrom_line phrase.words 0
  have tokenized : Token.ofText phrase.text = .ok tokens := by
    rw [Token.ofText, Phrase.text, String.toList_ofList, hscan]
  have hroom : d.nesting ≤ maxDepth.toNat := by omega
  simp only [Evaluator.eval, Expr.readText, tokenized]
  rw [Expr.readTokens_eq_ok_iff]
  exact ⟨d, by rw [hy, hlexemes], hroom, by rw [d.value_eq_fold, hv]; rfl⟩

/-- Of two differences the right one is enclosed, and so is what a `!` stands before. -/
theorem Evaluator.eval_text_not_sub :
    ∃ phrase : Phrase, phrase.text = "! ( a.b - ( \"\\\"\" - 1.5 ) )" ∧ phrase.nesting = 3 ∧
      (⟨.empty, [], 3⟩ : Evaluator).eval phrase.text = .ok (.bool true) := by
  refine ⟨.not (.binary .sub (.atom (.name ⟨'a', ['.', 'b'], by decide, by decide, by decide⟩))
    (.binary .sub (.atom (.string ⟨'"', .inr rfl, fun _ => true, rfl, rfl⟩ "\""))
      (.atom (.number ⟨['1'], some ['5'], by decide, by decide, by decide⟩)))),
    by decide, by decide, ?_⟩
  rw [eval_text .empty [] 3 _ (by decide)]
  rfl

end Bulletin
