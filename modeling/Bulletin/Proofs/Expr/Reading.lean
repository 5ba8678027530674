import Bulletin.Proofs.Expr.Derivation
import Bulletin.Template

/-!
# Reading is deriving

The parser computes while it reads, and keeps no tree. This file relates it to the grammar: it
gives a value for a list of tokens exactly when the list is the yield of a derivation whose
nesting fits in the room, and the value is then that of the derivation.

Both directions go through `parserAt`, the parser of one level. A parser that stops leaves tokens
which do not go on with its level, and it takes the yield of any derivation off the front of a
list, up to the loop of its own level.
-/

namespace Bulletin

def lexemes (tokens : List Token) : List Lexeme := tokens.map Token.lexeme

theorem lexemes_nil : lexemes [] = [] := rfl

@[simp] theorem lexemes_cons (token : Token) (rest : List Token) :
    lexemes (token :: rest) = token.lexeme :: lexemes rest := rfl

@[simp] theorem lexemes_append (tokens rest : List Token) :
    lexemes (tokens ++ rest) = lexemes tokens ++ lexemes rest := List.map_append

theorem lexemes_eq_append {tokens : List Token} {first second : List Lexeme}
    (h : lexemes tokens = first ++ second) :
    ∃ taken rest, tokens = taken ++ rest ∧ lexemes taken = first ∧ lexemes rest = second :=
  List.map_eq_append_iff.mp h

theorem lexemes_eq_cons {tokens : List Token} {x : Lexeme} {others : List Lexeme}
    (h : lexemes tokens = x :: others) :
    ∃ token rest, tokens = token :: rest ∧ token.lexeme = x ∧ lexemes rest = others :=
  List.map_eq_cons_iff.mp h

namespace Expr

variable {α : Type} {m : Meaning α} {finish : Nat}

/-- The parser of a level, on top of what stands one level of nesting deeper. -/
def parserAt (m : Meaning α) (finish : Nat) (inner : Inner α) : Level → Parser α
  | .primary => parsePrimary m finish inner
  | .unary => parseUnary m finish inner
  | .tier .product => parseTier m .product <| parseUnary m finish inner
  | .tier .sum => parseTier m .sum <| parseTier m .product <| parseUnary m finish inner
  | .tier .comparison =>
    parseTier m .comparison <| parseTier m .sum <| parseTier m .product <|
      parseUnary m finish inner
  | .tier .conjunction =>
    parseTier m .conjunction <| parseTier m .comparison <| parseTier m .sum <|
      parseTier m .product <| parseUnary m finish inner
  | .tier .disjunction => parseEntry m finish inner .expression

theorem parserAt_tier (inner : Inner α) (tier : Tier) :
    parserAt m finish inner (.tier tier) =
      parseTier m tier (parserAt m finish inner tier.operand) := by
  cases tier <;> rfl

/-- What stands one level of nesting deeper, if there is room for it. -/
def innerWithin (m : Meaning α) (finish : Nat) : Nat → Inner α
  | 0 => none
  | room + 1 => some (parseWithin m finish room)

/-- The parser of a level with room for nesting. -/
def parserWithin (m : Meaning α) (finish room : Nat) : Level → Parser α :=
  parserAt m finish (innerWithin m finish room)

theorem parseWithin_expression (room : Nat) (tokens : List Token) :
    parseWithin m finish room .expression tokens =
      parserWithin m finish room (.tier .disjunction) tokens := by
  cases room <;> rfl

theorem parseWithin_operand (room : Nat) (tokens : List Token) :
    parseWithin m finish room .operand tokens = parserWithin m finish room .unary tokens := by
  cases room <;> rfl

/-! ### The productions, one by one -/

section Productions

variable {room : Nat} {token : Token}

theorem parserWithin_tier (tier : Tier) :
    parserWithin m finish room (.tier tier) =
      parseTier m tier (parserWithin m finish room tier.operand) :=
  parserAt_tier _ tier

/-- Without a `!` in front, the operand stands alone. -/
theorem parserWithin_unary_of_ne (h : token.lexeme ≠ .operator .not) (rest : List Token) :
    parserWithin m finish room .unary (token :: rest) =
      parserWithin m finish room .primary (token :: rest) := by
  simp only [parserWithin, parserAt, parseUnary, h, if_false]

/-- A `!` takes an operand with less room. -/
theorem parserWithin_not (h : token.lexeme = .operator .not) (rest : List Token) :
    parserWithin m finish (room + 1) .unary (token :: rest) =
      (parserWithin m finish room .unary rest).map fun (operand, rest') =>
        (m.not operand, rest') := by
  rw [← parseWithin_operand room rest]
  simp only [parserWithin, parserAt, parseUnary, h, if_true, innerWithin]

theorem parserWithin_not_zero (h : token.lexeme = .operator .not) (rest : List Token) :
    parserWithin m finish 0 .unary (token :: rest) = .error ⟨.tooDeep, token.position⟩ := by
  simp only [parserWithin, parserAt, parseUnary, h, if_true, innerWithin]

theorem parserWithin_literal {l : Literal} (h : token.lexeme = .literal l) (rest : List Token) :
    parserWithin m finish room .primary (token :: rest) = .ok (m.literal l, rest) := by
  simp only [parserWithin, parserAt, parsePrimary, h]

theorem parserWithin_identifier {path : String} (h : token.lexeme = .identifier path)
    (rest : List Token) :
    parserWithin m finish room .primary (token :: rest) = .ok (m.identifier path, rest) := by
  simp only [parserWithin, parserAt, parsePrimary, h]

theorem closeParen_eq_ok {opening : Token} {result : Except SyntaxError (α × List Token)} {a : α}
    {rest : List Token} (h : closeParen finish opening result = .ok (a, rest)) :
    ∃ closing, result = .ok (a, closing :: rest) ∧ closing.lexeme = .rparen := by
  match result with
  | .error e => cases h
  | .ok (_, []) => cases h
  | .ok (body, closing :: rest') =>
    simp only [closeParen] at h
    split at h
    · rename_i hclosing
      cases h
      exact ⟨closing, rfl, hclosing⟩
    · cases h

/-- Parentheses hold an expression with less room. -/
theorem parserWithin_lparen (h : token.lexeme = .lparen) (rest : List Token) :
    parserWithin m finish (room + 1) .primary (token :: rest) =
      closeParen finish token (parserWithin m finish room (.tier .disjunction) rest) := by
  rw [← parseWithin_expression room rest]
  simp only [parserWithin, parserAt, parsePrimary, h, innerWithin]

theorem parserWithin_lparen_zero (h : token.lexeme = .lparen) (rest : List Token) :
    parserWithin m finish 0 .primary (token :: rest) = .error ⟨.tooDeep, token.position⟩ := by
  simp only [parserWithin, parserAt, parsePrimary, h, innerWithin]

/-- An operator or a closing parenthesis stands for nothing on its own. -/
theorem parserWithin_unexpected (h : token.lexeme = .rparen ∨ ∃ op, token.lexeme = .operator op)
    (rest : List Token) :
    parserWithin m finish room .primary (token :: rest) =
      .error ⟨.unexpectedToken token.lexeme, token.position⟩ := by
  rcases h with hx | ⟨op, hx⟩ <;> simp only [parserWithin, parserAt, parsePrimary, hx]

end Productions

/-- What holds of all levels holds by induction on the room, and at one room from the tightest level
to the loosest. -/
theorem roomInduction {P : Nat → Level → Prop}
    (primary : ∀ room, (∀ r, room = r + 1 → ∀ l, P r l) → P room .primary)
    (unary : ∀ room, (∀ r, room = r + 1 → P r .unary) → P room .primary → P room .unary)
    (tier : ∀ room (t : Tier), P room t.operand → P room (.tier t)) (room : Nat) (l : Level) :
    P room l := by
  induction room using Nat.strongRecOn generalizing l with
  | _ room ih =>
    have deeper : ∀ r, room = r + 1 → ∀ l, P r l := by
      rintro r rfl
      exact ih r (Nat.lt_add_one r)
    have alone := primary room deeper
    induction l using Level.tightestFirst with
    | primary => exact alone
    | unary => exact unary room (fun r hr => deeper r hr .unary) alone
    | tier t hop => exact tier room t hop

/-! ### What a parser gives is derived -/

/-- The tokens are a phrase of a level, which stands for `a` and fits in the room, and then
`rest`, which does not go on with the level. -/
def Reads (m : Meaning α) (l : Level) (room : Nat) (tokens : List Token) (a : α)
    (rest : List Token) : Prop :=
  ∃ (d : Derivation l) (taken : List Token), tokens = taken ++ rest ∧
    lexemes taken = d.yield ∧ d.nesting ≤ room ∧ d.value m = a ∧ Stops l.rank (lexemes rest)

namespace Reads

variable {room : Nat} {token : Token} {tokens rest : List Token} {a : α}

theorem literal {l : Literal} (hx : token.lexeme = .literal l) (rest : List Token) :
    Reads m .primary room (token :: rest) (m.literal l) rest :=
  ⟨.literal l, [token], rfl, by simp [Derivation.yield, lexemes_nil, hx], Nat.zero_le _, rfl,
    Stops.of_le (by decide) _⟩

theorem identifier {path : String} (hx : token.lexeme = .identifier path) (rest : List Token) :
    Reads m .primary room (token :: rest) (m.identifier path) rest :=
  ⟨.identifier path, [token], rfl, by simp [Derivation.yield, lexemes_nil, hx], Nat.zero_le _, rfl,
    Stops.of_le (by decide) _⟩

theorem paren {closing : Token} (h : Reads m (.tier .disjunction) room tokens a (closing :: rest))
    (hx : token.lexeme = .lparen) (hclosing : closing.lexeme = .rparen) :
    Reads m .primary (room + 1) (token :: tokens) a rest := by
  obtain ⟨d, taken, rfl, hy, hn, hv, -⟩ := h
  exact ⟨.paren d, token :: taken ++ [closing], by simp,
    by simp [Derivation.yield, lexemes_nil, hy, hx, hclosing], Nat.succ_le_succ hn, hv,
    Stops.of_le (by decide) _⟩

theorem alone (h : Reads m .primary room tokens a rest) : Reads m .unary room tokens a rest := by
  obtain ⟨d, taken, ht, hy, hn, hv, -⟩ := h
  exact ⟨.alone d, taken, ht, hy, hn, hv, Stops.of_le (by decide) _⟩

theorem not (h : Reads m .unary room tokens a rest) (hx : token.lexeme = .operator .not) :
    Reads m .unary (room + 1) (token :: tokens) (m.not a) rest := by
  obtain ⟨d, taken, rfl, hy, hn, hv, -⟩ := h
  exact ⟨.not d, token :: taken, rfl, by simp [Derivation.yield, hy, hx], Nat.succ_le_succ hn,
    congrArg m.not hv, Stops.of_le (by decide) _⟩

end Reads

def Sound (m : Meaning α) (l : Level) (room : Nat) (parse : Parser α) : Prop :=
  ∀ tokens a rest, parse tokens = .ok (a, rest) → Reads m l room tokens a rest

/-- The tokens start with no operator of a tier. -/
theorem stops_of_takeOperator?_eq_none {tier : Tier} {tokens : List Token}
    (hs : Stops (tier.rank + 1) (lexemes tokens)) (h : takeOperator? tier tokens = none) :
    Stops tier.rank (lexemes tokens) := by
  cases tokens with
  | nil => exact Stops.nil _
  | cons token rest =>
    intro op hop
    have hx : token.lexeme = .operator (.binary op) := by simpa using hop
    have hlt := hs op hop
    have hne : op.tier ≠ tier := by
      intro heq
      simp [takeOperator?, hx, heq] at h
    have : op.tier.rank ≠ tier.rank := fun heq => hne (Tier.rank_injective heq)
    omega

theorem takeOperator?_eq_some {tier : Tier} {tokens afterOp : List Token} {op : BinaryOp}
    (h : takeOperator? tier tokens = some (op, afterOp)) :
    ∃ token, tokens = token :: afterOp ∧ token.lexeme = .operator (.binary op) ∧
      op.tier = tier := by
  cases tokens with
  | nil => simp [takeOperator?] at h
  | cons token rest =>
    simp only [takeOperator?] at h
    split at h
    · rename_i op' hx
      split at h
      · rename_i ht
        simp only [Option.some.injEq, Prod.mk.injEq] at h
        obtain ⟨rfl, rfl⟩ := h
        exact ⟨token, rfl, hx, ht⟩
      · cases h
    · cases h

theorem takeOperator?_cons {tier : Tier} {token : Token} {op : BinaryOp}
    (hx : token.lexeme = .operator (.binary op)) (ht : op.tier = tier) (rest : List Token) :
    takeOperator? tier (token :: rest) = some (op, rest) := by
  simp [takeOperator?, hx, ht]

theorem takeOperator?_eq_none {tier : Tier} {tokens : List Token}
    (h : Stops tier.rank (lexemes tokens)) : takeOperator? tier tokens = none := by
  cases ht : takeOperator? tier tokens with
  | none => rfl
  | some found =>
    obtain ⟨op, afterOp⟩ := found
    obtain ⟨token, rfl, hx, htier⟩ := takeOperator?_eq_some ht
    have hlt := h op (by simp [hx])
    rw [htier] at hlt
    exact absurd hlt (Nat.lt_irrefl _)

/-- The loop of a tier goes on from a derivation of the tier to a derivation of the tier. -/
theorem parseMore_reads {tier : Tier} {room : Nat} {operand : Parser α}
    (hop : Sound m tier.operand room operand) {bound : List Token} (taken rest : List Token)
    (hb : rest.length ≤ bound.length) (d : Derivation (.tier tier))
    (hy : lexemes taken = d.yield) (hn : d.nesting ≤ room)
    (hs : Stops (tier.rank + 1) (lexemes rest)) {a : α} {rest' : List Token}
    (h : parseMore m tier operand bound (d.value m) rest = .ok (a, rest')) :
    Reads m (.tier tier) room (taken ++ rest) a rest' := by
  induction bound generalizing taken rest d with
  | nil =>
    simp only [parseMore, Except.ok.injEq, Prod.mk.injEq] at h
    obtain ⟨rfl, rfl⟩ := h
    obtain rfl := List.eq_nil_of_length_eq_zero (Nat.le_zero.mp hb)
    exact ⟨d, taken, rfl, hy, hn, rfl, Stops.nil _⟩
  | cons _ bound ih =>
    simp only [parseMore] at h
    cases htake : takeOperator? tier rest with
    | none =>
      simp only [htake, Except.ok.injEq, Prod.mk.injEq] at h
      obtain ⟨rfl, rfl⟩ := h
      exact ⟨d, taken, rfl, hy, hn, rfl, stops_of_takeOperator?_eq_none hs htake⟩
    | some found =>
      obtain ⟨op, afterOp⟩ := found
      obtain ⟨token, rfl, hx, htier⟩ := takeOperator?_eq_some htake
      simp only [htake] at h
      cases hright : operand afterOp with
      | error e => simp [hright] at h
      | ok result =>
        obtain ⟨right, rest''⟩ := result
        simp only [hright] at h
        obtain ⟨dr, took, rfl, hyr, hnr, rfl, hsr⟩ := hop _ _ _ hright
        have hb' : rest''.length ≤ bound.length := by
          simp only [List.length_cons, List.length_append] at hb
          omega
        have reads := ih (taken ++ token :: took) rest'' hb' (.binary op htier d dr)
          (by simp [Derivation.yield, hy, hyr, hx]) (Nat.max_le.mpr ⟨hn, hnr⟩)
          (by simpa using hsr) h
        simpa using reads

theorem parseTier_sound {tier : Tier} {room : Nat} {operand : Parser α}
    (hop : Sound m tier.operand room operand) :
    Sound m (.tier tier) room (parseTier m tier operand) := by
  intro tokens a rest h
  simp only [parseTier] at h
  cases hleft : operand tokens with
  | error e => simp [hleft] at h
  | ok result =>
    obtain ⟨left, rest'⟩ := result
    simp only [hleft] at h
    obtain ⟨d, taken, rfl, hy, hn, rfl, hs⟩ := hop _ _ _ hleft
    exact parseMore_reads hop taken rest' (Nat.le_refl _) (.single d) hy hn (by simpa using hs) h

/-- The parser of every level is sound. -/
theorem parserWithin_sound (room : Nat) (l : Level) :
    Sound m l room (parserWithin m finish room l) := by
  induction room, l using roomInduction with
  | primary room ih =>
    intro tokens a rest h
    cases tokens with
    | nil => cases h
    | cons token after =>
      cases hx : token.lexeme with
      | literal l =>
        rw [parserWithin_literal hx] at h
        cases h
        exact .literal hx _
      | identifier path =>
        rw [parserWithin_identifier hx] at h
        cases h
        exact .identifier hx _
      | lparen =>
        cases room with
        | zero =>
          rw [parserWithin_lparen_zero hx] at h
          cases h
        | succ r =>
          rw [parserWithin_lparen hx] at h
          obtain ⟨closing, hbody, hclosing⟩ := closeParen_eq_ok h
          exact (ih r rfl _ _ _ _ hbody).paren hx hclosing
      | operator op =>
        rw [parserWithin_unexpected (.inr ⟨op, hx⟩)] at h
        cases h
      | rparen =>
        rw [parserWithin_unexpected (.inl hx)] at h
        cases h
  | unary room ih primary =>
    intro tokens a rest h
    cases tokens with
    | nil => exact (primary [] a rest h).alone
    | cons token after =>
      by_cases hx : token.lexeme = .operator .not
      · cases room with
        | zero =>
          rw [parserWithin_not_zero hx] at h
          cases h
        | succ r =>
          rw [parserWithin_not hx] at h
          cases hoperand : parserWithin m finish r .unary after with
          | error e => simp [hoperand, Except.map] at h
          | ok result =>
            simp only [hoperand, Except.map, Except.ok.injEq, Prod.mk.injEq] at h
            obtain ⟨rfl, rfl⟩ := h
            exact (ih r rfl _ _ _ hoperand).not hx
      · rw [parserWithin_unary_of_ne hx] at h
        exact (primary _ _ _ h).alone
  | tier room t hop =>
    rw [parserWithin_tier]
    exact parseTier_sound hop

/-! ### What is derived is what the parser gives -/

/-- What a parser of a level goes on with after a phrase of the level has been read: a tier's loop,
which is bounded by no fewer tokens than are left. -/
def Resumes (m : Meaning α) (finish room : Nat) (l : Level) (a : α) (rest : List Token)
    (result : Except SyntaxError (α × List Token)) : Prop :=
  match l with
  | .tier tier => ∃ bound : List Token, rest.length ≤ bound.length ∧
      result = parseMore m tier (parserWithin m finish room tier.operand) bound a rest
  | _ => result = .ok (a, rest)

theorem Resumes.eq_ok {room : Nat} {l : Level} {a : α} {rest : List Token}
    {result : Except SyntaxError (α × List Token)} (h : Resumes m finish room l a rest result)
    (hs : Stops l.rank (lexemes rest)) : result = .ok (a, rest) := by
  cases l with
  | tier tier =>
    obtain ⟨bound, -, rfl⟩ := h
    cases bound with
    | nil => rfl
    | cons _ bound =>
      have none := takeOperator?_eq_none hs
      simp only [parseMore, none]
  | unary => exact h
  | primary => exact h

/-- A round of a tier's loop. -/
theorem Resumes.round {room : Nat} {tier : Tier} {a : α} {token : Token} {op : BinaryOp}
    {afterOp : List Token} {result : Except SyntaxError (α × List Token)}
    (h : Resumes m finish room (.tier tier) a (token :: afterOp) result)
    (hx : token.lexeme = .operator (.binary op)) (ht : op.tier = tier) :
    (∀ e, parserWithin m finish room tier.operand afterOp = .error e → result = .error e) ∧
      ∀ right rest, parserWithin m finish room tier.operand afterOp = .ok (right, rest) →
        rest.length ≤ afterOp.length →
          Resumes m finish room (.tier tier) (m.binary op a right) rest result := by
  obtain ⟨bound, hb, rfl⟩ := h
  have take := takeOperator?_cons hx ht afterOp
  cases bound with
  | nil => simp at hb
  | cons _ bound =>
    have hb' : afterOp.length ≤ bound.length := by simpa using hb
    constructor
    · intro e hright
      simp only [parseMore, take, hright]
    · intro right rest hright hle
      exact ⟨bound, Nat.le_trans hle hb', by simp only [parseMore, take, hright]⟩

/-- The parser of a level takes the yield of a derivation off the front of the tokens, whatever
follows that no tighter operator goes on with. -/
theorem parserWithin_append {l : Level} (d : Derivation l) :
    ∀ (room : Nat) (taken rest : List Token), d.nesting ≤ room → lexemes taken = d.yield →
      Stops (l.rank + 1) (lexemes rest) →
      Resumes m finish room l (d.value m) rest (parserWithin m finish room l (taken ++ rest)) := by
  induction d with
  | @single tier only ih =>
    intro room taken rest hn hy hs
    have hs' : Stops tier.operand.rank (lexemes rest) := by rwa [Level.rank_operand]
    have operand := (ih room taken rest hn hy (hs'.mono (Nat.le_succ _))).eq_ok hs'
    refine ⟨rest, Nat.le_refl _, ?_⟩
    simp only [parserWithin_tier, parseTier, operand]
    rfl
  | @binary tier op tier_eq left right ihl ihr =>
    intro room taken rest hn hy hs
    obtain ⟨hnl, hnr⟩ := Nat.max_le.mp hn
    obtain ⟨first, others, rfl, hyl, hy'⟩ := lexemes_eq_append hy
    obtain ⟨token, second, rfl, hx, hyr⟩ := lexemes_eq_cons hy'
    have stops : Stops (tier.rank + 1) (lexemes (token :: (second ++ rest))) := by
      rw [lexemes_cons, hx]
      exact Stops.binary (by rw [tier_eq]; exact Nat.lt_add_one _) _
    have resumes := ihl room first (token :: (second ++ rest)) hnl hyl stops
    have hs' : Stops tier.operand.rank (lexemes rest) := by rwa [Level.rank_operand]
    have operand := (ihr room second rest hnr hyr (hs'.mono (Nat.le_succ _))).eq_ok hs'
    -- the loop that has read `left` takes one more round
    rw [List.append_assoc]
    exact (resumes.round hx tier_eq).2 _ _ operand (by simp)
  | alone primary ih =>
    intro room taken rest hn hy hs
    have primary_ok := (ih room taken rest hn hy (Stops.of_le (by decide) _)).eq_ok
      (Stops.of_le (by decide) _)
    cases taken with
    | nil => cases primary <;> cases hy
    | cons token taken =>
      have hne : token.lexeme ≠ .operator .not := by
        intro hx
        cases primary <;> simp [Derivation.yield, hx] at hy
      exact (parserWithin_unary_of_ne hne _).trans primary_ok
  | not operand ih =>
    intro room taken rest hn hy hs
    obtain ⟨token, after, rfl, hx, hy'⟩ := lexemes_eq_cons hy
    cases room with
    | zero => cases hn
    | succ r =>
      have operand_ok := (ih r after rest (Nat.le_of_succ_le_succ hn) hy'
        (Stops.of_le (by decide) _)).eq_ok (Stops.of_le (by decide) _)
      change parserWithin m finish (r + 1) .unary (token :: after ++ rest) = _
      rw [List.cons_append, parserWithin_not hx, operand_ok]
      rfl
  | literal l =>
    intro room taken rest hn hy hs
    obtain ⟨token, after, rfl, hx, hy'⟩ := lexemes_eq_cons hy
    obtain rfl := List.map_eq_nil_iff.mp hy'
    exact parserWithin_literal hx rest
  | identifier path =>
    intro room taken rest hn hy hs
    obtain ⟨token, after, rfl, hx, hy'⟩ := lexemes_eq_cons hy
    obtain rfl := List.map_eq_nil_iff.mp hy'
    exact parserWithin_identifier hx rest
  | paren body ih =>
    intro room taken rest hn hy hs
    obtain ⟨token, after, rfl, hx, hy'⟩ := lexemes_eq_cons hy
    obtain ⟨inside, last, rfl, hyb, hlast⟩ := lexemes_eq_append hy'
    obtain ⟨closing, after, rfl, hclosing, hnil⟩ := lexemes_eq_cons hlast
    obtain rfl := List.map_eq_nil_iff.mp hnil
    cases room with
    | zero => cases hn
    | succ r =>
      have stops (n : Nat) : Stops n (lexemes (closing :: rest)) := by
        intro op hop
        simp [hclosing] at hop
      have body_ok := (ih r inside (closing :: rest) (Nat.le_of_succ_le_succ hn) hyb
        (stops _)).eq_ok (stops _)
      change parserWithin m finish (r + 1) .primary (token :: (inside ++ [closing]) ++ rest) = _
      rw [List.cons_append, List.append_assoc, List.singleton_append, parserWithin_lparen hx,
        body_ok]
      simp only [closeParen, hclosing, if_true]
      rfl

/-- The parser of a level takes exactly the yield of a derivation, if what follows does not go on
with the level. -/
theorem parserWithin_append_of_stops {l : Level} (d : Derivation l) {room : Nat}
    {taken rest : List Token} (hn : d.nesting ≤ room) (hy : lexemes taken = d.yield)
    (hs : Stops l.rank (lexemes rest)) :
    parserWithin m finish room l (taken ++ rest) = .ok (d.value m, rest) :=
  (parserWithin_append d room taken rest hn hy (hs.mono (Nat.le_succ _))).eq_ok hs

/-! ### Whole lists of tokens -/

/-- A list of tokens is read to exactly what its derivation stands for. -/
theorem readTokens_eq_ok_iff {room : Nat} {tokens : List Token} {a : α} :
    readTokens m finish room tokens = .ok a ↔
      ∃ d : Derivation (.tier .disjunction),
        d.yield = lexemes tokens ∧ d.nesting ≤ room ∧ d.value m = a := by
  simp only [readTokens, parseWithin_expression]
  constructor
  · intro h
    split at h
    · cases h
    · rename_i a' hp
      cases h
      obtain ⟨d, taken, ht, hy, hn, hv, -⟩ := parserWithin_sound room _ _ _ _ hp
      rw [List.append_nil] at ht
      exact ⟨d, by rw [ht, hy], hn, hv⟩
    · cases h
  · rintro ⟨d, hy, hn, rfl⟩
    have all : parserWithin m finish room (.tier .disjunction) (tokens ++ []) =
        .ok (d.value m, []) := parserWithin_append_of_stops d hn hy.symm (Stops.nil _)
    rw [List.append_nil] at all
    rw [all]

/-- A text is read to exactly what the derivation of its tokens stands for. -/
theorem readText_eq_ok_iff {room : Nat} {expression : String} {a : α} :
    readText m room expression = .ok a ↔
      ∃ tokens, Token.ofText expression = .ok tokens ∧
        ∃ d : Derivation (.tier .disjunction),
          d.yield = lexemes tokens ∧ d.nesting ≤ room ∧ d.value m = a := by
  rw [readText]
  cases Token.ofText expression with
  | error stray => simp
  | ok tokens => simp only [readTokens_eq_ok_iff, Except.ok.injEq, exists_eq_left']

end Expr

end Bulletin
