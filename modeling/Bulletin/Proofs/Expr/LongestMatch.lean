import Bulletin.Proofs.Expr.LexicalRules

/-!
# Longest matches

The scanner finds the longest match of the rule that applies. No two rules apply to one text, since
the first character decides between them, and a rule has one longest match. Whether a rule applies
to a text can be told from its first two characters, and whether a match is the longest one from the
character after it.
-/

namespace Bulletin

namespace Rule

/-- The only rule that a match with this first character can be of. -/
def ofFirst (c : Char) : Option Rule :=
  if c = '(' ∨ c = ')' then some .paren
  else if c = '\'' ∨ c = '"' then some .string
  else if c ∈ marks then some .operator
  else if c.isDigit ∨ c = '.' then some .number
  else if isPathStart c then some .path
  else none

theorem ofFirst_of_not_mem_marks {c : Char} (h : c ∉ marks) :
    ofFirst c =
      if c.isDigit ∨ c = '.' then some .number else if isPathStart c then some .path else none := by
  have hne (x : Char) (hx : x ∈ marks) : c ≠ x := by
    rintro rfl
    exact h hx
  have paren : ¬ (c = '(' ∨ c = ')') := not_or.mpr ⟨hne _ (by decide), hne _ (by decide)⟩
  have quote : ¬ (c = '\'' ∨ c = '"') := not_or.mpr ⟨hne _ (by decide), hne _ (by decide)⟩
  rw [ofFirst, if_neg paren, if_neg quote, if_neg h]

variable {rule : Rule} {text rest : List Char} {x : Lexeme}

theorem matches_path_iff :
    Matches .path text rest x ↔ ∃ c others, text = c :: others ∧ isPathStart c ∧
      (∀ c ∈ others, isPathPart c) ∧ x = pathLexeme (String.ofList text) := by
  constructor
  · intro h
    cases h with
    | keyword isKeyword =>
      have hword := isKeyword
      simp only [keywords, List.mem_cons, Prod.mk.injEq, List.not_mem_nil, or_false] at hword
      rcases hword with ⟨rfl, rfl⟩ | ⟨rfl, rfl⟩ | ⟨rfl, rfl⟩ <;>
        exact ⟨_, _, rfl, by decide, List.all_eq_true.mp (by decide), rfl⟩
    | identifier start parts not_keyword =>
      refine ⟨_, _, rfl, start, parts, ?_⟩
      simp only [keywords, List.map_cons, List.map_nil, List.mem_cons, List.not_mem_nil, or_false,
        not_or] at not_keyword
      obtain ⟨htrue, hfalse, hnull⟩ := not_keyword
      simp only [pathLexeme, htrue, hfalse, hnull, if_false]
  · rintro ⟨c, others, rfl, start, parts, rfl⟩
    have keyword (word : String) (l : Literal) (hword : (word, l) ∈ keywords)
        (heq : String.ofList (c :: others) = word) :
        Matches .path (c :: others) rest (.literal l) := by
      have := Matches.keyword hword rest
      rwa [← heq, String.toList_ofList] at this
    rw [pathLexeme]
    split
    · exact keyword "true" _ (by decide) ‹_›
    · split
      · exact keyword "false" _ (by decide) ‹_›
      · split
        · exact keyword "null" _ (by decide) ‹_›
        · refine .identifier start parts ?_ rest
          simp only [keywords, List.map_cons, List.map_nil, List.mem_cons, List.not_mem_nil,
            or_false, not_or]
          exact ⟨‹_›, ‹_›, ‹_›⟩

theorem Matches.isNumberText (h : Matches .number text rest x) : IsNumberText text := by
  cases h with
  | number isNumber => exact isNumber

/-- A match has a first character, which tells its rule. -/
theorem Matches.exists_eq_cons (h : rule.Matches text rest x) :
    ∃ c others, text = c :: others ∧ ofFirst c = some rule := by
  cases rule with
  | operator =>
    obtain ⟨op, _⟩ := h
    rcases op with _ | op
    · exact ⟨_, _, rfl, rfl⟩
    · cases op <;> exact ⟨_, _, rfl, rfl⟩
  | paren => cases h <;> exact ⟨_, _, rfl, rfl⟩
  | string =>
    cases h with
    | closed isQuote => rcases isQuote with rfl | rfl <;> exact ⟨_, _, rfl, rfl⟩
    | unclosed isQuote => rcases isQuote with rfl | rfl <;> exact ⟨_, _, rfl, rfl⟩
  | number =>
    obtain ⟨c, others, hc, rfl | rfl⟩ := h.isNumberText.starts
    · exact ⟨_, _, rfl, by
        rw [ofFirst_of_not_mem_marks (not_mem_marks rfl hc), if_pos (.inl hc)]⟩
    · exact ⟨_, _, rfl, rfl⟩
  | path =>
    obtain ⟨c, others, rfl, start, -⟩ := matches_path_iff.mp h
    have number := startsNumber_of_isPathStart start []
    refine ⟨_, _, rfl, ?_⟩
    rw [ofFirst_of_not_mem_marks (not_mem_marks rfl start), if_neg, if_pos start]
    rintro (hc | rfl)
    · simp [startsNumber, hc] at number
    · cases start

theorem Matches.ne_nil (h : rule.Matches text rest x) : text ≠ [] := by
  obtain ⟨c, others, rfl, -⟩ := h.exists_eq_cons
  exact List.cons_ne_nil c others

/-- Only strings look at what follows. -/
theorem Matches.of_ne_string (hrule : rule ≠ .string) (h : rule.Matches text rest x)
    (rest' : List Char) : rule.Matches text rest' x := by
  cases h with
  | operator => exact .operator _ _
  | lparen => exact .lparen _
  | rparen => exact .rparen _
  | closed => exact absurd rfl hrule
  | unclosed => exact absurd rfl hrule
  | number isNumber => exact .number isNumber _
  | keyword isKeyword => exact .keyword isKeyword _
  | identifier start parts not_keyword => exact .identifier start parts not_keyword _

/-- A rule matches a text as one lexeme. -/
theorem Matches.lexeme_unique {x' : Lexeme} (h : rule.Matches text rest x)
    (h' : rule.Matches text rest x') : x = x' := by
  cases rule with
  | operator =>
    generalize htext : text = symbol at h
    obtain ⟨op, _⟩ := h
    obtain ⟨op', _⟩ := h'
    have injective : ∀ op ∈ Operator.longestFirst, ∀ op' ∈ Operator.longestFirst,
        op'.symbol.toList = op.symbol.toList → op = op' := by decide
    rw [injective op op.mem_longestFirst op' op'.mem_longestFirst htext]
  | paren => cases h <;> cases h' <;> rfl
  | string => exact (h.string_unique h' rfl).2
  | number =>
    cases h
    cases h'
    rfl
  | path =>
    obtain ⟨-, -, -, -, -, rfl⟩ := matches_path_iff.mp h
    obtain ⟨-, -, -, -, -, rfl⟩ := matches_path_iff.mp h'
    rfl

theorem Matches.isNaN_eq_false {number : Double}
    (h : rule.Matches text rest (.literal (.number number))) : number.isNaN = false := by
  cases h with
  | number isNumber => exact isNumber.isNaN_toNumber
  | keyword isKeyword => simp [keywords] at isKeyword

/-- At one place there is one longest match, of one rule. -/
theorem Longest.unique {rule' : Rule} {text' rest' : List Char} {x' : Lexeme}
    (h : rule.Longest text rest x) (h' : rule'.Longest text' rest' x')
    (same : text ++ rest = text' ++ rest') : rule = rule' ∧ text = text' ∧ x = x' := by
  obtain ⟨c, others, htext, hrule⟩ := h.1.exists_eq_cons
  obtain ⟨c', others', htext', hrule'⟩ := h'.1.exists_eq_cons
  have hfirst : c = c' := by
    rw [htext, htext'] at same
    exact (List.cons.inj same).1
  obtain rfl : rule = rule' := by
    rw [← hfirst, hrule] at hrule'
    exact Option.some.inj hrule'
  have no_more {s s' r r' : List Char} {y y' : Lexeme} (hs : rule.Longest s r y)
      (hs' : rule.Longest s' r' y') (more : List Char) (hmore : s' = s ++ more)
      (hrest : r = more ++ r') : more = [] :=
    Classical.byContradiction fun hne => hs.2 more r' y' hrest hne (hmore ▸ hs'.1)
  have same_text : text = text' ∧ rest = rest' := by
    rcases List.append_eq_append_iff.mp same with ⟨more, hmore, hrest⟩ | ⟨more, hmore, hrest⟩
    · obtain rfl := no_more h h' more hmore hrest
      exact ⟨by simpa using hmore.symm, hrest⟩
    · obtain rfl := no_more h' h more hmore hrest
      exact ⟨by simpa using hmore, hrest.symm⟩
  obtain ⟨rfl, rfl⟩ := same_text
  exact ⟨rfl, rfl, h.1.lexeme_unique h'.1⟩

/-! ### What the scanner finds -/

theorem longest_operator {op : Operator} (h : Operator.scan? text = some op) :
    ∃ rest, text = op.symbol.toList ++ rest ∧
      Longest .operator op.symbol.toList rest (.operator op) := by
  obtain ⟨starting, shorter, longer, hlist, none_before⟩ := List.find?_eq_some_iff_append.mp h
  obtain ⟨rest, rfl⟩ := List.isPrefixOf_iff_prefix.mp starting
  refine ⟨rest, rfl, .operator op rest, ?_⟩
  rintro more rest' y rfl hne hmatch
  generalize hsymbol : op.symbol.toList ++ more = symbol at hmatch
  obtain ⟨op', _⟩ := hmatch
  -- A longer symbol comes earlier in the list, where no operator matches.
  have decreasing : Operator.longestFirst.Pairwise
      fun a b => b.symbol.toList.length ≤ a.symbol.toList.length := by decide
  have not_before : op' ∉ shorter := by
    intro hmem
    have := none_before op' hmem
    rw [← List.append_assoc, hsymbol,
      List.isPrefixOf_iff_prefix.mpr (List.prefix_append ..)] at this
    cases this
  have later : op' ∈ op :: longer := by
    have := op'.mem_longestFirst
    rw [hlist, List.mem_append] at this
    exact this.resolve_left not_before
  rw [hlist] at decreasing
  have hlength : op'.symbol.toList.length ≤ op.symbol.toList.length := by
    rcases List.mem_cons.mp later with rfl | later
    · exact Nat.le_refl _
    · exact (List.pairwise_cons.mp (List.pairwise_append.mp decreasing).2.1).1 op' later
  rw [← hsymbol, List.length_append] at hlength
  exact hne (List.length_eq_zero_iff.mp (by omega))

theorem longest_paren {c : Char} (h : Matches .paren [c] rest x) : Longest .paren [c] rest x := by
  refine ⟨h, fun more rest' y _ hne longer => hne ?_⟩
  generalize htext : [c] ++ more = text at longer
  cases longer <;> exact (List.cons.inj htext).2

theorem longest_number (h : startsNumber text) :
    ∃ first rest, text = first ++ rest ∧ first.length = numberWidth false text ∧
      Longest .number first rest (.literal (.number (numberValue first))) := by
  obtain ⟨first, rest, rfl, hwidth, parts, points, stop⟩ := numberWidth_spec false text
  have isNumber : IsNumberText first := by
    refine ⟨parts, points, startsNumber_iff.mp ?_⟩
    obtain ⟨c, others, hc, heq⟩ := startsNumber_iff.mp h
    match first with
    | [] =>
      rcases heq with heq | heq
      · exact absurd (.inl hc) (stop _ _ heq).1
      · have := (stop _ _ heq).2 rfl
        simp at this
    | [d] =>
      rcases heq with heq | heq
      · rw [(List.cons.inj heq).1]
        simp [startsNumber, hc]
      · exact absurd (.inl hc) (stop _ _ (List.cons.inj heq).2).1
    | d :: e :: first =>
      rcases heq with heq | heq
      · rw [(List.cons.inj heq).1]
        simp [startsNumber, hc]
      · rw [(List.cons.inj heq).1, (List.cons.inj (List.cons.inj heq).2).1]
        simp [startsNumber, hc]
  refine ⟨first, rest, rfl, hwidth.symm, ?_, ?_⟩
  · rw [isNumber.numberValue_eq]
    exact .number isNumber rest
  · rintro more rest' y rfl hne hmatch
    have longer := hmatch.isNumberText
    obtain ⟨c, others, rfl⟩ := List.exists_cons_of_ne_nil hne
    obtain ⟨not_part, point⟩ := stop c (others ++ rest') rfl
    rcases longer.parts c (by simp) with hc | rfl | rfl
    · exact not_part (.inl hc)
    · exact not_part (.inr rfl)
    · have hfirst : 0 < first.count '.' := List.count_pos_iff.mpr (by simpa using point rfl)
      have hpoints := longer.points
      rw [List.count_append, List.count_cons_self] at hpoints
      omega

theorem longest_path {c : Char} (start : isPathStart c) (text : List Char) :
    Longest .path (c :: text.takeWhile isPathPart) (text.dropWhile isPathPart)
      (pathLexeme (String.ofList (c :: text.takeWhile isPathPart))) := by
  refine ⟨matches_path_iff.mpr ⟨c, _, rfl, start, ?_, rfl⟩, ?_⟩
  · exact List.all_eq_true.mp List.all_takeWhile
  · intro more rest' y hrest hne longer
    obtain ⟨d, others, rfl⟩ := List.exists_cons_of_ne_nil hne
    obtain ⟨_, _, heq, -, parts, -⟩ := matches_path_iff.mp longer
    have hd : isPathPart d := parts d (by simp [← (List.cons.inj heq).2])
    have stops := List.head?_dropWhile_not isPathPart text
    rw [hrest] at stops
    simp [hd] at stops

end Rule

open Rule

namespace Lexeme

/-- What the scanner finds at a character, by the reason for it. -/
inductive Scanned (c : Char) (text : List Char) : Option (Lexeme × Nat) → Prop where
  | operator {op : Operator} (found : Operator.scan? (c :: text) = some op) :
      Scanned c text (some (.operator op, op.symbol.length))
  | lparen (mark : c = '(') : Scanned c text (some (.lparen, 1))
  | rparen (mark : c = ')') : Scanned c text (some (.rparen, 1))
  | string (quote : c = '\'' ∨ c = '"') :
      Scanned c text (some (.literal (.string (String.ofList (quotedBody c text).1)),
        (quotedBody c text).2 + 1))
  | number (starts : startsNumber (c :: text)) :
      Scanned c text (some
        (.literal (.number (numberValue ((c :: text).take (numberWidth false (c :: text))))),
          numberWidth false (c :: text)))
  | path (start : isPathStart c) :
      Scanned c text (some (pathLexeme (String.ofList (c :: text.takeWhile isPathPart)),
        (c :: text.takeWhile isPathPart).length))
  | nothing (no_operator : Operator.scan? (c :: text) = none) (not_lparen : c ≠ '(')
      (not_rparen : c ≠ ')') (not_quote : ¬ (c = '\'' ∨ c = '"'))
      (no_number : startsNumber (c :: text) = false) (no_path : isPathStart c = false) :
      Scanned c text none

theorem scanned (c : Char) (text : List Char) : Scanned c text (scan? (c :: text)) := by
  simp only [scan?]
  split
  · exact .operator ‹_›
  split
  · exact .lparen ‹_›
  split
  · exact .rparen ‹_›
  split
  · next quote => exact .string (by simpa using quote)
  split
  · exact .number ‹_›
  split
  · exact .path ‹_›
  next no_operator not_lparen not_rparen not_quote no_number no_path =>
    exact .nothing no_operator not_lparen not_rparen (by simpa using not_quote)
      (Bool.eq_false_iff.mpr no_number) (Bool.eq_false_iff.mpr no_path)

/-- What the scanner finds is the longest match of a rule. -/
theorem longest_of_scan? {text : List Char} {x : Lexeme} {width : Nat}
    (h : scan? text = some (x, width)) :
    ∃ rule first rest, text = first ++ rest ∧ first.length = width ∧
      Rule.Longest rule first rest x := by
  match text with
  | c :: text =>
    have reason := scanned c text
    rw [h] at reason
    cases reason with
    | operator found =>
      obtain ⟨rest, heq, longest⟩ := longest_operator found
      exact ⟨_, _, rest, heq, rfl, longest⟩
    | lparen mark => exact ⟨_, [c], text, rfl, rfl, mark ▸ longest_paren (.lparen _)⟩
    | rparen mark => exact ⟨_, [c], text, rfl, rfl, mark ▸ longest_paren (.rparen _)⟩
    | string quote =>
      obtain ⟨first, rest, heq, hlength, longest⟩ := longest_string quote text
      exact ⟨_, first, rest, heq, hlength, longest⟩
    | number starts =>
      obtain ⟨first, rest, heq, hlength, longest⟩ := longest_number starts
      refine ⟨.number, first, rest, heq, hlength, ?_⟩
      rwa [← hlength, heq, List.take_left]
    | path start => exact ⟨_, _, _, by simp, rfl, longest_path start text⟩

end Lexeme

theorem startsNumber_append {text : List Char} (h : startsNumber text) (rest : List Char) :
    startsNumber (text ++ rest) := by
  obtain ⟨c, others, hc, rfl | rfl⟩ := startsNumber_iff.mp h
  · exact startsNumber_iff.mpr ⟨c, others ++ rest, hc, .inl rfl⟩
  · exact startsNumber_iff.mpr ⟨c, others ++ rest, hc, .inr rfl⟩

/-- When a rule applies, the scanner finds something. -/
theorem Lexeme.scan?_ne_none {rule : Rule} {text : List Char} (h : rule.Applies text) :
    scan? text ≠ none := by
  obtain ⟨first, rest, x, rfl, hmatch⟩ := h
  obtain ⟨c, others, hfirst, -⟩ := hmatch.exists_eq_cons
  intro none
  have reason := scanned c (others ++ rest)
  rw [← List.cons_append, ← hfirst, none] at reason
  cases reason with
  | nothing no_operator not_lparen not_rparen not_quote no_number no_path =>
    rw [← List.cons_append, ← hfirst] at no_operator no_number
    cases rule with
    | operator =>
      obtain ⟨op, rest⟩ := hmatch
      exact List.find?_eq_none.mp no_operator op op.mem_longestFirst
        (List.isPrefixOf_iff_prefix.mpr (List.prefix_append ..))
    | paren =>
      cases hmatch with
      | lparen => exact not_lparen (List.cons.inj hfirst).1.symm
      | rparen => exact not_rparen (List.cons.inj hfirst).1.symm
    | string =>
      cases hmatch with
      | closed isQuote => exact not_quote ((List.cons.inj hfirst).1 ▸ isQuote)
      | unclosed isQuote => exact not_quote ((List.cons.inj hfirst).1 ▸ isQuote)
    | number =>
      rw [startsNumber_append (startsNumber_iff.mpr hmatch.isNumberText.starts)] at no_number
      cases no_number
    | path =>
      obtain ⟨d, others', heq, start, -⟩ := matches_path_iff.mp hmatch
      rw [← (List.cons.inj (heq.symm.trans hfirst)).1, start] at no_path
      cases no_path

theorem Rule.Longest.applies {rule : Rule} {first rest : List Char} {x : Lexeme}
    (h : rule.Longest first rest x) : rule.Applies (first ++ rest) :=
  ⟨first, rest, x, rfl, h.1⟩

theorem Lexeme.scan?_eq_some_iff {text : List Char} {x : Lexeme} {width : Nat} :
    scan? text = some (x, width) ↔
      ∃ rule first rest, text = first ++ rest ∧ first.length = width ∧
        Rule.Longest rule first rest x := by
  refine ⟨longest_of_scan?, ?_⟩
  rintro ⟨rule, first, rest, rfl, rfl, longest⟩
  obtain ⟨⟨x', width'⟩, found⟩ := Option.ne_none_iff_exists'.mp (scan?_ne_none longest.applies)
  obtain ⟨rule', first', rest', same, rfl, longest'⟩ := longest_of_scan? found
  obtain ⟨-, rfl, rfl⟩ := longest.unique longest' same
  exact found

theorem Lexeme.scan?_eq_none_iff {text : List Char} :
    scan? text = none ↔ ∀ rule : Rule, ¬ rule.Applies text := by
  refine ⟨fun h rule applies => scan?_ne_none applies h, fun h => ?_⟩
  cases found : scan? text with
  | none => rfl
  | some found' =>
    obtain ⟨rule, first, rest, rfl, -, longest⟩ := longest_of_scan? found
    exact absurd longest.applies (h rule)

namespace Rule

/-! ### How far a rule looks -/

variable {rule : Rule} {text rest : List Char} {x : Lexeme}

/-- A start of a match is a match as well, if it is not a single character. -/
theorem Matches.of_append {more : List Char} (hrule : rule ≠ .string)
    (h : rule.Matches (text ++ more) rest x) (two : 2 ≤ text.length) (rest' : List Char) :
    ∃ y, rule.Matches text rest' y := by
  cases rule with
  | operator =>
    generalize hsymbol : text ++ more = symbol at h
    obtain ⟨op, rest⟩ := h
    -- The symbols of three characters start with those of two.
    have shorter : ∀ op ∈ Operator.longestFirst, ∀ n ∈ [2, 3],
        ∃ op' ∈ Operator.longestFirst, op'.symbol.toList = op.symbol.toList.take n := by decide
    have hlength : text.length ∈ [2, 3] := by
      have short : ∀ op ∈ Operator.longestFirst, op.symbol.toList.length ≤ 3 := by decide
      have := short op op.mem_longestFirst
      rw [← hsymbol, List.length_append] at this
      simp only [List.mem_cons, List.not_mem_nil, or_false]
      omega
    obtain ⟨op', -, hop'⟩ := shorter op op.mem_longestFirst text.length hlength
    rw [← hsymbol, List.take_left] at hop'
    exact ⟨.operator op', hop' ▸ .operator op' rest'⟩
  | paren =>
    have hlength : (text ++ more).length = 1 := by
      generalize text ++ more = mark at h
      cases h <;> rfl
    rw [List.length_append] at hlength
    omega
  | string => exact absurd rfl hrule
  | number =>
    have isNumber := h.isNumberText
    refine ⟨_, .number (isNumber.of_append (startsNumber_iff.mpr ?_)) rest'⟩
    match text, two with
    | c :: d :: text, _ =>
      obtain ⟨first, others, hfirst, heq⟩ := isNumber.starts
      rcases heq with heq | heq
      · exact ⟨c, _, (List.cons.inj heq).1 ▸ hfirst, .inl rfl⟩
      · obtain ⟨rfl, later⟩ := List.cons.inj heq
        exact ⟨d, text, (List.cons.inj later).1 ▸ hfirst, .inr rfl⟩
  | path =>
    obtain ⟨c, others, heq, start, parts, -⟩ := matches_path_iff.mp h
    match text, two with
    | d :: text, _ =>
      obtain ⟨rfl, rfl⟩ := List.cons.inj heq
      refine ⟨_, matches_path_iff.mpr ⟨d, text, rfl, start, ?_, rfl⟩⟩
      exact fun c hc => parts c (List.mem_append_left _ hc)

theorem applies_string {quote : Char} (isQuote : quote = '\'' ∨ quote = '"') (text : List Char) :
    Applies .string (quote :: text) := by
  obtain ⟨first, rest, heq, -, longest⟩ := longest_string isQuote text
  exact heq ▸ longest.applies

/-- Two characters tell whether a rule applies. -/
theorem Applies.of_take_two {text' : List Char} (h : rule.Applies text)
    (same : text.take 2 <+: text') : rule.Applies text' := by
  obtain ⟨first, rest, x, rfl, hmatch⟩ := h
  by_cases hrule : rule = .string
  · subst hrule
    obtain ⟨quote, written, body, closing, isQuote, -, -, heq, -⟩ := hmatch.string_inv
    rw [heq, List.take_succ_cons] at same
    obtain ⟨others, rfl⟩ := same
    exact applies_string isQuote _
  · have short : ∃ y, rule.Matches (first.take 2) [] y := by
      by_cases hlength : first.length ≤ 1
      · rw [List.take_of_length_le (by omega)]
        exact ⟨x, hmatch.of_ne_string hrule []⟩
      · rw [← List.take_append_drop 2 first] at hmatch
        exact hmatch.of_append hrule (by rw [List.length_take]; omega) []
    obtain ⟨y, hy⟩ := short
    have starting : first.take 2 <+: text' := by
      refine List.IsPrefix.trans ?_ same
      rw [List.take_append]
      exact List.prefix_append ..
    obtain ⟨rest', rfl⟩ := starting
    exact ⟨_, rest', y, rfl, hy.of_ne_string hrule rest'⟩

/-- One character after a match tells whether it is the longest. -/
theorem Longest.of_take_one {rest' : List Char} (h : rule.Longest text rest x)
    (same : rest'.take 1 <+: rest) : rule.Longest text rest' x := by
  by_cases hrule : rule = .string
  · subst hrule
    refine Matches.longest_string ?_
    cases h.1 with
    | closed isQuote body => exact .closed isQuote body rest'
    | unclosed isQuote body stray_eq =>
      obtain rfl : rest' = [] := by simpa using List.prefix_nil.mp same
      exact .unclosed isQuote body stray_eq
  · refine ⟨h.1.of_ne_string hrule rest', ?_⟩
    rintro (_ | ⟨c, more⟩) rest'' y rfl hne longer
    · exact hne rfl
    · obtain ⟨rest, rfl⟩ := same
      have two : 2 ≤ (text ++ [c]).length := by
        have := List.length_pos_iff.mpr h.1.ne_nil
        rw [List.length_append, List.length_singleton]
        omega
      rw [List.append_cons] at longer
      obtain ⟨y', longer'⟩ := longer.of_append hrule two rest
      exact h.2 [c] rest y' (by simp) (by simp) longer'

/-- Only strings have blanks in them. -/
theorem Matches.not_blank (hrule : rule ≠ .string) (h : rule.Matches text rest x) :
    ∀ c ∈ text, isBlank c = false := by
  cases rule with
  | operator =>
    obtain ⟨op, _⟩ := h
    have visible : Operator.longestFirst.all fun op => op.symbol.toList.all (!isBlank ·) := by
      decide
    have symbol_visible := List.all_eq_true.mp visible op op.mem_longestFirst
    intro c hc
    simpa using List.all_eq_true.mp symbol_visible c hc
  | paren => cases h <;> exact List.forall_mem_singleton.mpr rfl
  | string => exact absurd rfl hrule
  | number => exact h.isNumberText.not_blank
  | path =>
    obtain ⟨c, others, rfl, start, parts, -⟩ := matches_path_iff.mp h
    exact List.forall_mem_cons.mpr
      ⟨isBlank_of_isPathStart start, fun d hd => isBlank_of_isPathPart (parts d hd)⟩

/-- A closing parenthesis stands in no longer match than its own, strings apart. -/
theorem Matches.not_rparen (hrule : rule ≠ .string) (h : rule.Matches text rest x)
    (two : 2 ≤ text.length) : ')' ∉ text := by
  cases rule with
  | operator =>
    obtain ⟨op, _⟩ := h
    have without : ∀ op ∈ Operator.longestFirst, ')' ∉ op.symbol.toList := by decide
    exact without op op.mem_longestFirst
  | paren => cases h <;> exact absurd two (by decide)
  | string => exact absurd rfl hrule
  | number =>
    intro hmem
    have := h.isNumberText.parts ')' hmem
    revert this
    decide
  | path =>
    obtain ⟨c, others, rfl, start, parts, -⟩ := matches_path_iff.mp h
    intro hmem
    rcases List.mem_cons.mp hmem with rfl | hmem
    · cases start
    · cases parts ')' hmem

/-- A longest match of another rule than that of strings is so before a character that stands in no
longer match. -/
theorem Longest.of_not_mem {c : Char} (hrule : rule ≠ .string) (h : rule.Longest text rest x)
    (never : ∀ text' rest' y, rule.Matches text' rest' y → 2 ≤ text'.length → c ∉ text')
    (rest' : List Char) : rule.Longest text (c :: rest') x := by
  refine ⟨h.1.of_ne_string hrule _, ?_⟩
  rintro (_ | ⟨d, more⟩) rest'' y heq hne longer
  · exact hne rfl
  · obtain rfl : c = d := (List.cons.inj heq).1
    have := List.length_pos_iff.mpr h.1.ne_nil
    exact never _ _ _ longer (by simp only [List.length_append, List.length_cons]; omega) (by simp)

/-- A match that does not need the end of the text to be the longest is so before a blank. -/
theorem Longest.of_blank {c : Char} (h : rule.Longest text rest x) (hrest : rest ≠ [])
    (hc : isBlank c) (rest' : List Char) : rule.Longest text (c :: rest') x := by
  by_cases hrule : rule = .string
  · subst hrule
    refine Matches.longest_string ?_
    cases h.1 with
    | closed isQuote body => exact .closed isQuote body (c :: rest')
    | unclosed isQuote body stray_eq => exact absurd rfl hrest
  · refine h.of_not_mem hrule (fun text' _ _ hmatch _ hmem => ?_) rest'
    have := hmatch.not_blank hrule c hmem
    rw [hc] at this
    cases this

end Rule

end Bulletin
