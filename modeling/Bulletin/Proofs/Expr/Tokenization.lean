import Bulletin.Proofs.Expr.LongestMatch

/-!
# Tokenization

What the tokens of an expression are, apart from the scanner: spans of it in order, each the longest
match of a rule, with only blanks outside. Every text can be read in that way up to its end or up to
a character that is no blank and at which no rule applies. The scanner reads exactly so, and whether
it stops at a character depends on nothing after the next one.
-/

namespace Bulletin

/-- A token and the offset after its last character. -/
structure Span where
  token : Token
  finish : Nat

def Span.Covers (s : Span) (offset : Nat) : Prop := s.token.position ≤ offset ∧ offset < s.finish

/-- The spans are the lexemes of a text between two offsets, and the rest of it there is blank. -/
structure IsTokenization (text : List Char) (start stop : Nat) (spans : List Span) : Prop where
  within : ∀ s ∈ spans, start ≤ s.token.position ∧ s.token.position < s.finish ∧ s.finish ≤ stop
  ordered : spans.Pairwise fun s next => s.finish ≤ next.token.position
  blank_outside : ∀ offset, start ≤ offset → offset < stop → (∀ s ∈ spans, ¬ s.Covers offset) →
    ∃ c, text[offset]? = some c ∧ isBlank c
  longest : ∀ s ∈ spans, ∃ rule : Rule,
    rule.Longest (text.extract s.token.position s.finish) (text.drop s.finish) s.token.lexeme

/-- The text has a character at an offset that is no blank and where no rule applies. -/
structure IsStray (text : List Char) (stray : StrayChar) : Prop where
  at_position : text[stray.position]? = some stray.character
  not_blank : isBlank stray.character = false
  no_rule : ∀ rule : Rule, ¬ rule.Applies (text.drop stray.position)

theorem Rule.not_blank_of_ofFirst {c : Char} {rule : Rule} (h : ofFirst c = some rule) :
    isBlank c = false := by
  have no_mark : marks.any isBlank = false := by decide
  unfold ofFirst at h
  split at h
  · next hc => rcases hc with rfl | rfl <;> rfl
  · split at h
    · next hc => rcases hc with rfl | rfl <;> rfl
    · split at h
      · exact Bool.eq_false_iff.mpr fun hc => not_mem_marks no_mark hc ‹_›
      · split at h
        · next hc =>
          rcases hc with hc | rfl
          · exact isBlank_of_isDigit hc
          · rfl
        · split at h
          · exact isBlank_of_isPathStart ‹_›
          · cases h

theorem drop_eq_extract_append (text : List Char) {start finish : Nat} (h : start ≤ finish) :
    text.drop start = text.extract start finish ++ text.drop finish := by
  have parts := List.take_append_drop (finish - start) (text.drop start)
  rw [List.drop_drop, Nat.add_sub_cancel' h] at parts
  rw [List.extract_eq_take_drop, parts]

namespace IsTokenization

variable {text : List Char} {start stop : Nat} {spans : List Span}

theorem nil (text : List Char) (offset : Nat) : IsTokenization text offset offset [] where
  within := by simp
  ordered := .nil
  blank_outside := by omega
  longest := by simp

theorem blank {c : Char} (at_start : text[start]? = some c) (hc : isBlank c)
    (h : IsTokenization text (start + 1) stop spans) : IsTokenization text start stop spans where
  within := fun s hs => ⟨Nat.le_of_succ_le (h.within s hs).1, (h.within s hs).2⟩
  ordered := h.ordered
  blank_outside := by
    intro offset hstart hstop houtside
    rcases Nat.eq_or_lt_of_le hstart with rfl | hstart
    · exact ⟨c, at_start, hc⟩
    · exact h.blank_outside offset hstart hstop houtside
  longest := h.longest

theorem lexeme (s : Span) (hlength : s.token.position < s.finish)
    (hs : ∃ rule : Rule,
      rule.Longest (text.extract s.token.position s.finish) (text.drop s.finish) s.token.lexeme)
    (hstop : s.finish ≤ stop) (h : IsTokenization text s.finish stop spans) :
    IsTokenization text s.token.position stop (s :: spans) where
  within := by
    intro s' hs'
    rcases List.mem_cons.mp hs' with rfl | hs'
    · exact ⟨Nat.le_refl _, hlength, hstop⟩
    · exact ⟨by have := (h.within s' hs').1; omega, (h.within s' hs').2⟩
  ordered := List.pairwise_cons.mpr ⟨fun s' hs' => (h.within s' hs').1, h.ordered⟩
  blank_outside := by
    intro offset hstart hoffset houtside
    refine h.blank_outside offset ?_ hoffset fun s' hs' => houtside s' (List.mem_cons_of_mem _ hs')
    exact Nat.le_of_not_lt fun hlt => houtside s (List.mem_cons_self ..) ⟨hstart, hlt⟩
  longest := by
    intro s' hs'
    rcases List.mem_cons.mp hs' with rfl | hs'
    · exact hs
    · exact h.longest s' hs'

/-- No lexeme starts with a blank. -/
theorem not_blank (h : IsTokenization text start stop spans) {s : Span} (hs : s ∈ spans) {c : Char}
    (hc : text[s.token.position]? = some c) : isBlank c = false := by
  obtain ⟨rule, longest⟩ := h.longest s hs
  obtain ⟨d, others, heq, hrule⟩ := longest.1.exists_eq_cons
  have hd : (text.extract s.token.position s.finish)[0]? = some d := by rw [heq]; rfl
  have := (h.within s hs).2.1
  rw [List.extract_eq_take_drop, List.getElem?_take_of_lt (by omega), List.getElem?_drop,
    Nat.add_zero, hc] at hd
  rw [Option.some.inj hd]
  exact Rule.not_blank_of_ofFirst hrule

/-- After a blank at the start, the spans are those of the rest. -/
theorem of_blank (h : IsTokenization text start stop spans) {c : Char}
    (at_start : text[start]? = some c) (hc : isBlank c) :
    IsTokenization text (start + 1) stop spans where
  within := by
    intro s hs
    refine ⟨Nat.lt_of_le_of_ne (h.within s hs).1 ?_, (h.within s hs).2⟩
    rintro rfl
    rw [h.not_blank hs at_start] at hc
    cases hc
  ordered := h.ordered
  blank_outside := fun offset hstart => h.blank_outside offset (Nat.le_of_succ_le hstart)
  longest := h.longest

/-- If the start is no blank, then the first span is there. -/
theorem exists_eq_cons (h : IsTokenization text start stop spans) (hstop : start < stop) {c : Char}
    (at_start : text[start]? = some c) (hc : isBlank c = false) :
    ∃ s others, spans = s :: others ∧ s.token.position = start ∧
      IsTokenization text s.finish stop others := by
  have covered : ∃ s ∈ spans, s.Covers start := by
    refine Classical.byContradiction fun hnone => ?_
    obtain ⟨d, hd, blank⟩ := h.blank_outside start (Nat.le_refl _) hstop
      fun s hs hcovers => hnone ⟨s, hs, hcovers⟩
    rw [at_start] at hd
    rw [← Option.some.inj hd, hc] at blank
    cases blank
  obtain ⟨s, hs, hcovers⟩ := covered
  match spans with
  | first :: others =>
    obtain ⟨hfirst, hordered⟩ := List.pairwise_cons.mp h.ordered
    have hwithin := h.within first (List.mem_cons_self ..)
    have hstart : first.token.position = start := by
      have := hcovers.1
      rcases List.mem_cons.mp hs with rfl | hs
      · omega
      · have := hfirst s hs
        omega
    refine ⟨first, others, rfl, hstart, ?_, hordered, ?_, ?_⟩
    · intro s hs
      exact ⟨hfirst s hs, (h.within s (List.mem_cons_of_mem _ hs)).2⟩
    · intro offset hoffset hlt houtside
      refine h.blank_outside offset (by omega) hlt fun s hs hcovers => ?_
      rcases List.mem_cons.mp hs with rfl | hs
      · have := hcovers.2
        omega
      · exact houtside s hs hcovers
    · exact fun s hs => h.longest s (List.mem_cons_of_mem _ hs)

/-- Spans before an offset are still the lexemes if others follow, as long as the last match before
the offset stays the longest. -/
theorem of_longest {before rest rest' : List Char}
    (h : IsTokenization (before ++ rest) start stop spans) (hbefore : stop ≤ before.length)
    (keep : ∀ s ∈ spans, s.finish = before.length → ∀ rule : Rule,
      rule.Longest (before.drop s.token.position) rest s.token.lexeme →
        rule.Longest (before.drop s.token.position) rest' s.token.lexeme) :
    IsTokenization (before ++ rest') start stop spans where
  within := h.within
  ordered := h.ordered
  blank_outside := by
    intro offset hstart hstop houtside
    have := h.blank_outside offset hstart hstop houtside
    rwa [List.getElem?_append_left (Nat.lt_of_lt_of_le hstop hbefore)] at this ⊢
  longest := by
    intro s hs
    obtain ⟨rule, longest⟩ := h.longest s hs
    have hfinish := Nat.le_trans (h.within s hs).2.2 hbefore
    have hextract (after : List Char) : (before ++ after).extract s.token.position s.finish =
        before.extract s.token.position s.finish := by
      have := (h.within s hs).2.1
      rw [List.extract_eq_take_drop, List.extract_eq_take_drop,
        List.drop_append_of_le_length (by omega), List.take_append_of_le_length]
      rw [List.length_drop]
      omega
    rw [hextract, List.drop_append_of_le_length hfinish] at longest ⊢
    refine ⟨rule, ?_⟩
    cases hbetween : before.drop s.finish with
    | nil =>
      have atEnd : s.finish = before.length :=
        Nat.le_antisymm hfinish (List.drop_eq_nil_iff.mp hbetween)
      have htext : before.extract s.token.position s.finish = before.drop s.token.position := by
        rw [List.extract_eq_take_drop, atEnd, ← List.length_drop, List.take_length]
      rw [hbetween, htext] at longest
      rw [htext]
      exact keep s hs atEnd rule longest
    | cons c others =>
      rw [hbetween] at longest
      exact longest.of_take_one ⟨others ++ rest, rfl⟩

/-- Spans before an offset are still the lexemes if others follow, as long as the next character
is the same. -/
theorem of_take_one {before rest rest' : List Char}
    (h : IsTokenization (before ++ rest) start stop spans) (hbefore : stop ≤ before.length)
    (same : rest'.take 1 <+: rest) : IsTokenization (before ++ rest') start stop spans :=
  h.of_longest hbefore fun _ _ _ _ longest => longest.of_take_one same

/-- Spans are still the lexemes when the text after them is taken away. -/
theorem take (h : IsTokenization text start stop spans) (hstop : stop ≤ text.length) :
    IsTokenization (text.take stop) start stop spans := by
  rw [← List.take_append_drop stop text] at h
  have alone := h.of_take_one (Nat.le_of_eq (List.length_take_of_le hstop).symm)
    (show ([] : List Char).take 1 <+: _ from List.nil_prefix)
  rwa [List.append_nil] at alone

/-- The scanner reads the spans, and goes on after them. -/
theorem scanFrom_eq (h : IsTokenization text start stop spans) (hstart : start ≤ stop)
    (hstop : stop ≤ text.length) :
    Token.scanFrom start (text.drop start) =
      (Token.scanFrom stop (text.drop stop)).map (spans.map Span.token ++ ·) := by
  induction hn : stop - start using Nat.strongRecOn generalizing start spans with
  | ind n ih =>
    rcases Nat.eq_or_lt_of_le hstart with rfl | hlt
    · have none : spans = [] := by
        refine List.eq_nil_iff_forall_not_mem.mpr fun s hs => ?_
        have := h.within s hs
        omega
      rw [none]
      cases Token.scanFrom start (text.drop start) <;> rfl
    · have at_start : text[start]? = some text[start] := List.getElem?_eq_getElem (by omega)
      have hdrop : text.drop start = text[start] :: text.drop (start + 1) :=
        List.drop_eq_getElem_cons (by omega)
      by_cases hc : isBlank text[start]
      · rw [hdrop, Token.scanFrom_blank hc]
        exact ih (stop - (start + 1)) (by omega) (h.of_blank at_start hc) hlt rfl
      · -- The longest match at this place is unique, so the scanner finds the first span.
        obtain ⟨s, others, rfl, rfl, later⟩ :=
          h.exists_eq_cons hlt at_start (Bool.eq_false_iff.mpr hc)
        obtain ⟨-, hlength, hfinish⟩ := h.within s (List.mem_cons_self ..)
        obtain ⟨rule, longest⟩ := h.longest s (List.mem_cons_self ..)
        have found : Lexeme.scan? (text.drop s.token.position) =
            some (s.token.lexeme, s.finish - s.token.position) := by
          refine Lexeme.scan?_eq_some_iff.mpr ⟨rule, _, _, ?_, ?_, longest⟩
          · exact drop_eq_extract_append text (Nat.le_of_lt hlength)
          · rw [List.extract_eq_take_drop, List.length_take, List.length_drop]
            omega
        have rest : (text.drop (s.token.position + 1)).drop (s.finish - s.token.position - 1) =
            text.drop s.finish := by
          rw [List.drop_drop]
          congr 1
          omega
        rw [hdrop] at found ⊢
        rw [Token.scanFrom_lexeme (Bool.eq_false_iff.mpr hc) found, rest,
          Nat.add_sub_cancel' (Nat.le_of_lt hlength),
          ih (stop - s.finish) (by omega) later hfinish rfl]
        cases Token.scanFrom stop (text.drop stop) <;> rfl

end IsTokenization

namespace IsStray

variable {text : List Char} {stray : StrayChar}

theorem lt_length (h : IsStray text stray) : stray.position < text.length :=
  (List.getElem?_eq_some_iff.mp h.at_position).1

theorem drop_eq (h : IsStray text stray) :
    text.drop stray.position = stray.character :: text.drop (stray.position + 1) := by
  rw [List.drop_eq_getElem_cons h.lt_length, (List.getElem?_eq_some_iff.mp h.at_position).2]

theorem scanFrom_eq (h : IsStray text stray) :
    Token.scanFrom stray.position (text.drop stray.position) = .error stray := by
  have none := Lexeme.scan?_eq_none_iff.mpr h.no_rule
  rw [h.drop_eq] at none ⊢
  exact Token.scanFrom_stray h.not_blank none _

/-- A stray character is one because of it and the next character. -/
theorem of_take_two {before rest rest' : List Char} (h : IsStray (before ++ rest) stray)
    (hposition : stray.position = before.length) (same : rest'.take 2 = rest.take 2) :
    IsStray (before ++ rest') stray where
  at_position := by
    have := h.at_position
    rw [hposition, List.getElem?_append_right (Nat.le_refl _), Nat.sub_self] at this ⊢
    rwa [← List.getElem?_take_of_lt (by decide : 0 < 2), same,
      List.getElem?_take_of_lt (by decide)]
  not_blank := h.not_blank
  no_rule := by
    intro rule applies
    refine h.no_rule rule ?_
    rw [hposition, List.drop_left] at applies ⊢
    exact applies.of_take_two (same ▸ List.take_prefix 2 rest)

end IsStray

/-- A text is read up to its end or up to a stray character. -/
theorem exists_isTokenization (text : List Char) {start : Nat} (hstart : start ≤ text.length) :
    ∃ stop spans, start ≤ stop ∧ IsTokenization text start stop spans ∧
      (stop = text.length ∨ ∃ c, IsStray text ⟨c, stop⟩) := by
  induction hn : text.length - start using Nat.strongRecOn generalizing start with
  | ind n ih =>
    rcases Nat.eq_or_lt_of_le hstart with rfl | hlt
    · exact ⟨_, [], Nat.le_refl _, .nil text _, .inl rfl⟩
    · have at_start : text[start]? = some text[start] := List.getElem?_eq_getElem hlt
      by_cases hc : isBlank text[start]
      · obtain ⟨stop, spans, hstop, h, hend⟩ := ih (text.length - (start + 1)) (by omega) hlt rfl
        exact ⟨stop, spans, Nat.le_of_succ_le hstop, h.blank at_start hc, hend⟩
      · cases found : Lexeme.scan? (text.drop start) with
        | none =>
          exact ⟨start, [], Nat.le_refl _, .nil text start, .inr ⟨text[start], at_start,
            Bool.eq_false_iff.mpr hc, Lexeme.scan?_eq_none_iff.mp found⟩⟩
        | some found' =>
          obtain ⟨rule, first, rest, heq, -, longest⟩ := Lexeme.longest_of_scan? found
          have hfirst := List.length_pos_iff.mpr longest.1.ne_nil
          have hlength := congrArg List.length heq
          rw [List.length_drop, List.length_append] at hlength
          obtain ⟨stop, spans, hstop, h, hend⟩ :=
            ih (text.length - (start + first.length)) (by omega) (by omega) rfl
          have hextract : text.extract start (start + first.length) = first := by
            rw [List.extract_eq_take_drop, heq, Nat.add_sub_cancel_left, List.take_left]
          have hrest : text.drop (start + first.length) = rest := by
            rw [← List.drop_drop, heq, List.drop_left]
          refine ⟨stop, _ :: spans, by omega,
            .lexeme ⟨⟨found'.1, start⟩, start + first.length⟩ ?_ ?_ hstop h, hend⟩
          · exact Nat.lt_add_of_pos_right hfirst
          · simp only [hextract, hrest]
            exact ⟨rule, longest⟩

namespace Token

variable {expression : String}

theorem ofText_eq_of_stop {stop : Nat} {spans : List Span}
    (h : IsTokenization expression.toList 0 stop spans) (hstop : stop ≤ expression.toList.length) :
    ofText expression =
      (scanFrom stop (expression.toList.drop stop)).map (spans.map Span.token ++ ·) :=
  h.scanFrom_eq (Nat.zero_le _) hstop

theorem ofText_eq_ok {spans : List Span}
    (h : IsTokenization expression.toList 0 expression.toList.length spans) :
    ofText expression = .ok (spans.map Span.token) := by
  rw [ofText_eq_of_stop h (Nat.le_refl _), List.drop_length, scanFrom_nil]
  simp [Except.map]

theorem ofText_eq_error {stray : StrayChar} {spans : List Span}
    (h : IsTokenization expression.toList 0 stray.position spans)
    (hstray : IsStray expression.toList stray) : ofText expression = .error stray := by
  rw [ofText_eq_of_stop h (Nat.le_of_lt hstray.lt_length), hstray.scanFrom_eq]
  rfl

theorem ofText_eq_ok_iff {tokens : List Token} :
    ofText expression = .ok tokens ↔ ∃ spans, spans.map Span.token = tokens ∧
      IsTokenization expression.toList 0 expression.toList.length spans := by
  constructor
  · intro read
    obtain ⟨stop, spans, -, h, rfl | ⟨c, hstray⟩⟩ :=
      exists_isTokenization expression.toList (Nat.zero_le _)
    · rw [ofText_eq_ok h] at read
      exact ⟨spans, Except.ok.inj read, h⟩
    · rw [ofText_eq_error h hstray] at read
      cases read
  · rintro ⟨spans, rfl, h⟩
    exact ofText_eq_ok h

theorem ofText_eq_error_iff {stray : StrayChar} :
    ofText expression = .error stray ↔ IsStray expression.toList stray ∧
      ∃ spans, IsTokenization expression.toList 0 stray.position spans := by
  constructor
  · intro read
    obtain ⟨stop, spans, -, h, rfl | ⟨c, hstray⟩⟩ :=
      exists_isTokenization expression.toList (Nat.zero_le _)
    · rw [ofText_eq_ok h] at read
      cases read
    · rw [ofText_eq_error h hstray] at read
      cases read
      exact ⟨hstray, spans, h⟩
  · rintro ⟨hstray, spans, h⟩
    exact ofText_eq_error h hstray

theorem isNaN_of_ofText {tokens : List Token} {x : Double} {position : Nat}
    (read : ofText expression = .ok tokens) (hx : ⟨.literal (.number x), position⟩ ∈ tokens) :
    x.isNaN = false := by
  obtain ⟨spans, rfl, h⟩ := ofText_eq_ok_iff.mp read
  obtain ⟨s, hs, htoken⟩ := List.mem_map.mp hx
  obtain ⟨rule, longest⟩ := h.longest s hs
  rw [htoken] at longest
  exact longest.1.isNaN_eq_false

/-- What is read up to an offset are the tokens of the text before it. -/
theorem ofText_take {stop : Nat} {spans : List Span}
    (h : IsTokenization expression.toList 0 stop spans) (hstop : stop ≤ expression.toList.length) :
    ofText (String.ofList (expression.toList.take stop)) = .ok (spans.map Span.token) := by
  apply ofText_eq_ok
  rw [String.toList_ofList, List.length_take_of_le hstop]
  exact h.take hstop

/-- Everything before a stray character has tokens. -/
theorem exists_ofText_take {stray : StrayChar} (read : ofText expression = .error stray) :
    ∃ tokens, ofText (String.ofList (expression.toList.take stray.position)) = .ok tokens := by
  obtain ⟨hstray, spans, h⟩ := ofText_eq_error_iff.mp read
  exact ⟨_, ofText_take h (Nat.le_of_lt hstray.lt_length)⟩

/-- A stray character stays the error when what comes after the next character changes. -/
theorem ofText_eq_error_of_take {stray : StrayChar} {other : String}
    (read : ofText expression = .error stray)
    (same : other.toList.take (stray.position + 2) = expression.toList.take (stray.position + 2)) :
    ofText other = .error stray := by
  obtain ⟨hstray, spans, h⟩ := ofText_eq_error_iff.mp read
  have hlength : (expression.toList.take stray.position).length = stray.position :=
    List.length_take_of_le (Nat.le_of_lt hstray.lt_length)
  have hbefore : other.toList.take stray.position = expression.toList.take stray.position := by
    have := congrArg (List.take stray.position) same
    rwa [List.take_take, List.take_take, Nat.min_eq_left (Nat.le_add_right ..)] at this
  have hafter : (other.toList.drop stray.position).take 2 =
      (expression.toList.drop stray.position).take 2 := by
    rw [List.take_drop, List.take_drop, same]
  have hfirst : (other.toList.drop stray.position).take 1 <+:
      expression.toList.drop stray.position := by
    have := congrArg (List.take 1) hafter
    rw [List.take_take, List.take_take] at this
    exact this ▸ List.take_prefix ..
  rw [ofText_eq_error_iff, ← List.take_append_drop stray.position other.toList, hbefore]
  rw [← List.take_append_drop stray.position expression.toList] at h hstray
  exact ⟨hstray.of_take_two hlength.symm hafter, spans,
    h.of_take_one (Nat.le_of_eq hlength.symm) hfirst⟩

/-- The scanner reads the longest matches of the lexical rules. It succeeds when an expression
consists of them and of blanks, and no number that it reads is undefined. Otherwise it fails at the
first character that is no blank and where no rule applies; then everything before has tokens, and
all expressions that are the same up to the character after it fail as well. -/
theorem ofText_eq_longest_matches (expression : String) :
    (∀ tokens, ofText expression = .ok tokens ↔ ∃ spans, spans.map Span.token = tokens ∧
      IsTokenization expression.toList 0 expression.toList.length spans) ∧
    (∀ tokens x position, ofText expression = .ok tokens →
      ⟨.literal (.number x), position⟩ ∈ tokens → x.isNaN = false) ∧
    (∀ stray, ofText expression = .error stray ↔ IsStray expression.toList stray ∧
      ∃ spans, IsTokenization expression.toList 0 stray.position spans) ∧
    ∀ stray, ofText expression = .error stray →
      (∃ tokens, ofText (String.ofList (expression.toList.take stray.position)) = .ok tokens) ∧
      ∀ other : String,
        other.toList.take (stray.position + 2) = expression.toList.take (stray.position + 2) →
          ofText other = .error stray :=
  ⟨fun _ => ofText_eq_ok_iff, fun _ _ _ => isNaN_of_ofText, fun _ => ofText_eq_error_iff,
    fun _ read => ⟨exists_ofText_take read, fun _ => ofText_eq_error_of_take read⟩⟩

end Token

end Bulletin
