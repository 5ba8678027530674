import Bulletin.Proofs.Expr.Printing
import Bulletin.Proofs.Template.Substitution

/-!
# Quoted texts in templates

Any text can be put into a template as a string. The scanner for placeholders knows nothing of
strings and ends a placeholder at the first closing braces, wherever they stand; but with a
backslash before every closing brace no two of them stand side by side, so the placeholder goes on
to its own closing braces. What it holds is then one string, which stands for the text.
-/

namespace Bulletin

namespace Template

/-! ### Where closing braces cannot stand -/

/-- No closing braces stand before an offset, and a closing brace put in front completes none. -/
structure ClosesFrom (text : List Char) (offset : Nat) : Prop where
  head : text.head? ≠ some '\x7d'
  before : ∀ k < offset, ¬ OccursAt closing text k

namespace ClosesFrom

variable {text : List Char} {offset : Nat}

theorem cons {c : Char} (hc : c ≠ '\x7d') (h : ClosesFrom text offset) :
    ClosesFrom (c :: text) (offset + 1) where
  head := by simpa using hc
  before := by
    intro k hk
    cases k with
    | zero => exact not_occursAt_zero fun _ hc' _ => hc hc'
    | succ k => exact h.before k (Nat.lt_of_succ_lt_succ hk)

/-- After a backslash any character may stand. -/
theorem escaped (c : Char) (h : ClosesFrom text offset) :
    ClosesFrom ('\\' :: c :: text) (offset + 2) where
  head := by simp
  before := by
    intro k hk
    match k with
    | 0 => exact not_occursAt_zero fun _ hc' _ => absurd hc' (by decide)
    | 1 => exact not_occursAt_zero fun others _ htext => h.head (by rw [htext]; rfl)
    | k + 2 => exact h.before k (by omega)

/-- The body of a string in which closing braces are escaped. -/
theorem body {q : Quoting} (hq : q.escaped '\x7d') (h : ClosesFrom text offset) (s : List Char) :
    ClosesFrom (q.body s ++ text) (offset + (q.body s).length) := by
  induction s with
  | nil => exact h
  | cons c s ih =>
    by_cases hc : q.escaped c
    · have hbody : q.body (c :: s) = '\\' :: c :: q.body s := by simp [Quoting.body, hc]
      rw [hbody]
      exact ih.escaped c
    · have hbody : q.body (c :: s) = c :: q.body s := by simp [Quoting.body, hc]
      rw [hbody]
      refine ih.cons ?_
      rintro rfl
      exact hc hq

end ClosesFrom

/-- The inner text of a placeholder that holds a string alone, with a space on each side. -/
def quotedInner (q : Quoting) (s : String) : List Char := ' ' :: ((q.word s).text ++ [' '])

theorem closesFrom_quotedInner {q : Quoting} (hq : q.escaped '\x7d') (s : String) :
    ClosesFrom (quotedInner q s ++ closing) (quotedInner q s).length := by
  have hquote : q.quote ≠ '\x7d' := by rcases q.quote_eq with h | h <;> rw [h] <;> decide
  have behind : ClosesFrom (' ' :: closing) 1 :=
    ⟨by decide, fun k hk => by
      obtain rfl := Nat.lt_one_iff.mp hk
      exact not_occursAt_zero fun _ hc' _ => absurd hc' (by decide)⟩
  have whole := (((behind.cons hquote).body hq s.toList).cons hquote).cons
    (show ' ' ≠ '\x7d' by decide)
  have htext : quotedInner q s ++ closing =
      ' ' :: q.quote :: (q.body s.toList ++ q.quote :: ' ' :: closing) := by
    simp [quotedInner, Quoting.word]
  have hlength : (quotedInner q s).length = 1 + 1 + (q.body s.toList).length + 1 + 1 := by
    simp only [quotedInner, Quoting.word, List.length_cons, List.length_append, List.length_nil]
    omega
  rw [htext, hlength]
  exact whole

/-- A string in which closing braces are escaped is the only thing that its placeholder holds. -/
theorem splits_quotedInner {q : Quoting} (hq : q.escaped '\x7d') (s : String) :
    Splits (opening ++ quotedInner q s ++ closing) ⟨[([], quotedInner q s)], []⟩ := by
  have text_eq : opening ++ quotedInner q s ++ closing =
      [] ++ opening ++ quotedInner q s ++ closing ++ [] := by simp
  have nothing : Splits [] ⟨[], []⟩ :=
    .tail fun i j hi _ => absurd hi (OccursAt.not_nil (List.cons_ne_nil _ _))
  exact .piece text_eq (List.cons_ne_nil _ _) (fun k hk => absurd hk (Nat.not_lt_zero k))
    (fun k _ hlt => (closesFrom_quotedInner hq s).before k hlt) nothing

theorem trim_quotedInner (q : Quoting) (s : String) :
    trim (quotedInner q s) = (q.word s).text := by
  have hquote : isBlank q.quote = false := by rcases q.quote_eq with h | h <;> rw [h] <;> rfl
  have space : ∀ c ∈ [' '], isBlank c := List.forall_mem_singleton.mpr rfl
  have trimmed := trimBy_between space hquote (q.body s.toList) hquote space
  simpa [trim, quotedInner, Quoting.word] using trimmed

end Template

namespace Renderer

open Template

variable {r : Renderer}

/-- A placeholder that holds a string in which closing braces are escaped is rendered to the text of
the string. -/
theorem render_quotedInner {q : Quoting} (hq : q.escaped '\x7d') (s : String)
    (hlimit : ∀ most, r.maxPlaceholders = some most → 1 ≤ most) {text : String}
    (htext : text.toList = opening ++ quotedInner q s ++ closing) :
    (ofText text).placeholders = [String.ofList (q.word s).text] ∧ r.render text = .ok s := by
  have same : ⟨[([], quotedInner q s)], []⟩ = ofText text := by
    rw [← splits_iff, htext]
    exact splits_quotedInner hq s
  have hplaceholders : (ofText text).placeholders = [String.ofList (q.word s).text] := by
    rw [← same]
    simp [placeholders, trim_quotedInner]
  have within : ∀ limit, ¬ r.Exceeds (ofText text) limit := by
    rw [← same]
    rintro limit ⟨limited, -, exceeded⟩
    have := hlimit limit limited
    simp only [List.length_singleton] at exceeded
    omega
  have value : r.evaluator.eval (String.ofList (q.word s).text) = .ok (.str s) :=
    r.evaluator.eval_atom (.string q s)
  have hvalues : (ofText text).placeholders.map r.evaluator.eval = [Value.str s].map .ok := by
    rw [hplaceholders, List.map_singleton, List.map_singleton, value]
  refine ⟨hplaceholders, ?_⟩
  rw [render_eq_ok within hvalues, ← same]
  simp [substitute, Value.rendered, Value.isNil, Value.isStructured, Value.naturalText]

end Renderer

/-- A text between quotes, with a backslash before each of its characters. -/
def escapedInQuotes (quote : Char) (s : String) : String :=
  String.ofList (quote :: (s.toList.flatMap (fun c => ['\\', c]) ++ [quote]))

open Template in
/-- Any text can be quoted into a template: between quotes of either kind, and with a backslash
before each of its characters, it is the only expression of a template, which is rendered to the
text, whatever the context, the environment and the limits, if one placeholder is allowed. -/
theorem Renderer.render_escapedInQuotes (r : Renderer) {quote : Char}
    (isQuote : quote = '\'' ∨ quote = '"') (s : String)
    (hlimit : ∀ most, r.maxPlaceholders = some most → 1 ≤ most) :
    (ofText ("\x7b\x7b " ++ escapedInQuotes quote s ++ " \x7d\x7d")).placeholders =
        [escapedInQuotes quote s] ∧
      r.render ("\x7b\x7b " ++ escapedInQuotes quote s ++ " \x7d\x7d") = .ok s := by
  let q : Quoting := ⟨quote, isQuote, fun _ => true, rfl, rfl⟩
  have hbody : q.body s.toList = s.toList.flatMap fun c => ['\\', c] := rfl
  have htext : ("\x7b\x7b " ++ escapedInQuotes quote s ++ " \x7d\x7d").toList =
      opening ++ quotedInner q s ++ closing := by
    simp [escapedInQuotes, quotedInner, Quoting.word, q, hbody, opening, closing]
  exact render_quotedInner (q := q) rfl s hlimit htext

open Template in
/-- Quotes, a backslash, a line break and braces of both kinds, without room for nesting. -/
theorem Renderer.render_escapedInQuotes_braces :
    (∀ most, some (1 : Int) = some most → 1 ≤ most) ∧
      (ofText "\x7b\x7b '\\'\\\\\\\n\\\x7b\\\x7b\\\x7d\\\x7d' \x7d\x7d").placeholders =
        ["'\\'\\\\\\\n\\\x7b\\\x7b\\\x7d\\\x7d'"] ∧
      (Renderer.mk ⟨.empty, [], -1⟩ (some 1)).render
          "\x7b\x7b '\\'\\\\\\\n\\\x7b\\\x7b\\\x7d\\\x7d' \x7d\x7d" =
        .ok "'\\\n\x7b\x7b\x7d\x7d" := by
  have hlimit : ∀ most, some (1 : Int) = some most → 1 ≤ most := by
    rintro most ⟨⟩
    decide
  have isQuote : '\'' = '\'' ∨ '\'' = '"' := .inl rfl
  exact ⟨hlimit, render_escapedInQuotes ⟨⟨.empty, [], -1⟩, some 1⟩ isQuote
    "'\\\n\x7b\x7b\x7d\x7d" hlimit⟩

end Bulletin
