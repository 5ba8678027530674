import Bulletin.Proofs.Template.Splitting

/-!
# Rendering is substitution

Rendering replaces the placeholders of a template's decomposition and copies the literal texts
between them, or fails as a whole. The limit is checked first, and then the first placeholder that
fails decides. What a placeholder is replaced by is not looked at again.
-/

namespace Bulletin

/-- Either all items of a list have a result, or there is a first one that has none. -/
theorem exists_results_or_first_error {α β ε : Type} (f : α → Except ε β) (items : List α) :
    (∃ results : List β, items.map f = results.map .ok) ∨
      ∃ before x after e, items = before ++ x :: after ∧ (∀ y ∈ before, ∃ b, f y = .ok b) ∧
        f x = .error e := by
  induction items with
  | nil => exact .inl ⟨[], rfl⟩
  | cons x items ih =>
    cases hx : f x with
    | error e =>
      exact .inr ⟨[], x, items, e, rfl, (fun y hy => absurd hy List.not_mem_nil), hx⟩
    | ok b =>
      rcases ih with ⟨results, h⟩ | ⟨before, x', after, e, rfl, hbefore, he⟩
      · exact .inl ⟨b :: results, by rw [List.map_cons, hx, h, List.map_cons]⟩
      · refine .inr ⟨x :: before, x', after, e, rfl, fun y hy => ?_, he⟩
        rcases List.mem_cons.mp hy with rfl | hy
        · exact ⟨b, hx⟩
        · exact hbefore y hy

namespace Template

/-- The text of a template with a text in the place of every placeholder. -/
def substitute (T : Template) (texts : List String) : List Char :=
  (List.zipWith (fun piece text => piece.1 ++ text.toList) T.pieces texts).flatten ++ T.tail

section Fill

variable {ε : Type} {f : String → Except ε String} {T : Template}

theorem fill_eq_ok {texts : List String} (h : T.placeholders.map f = texts.map .ok) :
    T.fill f = .ok (String.ofList (T.substitute texts)) := by
  obtain ⟨pieces, tail⟩ := T
  have filled : fillPieces f pieces tail = .ok (substitute ⟨pieces, tail⟩ texts) := by
    induction pieces generalizing texts with
    | nil =>
      obtain rfl := List.map_eq_nil_iff.mp h.symm
      rfl
    | cons piece pieces ih =>
      obtain ⟨text, others, rfl, here, rest⟩ := List.map_eq_cons_iff.mp h.symm
      have later := ih rest.symm
      simp [fillPieces, ← here, later, substitute, Except.map]
  rw [fill, filled]
  rfl

theorem fill_eq_error {before after : List String} {x : String} {e : ε}
    (h : T.placeholders = before ++ x :: after) (hbefore : ∀ y ∈ before, ∃ text, f y = .ok text)
    (hx : f x = .error e) : T.fill f = .error e := by
  obtain ⟨pieces, tail⟩ := T
  have filled : fillPieces f pieces tail = .error e := by
    induction pieces generalizing before with
    | nil => simp [placeholders] at h
    | cons piece pieces ih =>
      cases before with
      | nil =>
        obtain ⟨rfl, -⟩ := List.cons.inj h
        simp only [fillPieces, hx]
      | cons y before =>
        obtain ⟨rfl, rest⟩ := List.cons.inj h
        obtain ⟨text, here⟩ := hbefore _ (List.mem_cons_self ..)
        have later := ih (h := rest) fun y hy => hbefore y (List.mem_cons_of_mem _ hy)
        simp only [fillPieces, here, later]
        rfl
  rw [fill, filled]
  rfl

end Fill

end Template

namespace Renderer

open Template

variable {r : Renderer} {text : String}

/-- A limit that a template goes beyond. A template without placeholders goes beyond none. -/
def Exceeds (r : Renderer) (T : Template) (limit : Int) : Prop :=
  r.maxPlaceholders = some limit ∧ 1 ≤ T.pieces.length ∧ limit < T.pieces.length

theorem exceeded?_eq_some_iff {T : Template} {limit : Int} :
    T.exceeded? r.maxPlaceholders = some limit ↔ r.Exceeds T limit := by
  simp only [exceeded?, Option.filter_eq_some_iff, Exceeds, Bool.and_eq_true, Bool.not_eq_true',
    decide_eq_true_eq, List.isEmpty_eq_false_iff, Nat.one_le_iff_ne_zero, ne_eq,
    List.length_eq_zero_iff]

theorem render_eq_tooMany {limit : Int} (h : r.Exceeds (ofText text) limit) :
    r.render text = .error (.tooMany limit (ofText text).pieces.length text) := by
  simp only [render, exceeded?_eq_some_iff.mpr h]

theorem render_eq_fill (h : ∀ limit, ¬ r.Exceeds (ofText text) limit) :
    r.render text = (ofText text).fill r.fill := by
  have within : (ofText text).exceeded? r.maxPlaceholders = none :=
    Option.eq_none_iff_forall_ne_some.mpr fun limit he => h limit (exceeded?_eq_some_iff.mp he)
  simp only [render, within]

theorem fill_of_eval_eq_ok {x : String} {v : Value} (h : r.evaluator.eval x = .ok v) :
    r.fill x = .ok v.rendered := by
  simp only [fill, h]

theorem fill_of_eval_eq_error {x : String} {e : SyntaxError} (h : r.evaluator.eval x = .error e) :
    r.fill x = .error (.placeholder x e) := by
  simp only [fill, h]

/-- When every placeholder has a value, the texts of the values take their places. -/
theorem render_eq_ok {values : List Value} (h : ∀ limit, ¬ r.Exceeds (ofText text) limit)
    (hvalues : (ofText text).placeholders.map r.evaluator.eval = values.map .ok) :
    r.render text =
      .ok (String.ofList ((ofText text).substitute (values.map Value.rendered))) := by
  rw [render_eq_fill h]
  apply Template.fill_eq_ok
  generalize (ofText text).placeholders = expressions at hvalues
  induction expressions generalizing values with
  | nil =>
    obtain rfl := List.map_eq_nil_iff.mp hvalues.symm
    rfl
  | cons x expressions ih =>
    obtain ⟨v, values, rfl, hv, rest⟩ := List.map_eq_cons_iff.mp hvalues.symm
    simp only [List.map_cons, fill_of_eval_eq_ok hv.symm, ih rest.symm]

/-- The first placeholder that has no value is the error. -/
theorem render_eq_error {before after : List String} {x : String} {e : SyntaxError}
    (h : ∀ limit, ¬ r.Exceeds (ofText text) limit)
    (hx : (ofText text).placeholders = before ++ x :: after)
    (hbefore : ∀ y ∈ before, ∃ v, r.evaluator.eval y = .ok v)
    (he : r.evaluator.eval x = .error e) :
    r.render text = .error (.placeholder x e) := by
  rw [render_eq_fill h]
  refine Template.fill_eq_error hx (fun y hy => ?_) (fill_of_eval_eq_error he)
  obtain ⟨v, hv⟩ := hbefore y hy
  exact ⟨_, fill_of_eval_eq_ok hv⟩

/-- Within the limit, rendering fails exactly when a placeholder has no value. -/
theorem exists_render_eq_error_iff (h : ∀ limit, ¬ r.Exceeds (ofText text) limit) :
    (∃ e, r.render text = .error e) ↔
      ∃ x ∈ (ofText text).placeholders, ∃ e, r.evaluator.eval x = .error e := by
  rcases exists_results_or_first_error r.evaluator.eval (ofText text).placeholders with
    ⟨values, hvalues⟩ | ⟨before, x, after, e, hx, hbefore, he⟩
  · rw [render_eq_ok h hvalues]
    refine iff_of_false (fun ⟨e, he⟩ => by cases he) ?_
    rintro ⟨x, hx, e, he⟩
    have hmem := List.mem_map_of_mem (f := r.evaluator.eval) hx
    rw [hvalues, he] at hmem
    obtain ⟨v, -, hv⟩ := List.mem_map.mp hmem
    cases hv
  · rw [render_eq_error h hx hbefore he]
    exact iff_of_true ⟨_, rfl⟩ ⟨x, by simp [hx], e, he⟩

/-- A text without placeholders is rendered as it is, whatever the limit. -/
theorem render_of_splits_nil (splits : Splits text.toList ⟨[], text.toList⟩) :
    r.render text = .ok text := by
  have same : ⟨[], text.toList⟩ = ofText text := splits_iff.mp splits
  have filled : Template.fill ⟨[], text.toList⟩ r.fill = .ok (String.ofList text.toList) := rfl
  rw [render_eq_fill, ← same, filled, String.ofList_toList]
  rw [← same]
  rintro limit ⟨-, some_piece, -⟩
  cases some_piece

end Renderer

open Template in
/-- A template has exactly one decomposition, whose placeholders are the leftmost and shortest ones.
If there are more of them than the limit, that is the error, whatever they hold. Otherwise rendering
fails exactly when one of them has no value, and the first such is the error; and if all have a
value, the literal texts are joined with the texts of the values. -/
theorem Renderer.render_eq_substitution (text : String) :
    ∃ T : Template, Splits text.toList T ∧ (∀ T', Splits text.toList T' → T' = T) ∧
      join T.pieces T.tail = text.toList ∧
      (ofText text).placeholders = T.pieces.map (fun piece => String.ofList (trim piece.2)) ∧
      ∀ r : Renderer,
        (∀ limit, r.Exceeds T limit →
          r.render text = .error (.tooMany limit T.pieces.length text)) ∧
        ((∀ limit, ¬ r.Exceeds T limit) →
          ((∃ e, r.render text = .error e) ↔
            ∃ x ∈ T.placeholders, ∃ e, r.evaluator.eval x = .error e) ∧
          (∀ before x after e, T.placeholders = before ++ x :: after →
            (∀ y ∈ before, ∃ v, r.evaluator.eval y = .ok v) → r.evaluator.eval x = .error e →
              r.render text = .error (.placeholder x e)) ∧
          ∀ values : List Value, T.placeholders.map r.evaluator.eval = values.map .ok →
            r.render text = .ok (String.ofList (T.substitute (values.map Value.rendered)))) := by
  have splits : Splits text.toList (ofText text) := splits_iff.mpr rfl
  refine ⟨ofText text, splits, fun T' h => splits_iff.mp h, splits.join_eq, rfl, fun r =>
    ⟨fun limit => render_eq_tooMany, fun within => ⟨exists_render_eq_error_iff within, ?_, ?_⟩⟩⟩
  · intro before x after e
    exact render_eq_error within
  · intro values
    exact render_eq_ok within

open Template in
/-- A limit below zero does not refuse a template without placeholders, although it has more than
the limit. -/
theorem Renderer.render_of_negative_limit :
    Splits "plain".toList ⟨[], "plain".toList⟩ ∧
      (-1 : Int) < (⟨[], "plain".toList⟩ : Template).pieces.length ∧
        Renderer.render ⟨⟨Context.empty, [], 32⟩, some (-1)⟩ "plain" = .ok "plain" := by
  have splits : Splits "plain".toList ⟨[], "plain".toList⟩ := by
    refine .tail fun i j hi hj => ?_
    have brace : '\x7b' ∈ "plain".toList := List.mem_of_mem_drop (hi.subset (by simp [opening]))
    exact absurd brace (by decide)
  have same := splits_iff.mp splits
  refine ⟨splits, by decide, ?_⟩
  have within : ∀ limit, ¬ Exceeds ⟨⟨Context.empty, [], 32⟩, some (-1)⟩ (ofText "plain") limit := by
    rintro limit ⟨-, some_piece, -⟩
    rw [← same] at some_piece
    cases some_piece
  have noValues : (ofText "plain").placeholders.map (⟨Context.empty, [], 32⟩ : Evaluator).eval =
      ([] : List Value).map .ok := by
    rw [← same]
    rfl
  rw [render_eq_ok within noValues, ← same]
  rfl

end Bulletin
