import Bulletin.Proofs.Expr.Spelling
import Bulletin.Proofs.FirstFault
import Bulletin.Proofs.Template.Substitution

/-!
# Empty braces

Empty braces are literal text where no closing braces follow them. Where some do, a placeholder
starts at the empty braces and goes on to those, since it holds at least one character: its inner
text starts with a closing brace, which starts no expression. So such a template is never rendered,
and an inner text with closing braces in it has them at its start and has no value.
-/

namespace Bulletin

/-- No expression starts with a closing brace. -/
theorem Evaluator.eval_brace (e : Evaluator) (rest : List Char) :
    e.eval (String.ofList (trim ('\x7d' :: rest))) = .error ⟨.strayCharacter '\x7d', 0⟩ := by
  obtain ⟨others, trimmed⟩ := trimBy_cons (show isBlank '\x7d' = false from rfl) rest
  have none : Lexeme.scan? ('\x7d' :: others) = none := by
    rw [Lexeme.scan?_cons (by decide), if_neg (by simp [startsNumber]), if_neg (by decide)]
  have stray : Token.ofText (String.ofList ('\x7d' :: others)) = .error ⟨'\x7d', 0⟩ := by
    rw [Token.ofText, String.toList_ofList]
    exact Token.scanFrom_stray rfl none 0
  rw [trim, trimmed]
  simp only [eval, Expr.readText, stray]

namespace Template

variable {text : List Char} {T : Template}

/-! ### Where empty braces are literal -/

/-- Behind the opening braces, the closing ones come right away, or one character later or more. -/
theorem occursAt_emptyBraces_iff {j : Nat} :
    OccursAt closing (opening ++ closing ++ text) j ↔
      j = 2 ∨ ∃ k, j = k + 3 ∧ OccursAt closing ('\x7d' :: text) k := by
  match j with
  | 0 | 1 | 2 | j + 3 => simp [OccursAt, opening, closing]

theorem splits_emptyBraces (h : ∀ k, ¬ OccursAt closing ('\x7d' :: text) k) :
    Splits (opening ++ closing ++ text) ⟨[], opening ++ closing ++ text⟩ := by
  refine .tail fun i j _ hj => ?_
  rcases occursAt_emptyBraces_iff.mp hj with rfl | ⟨k, -, hk⟩
  · omega
  · exact absurd hk (h k)

theorem splits_of_not_occursAt (h : ∀ k, ¬ OccursAt closing text k) : Splits text ⟨[], text⟩ :=
  .tail fun _ j _ hj => absurd hj (h j)

/-- The first placeholder starts at the empty braces if closing braces follow. -/
theorem exists_pieces_of_occursAt {k : Nat} (h : OccursAt closing ('\x7d' :: text) k)
    (splits : Splits (opening ++ closing ++ text) T) :
    ∃ rest pieces, T.pieces = ([], '\x7d' :: rest) :: pieces := by
  generalize heq : opening ++ closing ++ text = whole at splits
  have starts : OccursAt opening whole 0 := heq ▸ ⟨closing ++ text, rfl⟩
  cases splits with
  | tail rest =>
    have ends : OccursAt closing whole (k + 3) :=
      heq ▸ occursAt_emptyBraces_iff.mpr (.inr ⟨k, rfl, h⟩)
    have := rest 0 (k + 3) starts ends
    omega
  | @piece _ literal inner after others text_eq inner_ne_nil first shortest rest =>
    obtain rfl : literal = [] :=
      List.eq_nil_of_length_eq_zero (Nat.eq_zero_of_not_pos fun hpos => first 0 hpos starts)
    obtain ⟨c, inner, rfl⟩ := List.exists_cons_of_ne_nil inner_ne_nil
    rw [← heq] at text_eq
    obtain rfl : '\x7d' = c := by
      simpa [opening, closing] using congrArg (·.drop 2 |>.head?) text_eq
    exact ⟨inner, others.pieces, rfl⟩

/-! ### Closing braces in an inner text -/

theorem Splits.eq_zero_of_occursAt (h : Splits text T) :
    ∀ piece ∈ T.pieces, ∀ k, OccursAt closing piece.2 k → k = 0 := by
  induction h with
  | tail rest => exact fun piece hpiece => absurd hpiece List.not_mem_nil
  | @piece _ literal inner after others text_eq inner_ne_nil first shortest rest ih =>
    intro piece hpiece k hk
    rcases List.mem_cons.mp hpiece with rfl | hpiece
    · refine Nat.eq_zero_of_not_pos fun hpos => ?_
      have hlt : k < inner.length := Nat.lt_of_not_le fun hle => by
        rw [OccursAt, List.drop_eq_nil_of_le hle, List.prefix_nil] at hk
        cases hk
      exact shortest k hpos hlt (hk.append_right closing)
    · exact ih piece hpiece k hk

end Template

namespace Renderer

open Template

def emptyBraces : String := String.ofList (opening ++ closing)

/-- Before a template, empty braces are copied, and the template is rendered as without them. -/
def KeepsEmptyBraces (r : Renderer) (t : String) : Prop :=
  ((∃ e, r.render (emptyBraces ++ t) = .error e) ↔ ∃ e, r.render t = .error e) ∧
    ∀ out, r.render t = .ok out → r.render (emptyBraces ++ t) = .ok (emptyBraces ++ out)

variable {r : Renderer} {e : Evaluator} {t : String}

theorem toList_emptyBraces_append (t : String) :
    (emptyBraces ++ t).toList = opening ++ closing ++ t.toList := by
  rw [String.toList_append, emptyBraces, String.toList_ofList]

theorem render_emptyBraces (h : ∀ k, ¬ OccursAt closing ('\x7d' :: t.toList) k) :
    r.render (emptyBraces ++ t) = .ok (emptyBraces ++ t) ∧ r.render t = .ok t := by
  constructor
  · refine render_of_splits_nil ?_
    rw [toList_emptyBraces_append]
    exact splits_emptyBraces h
  · exact render_of_splits_nil (splits_of_not_occursAt fun k hk => h (k + 1) hk)

theorem render_emptyBraces_eq_error {k : Nat} (h : OccursAt closing ('\x7d' :: t.toList) k) :
    ∃ x, Renderer.render ⟨e, none⟩ (emptyBraces ++ t) =
      .error (.placeholder x ⟨.strayCharacter '\x7d', 0⟩) := by
  have splits : Splits (emptyBraces ++ t).toList (ofText (emptyBraces ++ t)) :=
    splits_iff.mpr rfl
  rw [toList_emptyBraces_append] at splits
  obtain ⟨rest, pieces, hpieces⟩ := exists_pieces_of_occursAt h splits
  have unlimited : ∀ limit,
      ¬ Renderer.Exceeds ⟨e, none⟩ (ofText (emptyBraces ++ t)) limit := by
    rintro limit ⟨limited, -⟩
    cases limited
  have first : (ofText (emptyBraces ++ t)).placeholders =
      [] ++ String.ofList (trim ('\x7d' :: rest)) :: placeholders ⟨pieces, []⟩ := by
    rw [placeholders, hpieces]
    rfl
  exact ⟨_, render_eq_error unlimited first (fun y hy => absurd hy List.not_mem_nil)
    (e.eval_brace rest)⟩

/-- Without a limit, empty braces before a template are literal if no closing braces come after the
first of their own, or if the template is not rendered by itself. Otherwise they start a placeholder
whose inner text starts with a closing brace, and that is the error. An inner text has closing
braces at its start only, and then it has no value for the same reason. -/
theorem keepsEmptyBraces_iff (e : Evaluator) (t : String) :
    (KeepsEmptyBraces ⟨e, none⟩ t ↔
      (∀ k, ¬ OccursAt closing ('\x7d' :: t.toList) k) ∨
        ∃ err, Renderer.render ⟨e, none⟩ t = .error err) ∧
      (∀ k, OccursAt closing ('\x7d' :: t.toList) k →
        ∃ x, Renderer.render ⟨e, none⟩ (emptyBraces ++ t) =
          .error (.placeholder x ⟨.strayCharacter '\x7d', 0⟩)) ∧
      ∀ T, Splits t.toList T → ∀ piece ∈ T.pieces, ∀ k, OccursAt closing piece.2 k →
        k = 0 ∧ e.eval (String.ofList (trim piece.2)) = .error ⟨.strayCharacter '\x7d', 0⟩ := by
  refine ⟨⟨fun keeps => ?_, ?_⟩, fun k => render_emptyBraces_eq_error, ?_⟩
  · by_cases h : ∃ k, OccursAt closing ('\x7d' :: t.toList) k
    · obtain ⟨k, hk⟩ := h
      obtain ⟨x, failed⟩ := render_emptyBraces_eq_error (e := e) hk
      exact .inr (keeps.1.mp ⟨_, failed⟩)
    · exact .inl fun k hk => h ⟨k, hk⟩
  · intro h
    by_cases closed : ∃ k, OccursAt closing ('\x7d' :: t.toList) k
    · obtain ⟨k, hk⟩ := closed
      obtain ⟨x, failed⟩ := render_emptyBraces_eq_error (e := e) hk
      obtain ⟨err, failed'⟩ := h.resolve_left fun unclosed => unclosed k hk
      refine ⟨iff_of_true ⟨_, failed⟩ ⟨_, failed'⟩, fun out rendered => ?_⟩
      rw [failed'] at rendered
      cases rendered
    · obtain ⟨braced, alone⟩ :=
        render_emptyBraces (r := ⟨e, none⟩) fun k hk => closed ⟨k, hk⟩
      refine ⟨?_, fun out rendered => ?_⟩
      · rw [braced, alone]
        refine iff_of_false ?_ ?_ <;> exact fun ⟨_, failed⟩ => by cases failed
      · rw [alone] at rendered
        rw [braced, Except.ok.inj rendered]
  · intro T splits piece hpiece k hk
    obtain rfl := splits.eq_zero_of_occursAt piece hpiece k hk
    obtain ⟨others, heq⟩ := hk
    refine ⟨rfl, ?_⟩
    rw [show piece.2 = '\x7d' :: '\x7d' :: others from heq.symm]
    exact e.eval_brace _

/-- Empty braces before a placeholder swallow it. -/
theorem not_keepsEmptyBraces_of_placeholder :
    ¬ KeepsEmptyBraces ⟨⟨Context.empty, [], 32⟩, none⟩ "\x7b\x7b 1 \x7d\x7d" ∧
      (ofText (emptyBraces ++ "\x7b\x7b 1 \x7d\x7d")).pieces =
        [([], "\x7d\x7d\x7b\x7b 1 ".toList)] := by
  refine ⟨fun keeps => ?_, by decide +kernel⟩
  have alone : (Renderer.render ⟨⟨Context.empty, [], 32⟩, none⟩
      "\x7b\x7b 1 \x7d\x7d").toOption = some "1" := by decide +kernel
  have closed : OccursAt closing ('\x7d' :: "\x7b\x7b 1 \x7d\x7d".toList) 6 := ⟨[], rfl⟩
  obtain ⟨x, failed⟩ := render_emptyBraces_eq_error (e := ⟨Context.empty, [], 32⟩) closed
  rw [keeps.2 _ (toOption_eq_some_iff.mp alone)] at failed
  cases failed

end Renderer

end Bulletin
