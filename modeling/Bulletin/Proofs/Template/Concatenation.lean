import Bulletin.Proofs.FirstFault
import Bulletin.Proofs.Template.Substitution

/-!
# Templates one after another

Two templates can be put side by side where the first one is sealed: behind its last placeholder
there are no opening braces, and not half of them at its end. No placeholder of the whole then
starts in the first template and ends in the second, so the placeholders are those of the one and
then those of the other, and rendering the whole is rendering the one and then the other.
-/

namespace Bulletin

namespace Template

/-! ### Sealed ends -/

/-- Nothing that comes after a text can make a placeholder start in it. -/
structure Sealed (tail : List Char) : Prop where
  no_opening : ∀ k, ¬ OccursAt opening tail k
  no_half : tail.getLast? ≠ some '\x7b'

/-- Opening braces in a text with a sealed one before it stand in that text. -/
theorem Sealed.exists_occursAt {tail text : List Char} {i : Nat} (h : Sealed tail)
    (hopening : OccursAt opening (tail ++ text) i) :
    ∃ k, i = tail.length + k ∧ OccursAt opening text k := by
  rcases Nat.lt_or_ge i tail.length with inside | behind
  · by_cases whole : i + opening.length ≤ tail.length
    · exact absurd ((OccursAt.append_right_iff whole).mp hopening) (h.no_opening i)
    · -- Only the first of the two braces stands in the sealed text, so it is the last character.
      have last : i = tail.length - 1 := by
        simp only [opening, List.length_cons, List.length_nil] at whole
        omega
      obtain ⟨others, hothers⟩ := hopening
      have brace : (tail ++ text)[i]? = some '\x7b' := by
        rw [← List.head?_drop, ← hothers]
        rfl
      rw [List.getElem?_append_left inside, last, ← List.getLast?_eq_getElem?] at brace
      exact absurd brace h.no_half
  · obtain ⟨k, rfl⟩ := Nat.exists_eq_add_of_le behind
    exact ⟨k, rfl, OccursAt.append_left_iff.mp hopening⟩

theorem exists_join_eq_append (pieces : List (List Char × List Char)) (tail : List Char) :
    ∃ before, join pieces tail = before ++ tail := by
  induction pieces with
  | nil => exact ⟨[], rfl⟩
  | cons piece pieces ih =>
    obtain ⟨before, hbefore⟩ := ih
    refine ⟨piece.1 ++ opening ++ piece.2 ++ closing ++ before, ?_⟩
    rw [join, hbefore, List.append_assoc _ before tail]

/-- The end of a template is the end of its text. -/
theorem Splits.getLast?_tail {text : List Char} {T : Template} {c : Char} (h : Splits text T)
    (hlast : T.tail.getLast? = some c) : text.getLast? = some c := by
  obtain ⟨before, hbefore⟩ := exists_join_eq_append T.pieces T.tail
  rw [← h.join_eq, hbefore, List.getLast?_append, hlast, Option.some_or]

/-! ### The decomposition of the whole -/

/-- The pieces of one template and then those of another. What is left of the first one is literal
text before the first placeholder of the second. -/
def append (T T' : Template) : Template :=
  match T'.pieces with
  | [] => ⟨T.pieces, T.tail ++ T'.tail⟩
  | (literal, inner) :: rest => ⟨T.pieces ++ (T.tail ++ literal, inner) :: rest, T'.tail⟩

theorem append_cons (piece : List Char × List Char) (T T' : Template) :
    append ⟨piece :: T.pieces, T.tail⟩ T' =
      ⟨piece :: (T.append T').pieces, (T.append T').tail⟩ := by
  simp only [append]
  split <;> rfl

theorem placeholders_append (T T' : Template) :
    (T.append T').placeholders = T.placeholders ++ T'.placeholders := by
  obtain ⟨pieces, tail⟩ := T
  obtain ⟨_ | ⟨⟨literal, inner⟩, rest⟩, tail'⟩ := T' <;> simp [append, placeholders]

variable {u v : List Char} {T T' : Template}

/-- Literal text that is sealed only moves what comes after it. -/
theorem Splits.append_tail {tail : List Char} (hsealed : Sealed tail) (h : Splits v T) :
    Splits (tail ++ v) (append ⟨[], tail⟩ T) := by
  cases h with
  | tail rest =>
    refine .tail fun i j hi hj => ?_
    obtain ⟨k, rfl, hk⟩ := hsealed.exists_occursAt hi
    rcases Nat.lt_or_ge j tail.length with inside | behind
    · omega
    · obtain ⟨l, rfl⟩ := Nat.exists_eq_add_of_le behind
      have := rest k l hk (OccursAt.append_left_iff.mp hj)
      omega
  | @piece _ literal inner after others text_eq inner_ne_nil first shortest rest =>
    have whole_eq : tail ++ v = (tail ++ literal) ++ opening ++ inner ++ closing ++ after := by
      rw [text_eq]
      simp only [List.append_assoc]
    refine .piece whole_eq inner_ne_nil (fun k hk hopening => ?_) shortest rest
    obtain ⟨l, rfl, hl⟩ := hsealed.exists_occursAt hopening
    have hlt : tail.length + l < tail.length + literal.length := List.length_append ▸ hk
    exact first l (Nat.lt_of_add_lt_add_left hlt) hl

/-- No placeholder of a template with a sealed end is moved, made longer or made shorter by what
comes after the template. -/
theorem Splits.append (h : Splits u T) (hsealed : Sealed T.tail) (h' : Splits v T') :
    Splits (u ++ v) (T.append T') := by
  induction h with
  | tail rest => exact h'.append_tail hsealed
  | @piece text literal inner after others text_eq inner_ne_nil first shortest rest ih =>
    rw [append_cons (literal, inner) others T']
    have whole_eq : text ++ v = literal ++ opening ++ inner ++ closing ++ (after ++ v) := by
      rw [text_eq]
      simp only [List.append_assoc]
    refine .piece whole_eq inner_ne_nil (fun k hk hopening => ?_) shortest (ih hsealed)
    refine first k hk ((OccursAt.append_right_iff ?_).mp hopening)
    rw [text_eq]
    simp only [List.length_append, opening, List.length_cons, List.length_nil]
    omega

theorem ofText_append {u v : String} (hsealed : Sealed (ofText u).tail) :
    ofText (u ++ v) = (ofText u).append (ofText v) := by
  have splits : Splits u.toList (ofText u) := splits_iff.mpr rfl
  have splits' : Splits v.toList (ofText v) := splits_iff.mpr rfl
  rw [eq_comm, ← splits_iff, String.toList_append]
  exact splits.append hsealed splits'

/-! ### The text of the whole -/

section Fill

variable {ε : Type} (f : String → Except ε String)

theorem fillPieces_cons (piece : List Char × List Char) (pieces : List (List Char × List Char))
    (tail : List Char) :
    fillPieces f (piece :: pieces) tail = (do
      let text ← f (String.ofList (trim piece.2))
      let after ← fillPieces f pieces tail
      return piece.1 ++ text.toList ++ after) := by
  rw [fillPieces]
  cases f (String.ofList (trim piece.2)) with
  | error e => rfl
  | ok text => cases fillPieces f pieces tail <;> rfl

theorem fillPieces_append (T T' : Template) :
    fillPieces f (T.append T').pieces (T.append T').tail = (do
      let first ← fillPieces f T.pieces T.tail
      let second ← fillPieces f T'.pieces T'.tail
      return first ++ second) := by
  obtain ⟨pieces, tail⟩ := T
  induction pieces with
  | nil =>
    obtain ⟨_ | ⟨piece, rest⟩, tail'⟩ := T'
    · rfl
    · change fillPieces f ((tail ++ piece.1, piece.2) :: rest) tail' = _
      rw [fillPieces_cons, fillPieces_cons]
      cases f (String.ofList (trim piece.2)) with
      | error e => rfl
      | ok text =>
        cases fillPieces f rest tail' with
        | error e => rfl
        | ok after =>
          refine congrArg Except.ok ?_
          simp only [List.append_assoc]
  | cons piece pieces ih =>
    rw [append_cons piece ⟨pieces, tail⟩, fillPieces_cons, fillPieces_cons, ih]
    cases f (String.ofList (trim piece.2)) with
    | error e => rfl
    | ok text =>
      cases fillPieces f pieces tail with
      | error e => rfl
      | ok first =>
        cases fillPieces f T'.pieces T'.tail with
        | error e => rfl
        | ok second => exact congrArg Except.ok (List.append_assoc _ first second).symm

theorem fill_append (T T' : Template) :
    (T.append T').fill f = (do
      let first ← T.fill f
      let second ← T'.fill f
      return first ++ second) := by
  simp only [fill, fillPieces_append]
  cases fillPieces f T.pieces T.tail with
  | error e => rfl
  | ok first =>
    cases fillPieces f T'.pieces T'.tail with
    | error e => rfl
    | ok second => exact congrArg Except.ok String.ofList_append

end Fill

end Template

open Template in
/-- When the text behind the last placeholder of one template has no opening braces and the template
does not end in an opening brace, then a template after it adds its placeholders behind those of the
first, and without a limit the whole fails as the first one, or else as the second one, or else is
rendered to what both are rendered to. -/
theorem Renderer.render_append (e : Evaluator) {u v : String}
    (no_opening : ∀ k, ¬ OccursAt opening (ofText u).tail k)
    (no_half : u.toList.getLast? ≠ some '\x7b') :
    (ofText (u ++ v)).placeholders = (ofText u).placeholders ++ (ofText v).placeholders ∧
      (∀ err, Renderer.render ⟨e, none⟩ u = .error err →
        Renderer.render ⟨e, none⟩ (u ++ v) = .error err) ∧
      (∀ out, Renderer.render ⟨e, none⟩ u = .ok out →
        (∀ err, Renderer.render ⟨e, none⟩ v = .error err →
          Renderer.render ⟨e, none⟩ (u ++ v) = .error err) ∧
        ∀ out', Renderer.render ⟨e, none⟩ v = .ok out' →
          Renderer.render ⟨e, none⟩ (u ++ v) = .ok (out ++ out')) := by
  have hsealed : Sealed (ofText u).tail :=
    ⟨no_opening, fun hlast => no_half (Splits.getLast?_tail (splits_iff.mpr rfl) hlast)⟩
  have unlimited (text : String) :
      Renderer.render ⟨e, none⟩ text = (ofText text).fill (Renderer.fill ⟨e, none⟩) := by
    refine render_eq_fill ?_
    rintro limit ⟨limited, -⟩
    cases limited
  simp only [unlimited, ofText_append hsealed, placeholders_append, fill_append, true_and]
  refine ⟨fun err failed => ?_, fun out rendered =>
    ⟨fun err failed => ?_, fun out' rendered' => ?_⟩⟩
  · rw [failed]
    rfl
  · rw [rendered, failed]
    rfl
  · rw [rendered, rendered']
    rfl

open Template in
/-- Braces that open nothing stand on both sides of the boundary. -/
theorem Renderer.render_append_stray_braces :
    (∀ k, ¬ OccursAt opening (ofText "\x7b\x7b 1 \x7d\x7d\x7d\x7bx").tail k) ∧
      "\x7b\x7b 1 \x7d\x7d\x7d\x7bx".toList.getLast? ≠ some '\x7b' ∧
      (ofText ("\x7b\x7b 1 \x7d\x7d\x7d\x7bx" ++
          "\x7b \x7b\x7b 'a' \x7d\x7d")).placeholders = ["1", "'a'"] ∧
      (Renderer.mk ⟨.empty, [], 32⟩ none).render
          ("\x7b\x7b 1 \x7d\x7d\x7d\x7bx" ++ "\x7b \x7b\x7b 'a' \x7d\x7d") =
        .ok "1\x7d\x7bx\x7b a" := by
  have tail : (ofText "\x7b\x7b 1 \x7d\x7d\x7d\x7bx").tail = ['\x7d', '\x7b', 'x'] := by
    decide +kernel
  have no_opening : ∀ k, ¬ OccursAt opening (ofText "\x7b\x7b 1 \x7d\x7d\x7d\x7bx").tail k := by
    rw [tail]
    intro k
    match k with
    | 0 | 1 | 2 | k + 3 => simp [OccursAt, opening]
  have no_half : "\x7b\x7b 1 \x7d\x7d\x7d\x7bx".toList.getLast? ≠ some '\x7b' := by decide
  have first : (Renderer.mk ⟨.empty, [], 32⟩ none).render "\x7b\x7b 1 \x7d\x7d\x7d\x7bx" =
      .ok "1\x7d\x7bx" := toOption_eq_some_iff.mp (by decide +kernel)
  have second : (Renderer.mk ⟨.empty, [], 32⟩ none).render "\x7b \x7b\x7b 'a' \x7d\x7d" =
      .ok "\x7b a" := toOption_eq_some_iff.mp (by decide +kernel)
  obtain ⟨placeholders, -, rendered⟩ :=
    render_append ⟨.empty, [], 32⟩ (v := "\x7b \x7b\x7b 'a' \x7d\x7d") no_opening no_half
  have expressions : (ofText "\x7b\x7b 1 \x7d\x7d\x7d\x7bx").placeholders ++
      (ofText "\x7b \x7b\x7b 'a' \x7d\x7d").placeholders = ["1", "'a'"] := by decide +kernel
  exact ⟨no_opening, no_half, placeholders.trans expressions, (rendered _ first).2 _ second⟩

end Bulletin
