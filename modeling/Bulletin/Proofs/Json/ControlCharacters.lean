import Bulletin.Proofs.Json.Scalars
import Bulletin.Value.Operators

/-!
# Documents without control characters

Whatever texts stand in a document, no control character but the line feeds of its layout is in what
is written of it. No escape sequence of a terminal can then be among what is printed.
-/

namespace Bulletin

/-- A line feed, or a character that is none of the control characters before the space. -/
def isLineChar (c : Char) : Bool := c = '\n' || 0x20 ≤ c.toNat

/-- No control character before the space is in the text, except line feeds. -/
def HasNoControls (text : List Char) : Prop := text.all isLineChar

namespace HasNoControls

variable {text first last : List Char}

theorem append (hfirst : HasNoControls first) (hlast : HasNoControls last) :
    HasNoControls (first ++ last) := by
  rw [HasNoControls, List.all_append, hfirst, hlast, Bool.and_self]

theorem cons {c : Char} (hc : isLineChar c) (h : HasNoControls text) :
    HasNoControls (c :: text) := by
  rw [HasNoControls, List.all_cons, hc, h, Bool.and_self]

theorem of_forall_mem (h : ∀ c ∈ text, isLineChar c) : HasNoControls text := List.all_eq_true.mpr h

theorem not_mem {c : Char} (hc : isLineChar c = false) (h : HasNoControls text) : c ∉ text :=
  fun hmem => absurd (List.all_eq_true.mp h c hmem) (Bool.eq_false_iff.mp hc)

end HasNoControls

namespace Json

theorem hasNoControls_escapeChar (c : Char) : HasNoControls (escapeChar c) := by
  have hexadecimal : ∀ n < 0x20, (hexText 4 n).all isLineChar := by decide
  unfold escapeChar
  split
  · next special =>
    have special : c = '"' ∨ c = '\\' := by simpa using special
    rcases special with rfl | rfl <;> rfl
  split
  · rfl
  split
  · rfl
  split
  · rfl
  split
  · rfl
  split
  · rfl
  split
  · next low => exact .cons rfl (.cons rfl (hexadecimal _ low))
  · next high =>
    have plain : isLineChar c := by
      rw [isLineChar, decide_eq_true (Nat.le_of_not_lt high), Bool.or_true]
    exact .cons plain rfl

theorem hasNoControls_writeString (s : String) : HasNoControls (writeString s) := by
  refine .cons rfl (.append (.of_forall_mem fun c hc => ?_) rfl)
  obtain ⟨origin, -, hc⟩ := List.mem_flatMap.mp hc
  exact List.all_eq_true.mp (hasNoControls_escapeChar origin) c hc

theorem hasNoControls_numeral (n : WrittenNumeral) : HasNoControls n.text := by
  refine .of_forall_mem fun c hc => ?_
  have numeral := n.isNumeralChar_text c hc
  simp only [isNumeralChar, Bool.or_eq_true, decide_eq_true_eq] at numeral
  obtain ((((digit | rfl) | rfl) | rfl) | rfl) | rfl := numeral
  · have low : 0x30 ≤ c.toNat := (Char.isDigit_iff_toNat.mp digit).1
    rw [isLineChar, decide_eq_true (Nat.le_trans (by decide) low), Bool.or_true]
  all_goals rfl

theorem hasNoControls_fullText (x : Double) : HasNoControls x.fullText := by
  match x with
  | .nan => rfl
  | .infinite true => rfl
  | .infinite false => rfl
  | .finite negative units bounded =>
    obtain ⟨n, htext, -, -⟩ := Double.exists_fullText (x := .finite negative units bounded) rfl
    exact htext ▸ hasNoControls_numeral n

section

variable {spacing : Spacing}

mutual

theorem hasNoControls_write (hitem : ∀ depth, HasNoControls (spacing.beforeItem depth))
    (hcolon : HasNoControls spacing.afterColon) (depth : Nat) :
    ∀ document : Json, HasNoControls (write spacing depth document)
  | .null => by
    rw [write]
    rfl
  | .bool true => by
    rw [write]
    rfl
  | .bool false => by
    rw [write]
    rfl
  | .int n => by
    rw [write, ← WrittenNumeral.text_ofInt]
    exact hasNoControls_numeral _
  | .double x => hasNoControls_fullText x
  | .str s => hasNoControls_writeString s
  | .array [] => by
    rw [write]
    rfl
  | .array (item :: rest) => by
    rw [write]
    exact .cons rfl (((((hitem _).append (hasNoControls_write hitem hcolon _ item)).append
      (hasNoControls_writeItems hitem hcolon _ rest)).append (hitem _)).append rfl)
  | .object [] => by
    rw [write]
    rfl
  | .object ((key, value) :: rest) => by
    rw [write]
    exact .cons rfl (((hitem _).append (hasNoControls_writeString key)).append
      (.cons rfl ((((hcolon.append (hasNoControls_write hitem hcolon _ value)).append
        (hasNoControls_writeMembers hitem hcolon _ rest)).append (hitem _)).append rfl)))

theorem hasNoControls_writeItems (hitem : ∀ depth, HasNoControls (spacing.beforeItem depth))
    (hcolon : HasNoControls spacing.afterColon) (depth : Nat) :
    ∀ items : List Json, HasNoControls (writeItems spacing depth items)
  | [] => rfl
  | item :: rest =>
    .cons rfl (((hitem _).append (hasNoControls_write hitem hcolon _ item)).append
      (hasNoControls_writeItems hitem hcolon _ rest))

theorem hasNoControls_writeMembers (hitem : ∀ depth, HasNoControls (spacing.beforeItem depth))
    (hcolon : HasNoControls spacing.afterColon) (depth : Nat) :
    ∀ members : List (String × Json), HasNoControls (writeMembers spacing depth members)
  | [] => rfl
  | (key, value) :: rest =>
    .cons rfl (((hitem _).append (hasNoControls_writeString key)).append
      (.cons rfl ((hcolon.append (hasNoControls_write hitem hcolon _ value)).append
        (hasNoControls_writeMembers hitem hcolon _ rest))))

end

end

theorem hasNoControls_indented (document : Json) : HasNoControls document.indented.toList := by
  rw [indented, String.toList_ofList]
  have item (depth : Nat) : HasNoControls (Spacing.indented.beforeItem depth) := by
    refine .cons rfl (.of_forall_mem fun c hc => ?_)
    rw [List.eq_of_mem_replicate hc]
    rfl
  exact hasNoControls_write item rfl 0 document

end Json

/-- Indented JSON, on lines of its own, has no escape character. -/
theorem Value.escape_not_mem_prettyJson (v : Value) : '\x1b' ∉ (v.prettyJson ++ "\n").toList := by
  rw [String.toList_append]
  exact HasNoControls.not_mem rfl (.append (Json.hasNoControls_indented _) rfl)

end Bulletin
