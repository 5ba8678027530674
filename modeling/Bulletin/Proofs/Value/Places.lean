import Bulletin.Proofs.Value.Document

/-!
# Values inside of others

A value may stand inside of lists and mappings, at an item or at the last entry of its key. The text
of the whole then holds a text of the value at one place, the same text wherever it stands, and what
is around it does not depend on the value.
-/

namespace Bulletin

namespace Json

/-! ### Compact texts -/

theorem Spacing.beforeItem_compact (depth : Nat) : Spacing.compact.beforeItem depth = [] := rfl

theorem Spacing.afterColon_compact : Spacing.compact.afterColon = [] := rfl

mutual

/-- Without blanks, the text of a document is the same at every depth. -/
theorem write_compact (depth : Nat) :
    ∀ document : Json, write .compact depth document = write .compact 0 document
  | .null => rfl
  | .bool _ => rfl
  | .int _ => rfl
  | .double _ => rfl
  | .str _ => rfl
  | .array [] => rfl
  | .array (item :: rest) => by
    rw [write, write, write_compact (depth + 1) item, write_compact (0 + 1) item,
      writeItems_compact depth, writeItems_compact 0]
    rfl
  | .object [] => rfl
  | .object ((key, value) :: rest) => by
    rw [write, write, write_compact (depth + 1) value, write_compact (0 + 1) value,
      writeMembers_compact depth, writeMembers_compact 0]
    rfl

theorem writeItems_compact (depth : Nat) :
    ∀ items : List Json, writeItems .compact depth items =
      items.flatMap fun item => ',' :: write .compact 0 item
  | [] => rfl
  | item :: rest => by
    rw [writeItems, write_compact (depth + 1) item, writeItems_compact depth rest,
      List.flatMap_cons]
    rfl

theorem writeMembers_compact (depth : Nat) :
    ∀ members : List (String × Json), writeMembers .compact depth members =
      members.flatMap fun member =>
        ',' :: (writeString member.1 ++ ':' :: write .compact 0 member.2)
  | [] => rfl
  | (key, value) :: rest => by
    rw [writeMembers, write_compact (depth + 1) value, writeMembers_compact depth rest,
      List.flatMap_cons]
    simp [Spacing.beforeItem_compact, Spacing.afterColon_compact]

end

theorem exists_write_array (before after : List Json) :
    ∃ front back, ∀ item, write .compact 0 (.array (before ++ item :: after)) =
      front ++ (write .compact 0 item ++ back) := by
  cases before with
  | nil =>
    refine ⟨['['], writeItems .compact 0 after ++ [']'], fun item => ?_⟩
    simp [write, write_compact 1, Spacing.beforeItem_compact]
  | cons first others =>
    refine ⟨'[' :: (write .compact 0 first ++ writeItems .compact 0 others ++ [',']),
      writeItems .compact 0 after ++ [']'], fun item => ?_⟩
    simp [write, write_compact 1, writeItems_compact, Spacing.beforeItem_compact]

theorem exists_write_object (before after : List (String × Json)) (key : String) :
    ∃ front back, ∀ value, write .compact 0 (.object (before ++ (key, value) :: after)) =
      front ++ (write .compact 0 value ++ back) := by
  cases before with
  | nil =>
    refine ⟨'\x7b' :: (writeString key ++ [':']), writeMembers .compact 0 after ++ ['\x7d'],
      fun value => ?_⟩
    simp [write, write_compact 1, Spacing.beforeItem_compact, Spacing.afterColon_compact]
  | cons first others =>
    refine ⟨'\x7b' :: (writeString first.1 ++ ':' :: (write .compact 0 first.2 ++
      writeMembers .compact 0 others ++ ',' :: (writeString key ++ [':']))),
      writeMembers .compact 0 after ++ ['\x7d'], fun value => ?_⟩
    simp [write, write_compact 1, writeMembers_compact, Spacing.beforeItem_compact,
      Spacing.afterColon_compact]

end Json

/-! ### Members of one key -/

section Members

variable {α : Type}

theorem exists_putText (key : String) (entries : List (String × α)) :
    ∃ front back, ∀ value, putText key value entries = front ++ (key, value) :: back := by
  induction entries with
  | nil => exact ⟨[], [], fun _ => rfl⟩
  | cons entry entries ih =>
    obtain ⟨k, below⟩ := entry
    by_cases same : k = key
    · exact ⟨[], entries, fun value => by simp [putText, putEntry, same]⟩
    · obtain ⟨front, back, h⟩ := ih
      refine ⟨(k, below) :: front, back, fun value => ?_⟩
      simp only [putText] at h
      simp [putText, putEntry, same, h]

theorem exists_putText_of_ne {key other : String} (h : other ≠ key) (below : α)
    (before after : List (String × α)) :
    ∃ front back, ∀ value, putText other below (before ++ (key, value) :: after) =
      front ++ (key, value) :: back := by
  induction before with
  | nil => exact ⟨[], putText other below after, fun value => by
      simp [putText, putEntry, Ne.symm h]⟩
  | cons entry before ih =>
    obtain ⟨k, old⟩ := entry
    by_cases same : k = other
    · exact ⟨(k, below) :: before, after, fun value => by simp [putText, putEntry, same]⟩
    · obtain ⟨front, back, ih⟩ := ih
      refine ⟨(k, old) :: front, back, fun value => ?_⟩
      simp only [putText] at ih
      simp [putText, putEntry, same, ih]

end Members

namespace Value

variable {nonFinite : Double → Json}

theorem documentItems_append (before after : List Value) :
    documentItems nonFinite (before ++ after) =
      documentItems nonFinite before ++ documentItems nonFinite after := by
  induction before with
  | nil => rfl
  | cons v before ih => rw [List.cons_append, documentItems, documentItems, ih, List.cons_append]

/-- The member of a key stays where it is if no defined value of that key follows. -/
theorem exists_documentMembers (nonFinite : Double → Json) {key : String}
    {rest : List (Value × Value)}
    (last : ∀ entry ∈ rest, entry.1.display = key → entry.2.isUndefined)
    (before after : List (String × Json)) :
    ∃ front back, ∀ member,
      documentMembers nonFinite (before ++ (key, member) :: after) rest =
        front ++ (key, member) :: back := by
  induction rest generalizing before after with
  | nil => exact ⟨before, after, fun _ => rfl⟩
  | cons entry rest ih =>
    obtain ⟨k, v⟩ := entry
    obtain ⟨here, last⟩ := List.forall_mem_cons.mp last
    cases undefined : v.isUndefined with
    | true =>
      obtain ⟨front, back, h⟩ := ih last before after
      exact ⟨front, back, fun member => by simp only [documentMembers, undefined, if_true, h]⟩
    | false =>
      have differs : k.display ≠ key := fun same => by
        have := here same
        rw [undefined] at this
        cases this
      obtain ⟨before', after', put⟩ :=
        exists_putText_of_ne differs (document nonFinite v) before after
      obtain ⟨front, back, h⟩ := ih last before' after'
      refine ⟨front, back, fun member => ?_⟩
      simp only [documentMembers, undefined, Bool.false_eq_true, if_false, put, h]

theorem documentMembers_append (done : List (String × Json)) (before after : List (Value × Value)) :
    documentMembers nonFinite done (before ++ after) =
      documentMembers nonFinite (documentMembers nonFinite done before) after := by
  induction before generalizing done with
  | nil => rfl
  | cons entry before ih =>
    obtain ⟨k, v⟩ := entry
    rw [List.cons_append, documentMembers, documentMembers, ih]

/-- A place inside of a list or a mapping. An entry counts if it is the last one of its key that is
defined. -/
inductive Place where
  | item (identity : Identity) (before after : List Value)
  | entry (identity : Identity) (before : List (Value × Value)) (key : Value)
      (after : List (Value × Value))
      (last : ∀ entry ∈ after, entry.1.display = key.display → entry.2.isUndefined)

def Place.put : Place → Value → Value
  | .item identity before after, v => .list identity (before ++ v :: after)
  | .entry identity before key after _, v => .mapping identity (before ++ (key, v) :: after)

/-- The text of a value where it stands inside of another one. -/
def partText (v : Value) : List Char := Json.write .compact 0 (v.document fun _ => .null)

theorem Place.isStructured_put (place : Place) (v : Value) : (place.put v).isStructured := by
  cases place <;> rfl

theorem Place.exists_partText (place : Place) :
    ∃ front back, ∀ v : Value, v.isUndefined = false →
      (place.put v).partText = front ++ (v.partText ++ back) := by
  cases place with
  | item identity before after =>
    obtain ⟨front, back, h⟩ := Json.exists_write_array (documentItems (fun _ => .null) before)
      (documentItems (fun _ => .null) after)
    refine ⟨front, back, fun v _ => ?_⟩
    rw [put, partText, document, documentItems_append, documentItems, h, partText]
  | entry identity before key after last =>
    obtain ⟨front, back, put⟩ := exists_putText key.display
      (documentMembers (fun _ => .null) [] before)
    obtain ⟨front, back, members⟩ := exists_documentMembers (fun _ => .null) last front back
    obtain ⟨front, back, h⟩ := Json.exists_write_object front back key.display
    refine ⟨front, back, fun v defined => ?_⟩
    simp only [Place.put, partText, document, documentMembers_append, documentMembers, defined,
      Bool.false_eq_true, if_false, put, members, h]

/-- What has a value inside at some depth: a place that has a place, and so on. -/
def surround (places : List Place) (v : Value) : Value := places.foldr Place.put v

/-- The text of what has a value inside, at whatever depth, holds the text of the value. -/
theorem exists_partText (outer : Place) (inner : List Place) :
    ∃ front back, ∀ v : Value, v.isUndefined = false →
      (surround (outer :: inner) v).partText = front ++ (v.partText ++ back) := by
  induction inner generalizing outer with
  | nil => exact outer.exists_partText
  | cons next inner ih =>
    obtain ⟨front, back, h⟩ := ih next
    obtain ⟨front', back', h'⟩ := outer.exists_partText
    refine ⟨front' ++ front, back ++ back', fun v defined => ?_⟩
    have some : (surround (next :: inner) v).isUndefined = false := by cases next <;> rfl
    rw [show surround (outer :: next :: inner) v = outer.put (surround (next :: inner) v) from rfl,
      h' _ some, h v defined]
    simp only [List.append_assoc]

/-- So does its rendered text. -/
theorem exists_rendered (outer : Place) (inner : List Place) :
    ∃ front back, ∀ v : Value, v.isUndefined = false →
      (surround (outer :: inner) v).rendered.toList = front ++ (v.partText ++ back) := by
  obtain ⟨front, back, h⟩ := exists_partText outer inner
  refine ⟨front, back, fun v defined => ?_⟩
  have structured : (surround (outer :: inner) v).isStructured := outer.isStructured_put _
  rw [rendered_of_isStructured structured, toJson_canonical, Json.compact, String.toList_ofList]
  exact h v defined

end Value

end Bulletin
