/-!
# The first fault

Work on items one after the other stops at the first that fails. Whether it fails, and with which
error, is settled by the errors of the items alone.
-/

namespace Bulletin

variable {α β ε : Type}

def fault? : Except ε α → Option ε
  | .ok _ => none
  | .error e => some e

@[simp]
theorem fault?_eq_some_iff {result : Except ε α} {e : ε} :
    fault? result = some e ↔ result = .error e := by
  cases result <;> simp [fault?]

@[simp]
theorem fault?_eq_none_iff {result : Except ε α} :
    fault? result = none ↔ ∃ a, result = .ok a := by
  cases result <;> simp [fault?]

@[simp]
theorem fault?_map (f : α → β) (result : Except ε α) : fault? (result.map f) = fault? result := by
  cases result <;> rfl

@[simp]
theorem fault?_mapError {ε' : Type} (f : ε → ε') (result : Except ε α) :
    fault? (result.mapError f) = (fault? result).map f := by
  cases result <;> rfl

/-- Where the second step fails in one way whatever the first one gives. -/
theorem fault?_bind {f : α → Except ε β} {result : Except ε α} {later : Option ε}
    (h : ∀ a, fault? (f a) = later) : fault? (result >>= f) = (fault? result).or later := by
  cases result with
  | error e => rfl
  | ok a => exact h a

theorem map_eq_ok_iff {f : α → β} {result : Except ε α} {b : β} :
    result.map f = .ok b ↔ ∃ a, result = .ok a ∧ f a = b := by
  cases result <;> simp [Except.map]

theorem mapError_eq_ok_iff {ε' : Type} {f : ε → ε'} {result : Except ε α} {a : α} :
    result.mapError f = .ok a ↔ result = .ok a := by
  cases result with
  | error e => exact iff_of_false (fun h => nomatch h) (fun h => nomatch h)
  | ok b =>
    constructor
    · rintro ⟨⟩
      rfl
    · rintro ⟨⟩
      rfl

theorem mapError_eq_error_iff {ε' : Type} {f : ε → ε'} {result : Except ε α} {e' : ε'} :
    result.mapError f = .error e' ↔ ∃ e, result = .error e ∧ f e = e' := by
  rw [← fault?_eq_some_iff, fault?_mapError, Option.map_eq_some_iff]
  simp only [fault?_eq_some_iff]

theorem toOption_eq_some_iff {result : Except ε α} {a : α} :
    result.toOption = some a ↔ result = .ok a := by
  cases result <;> simp [Except.toOption]

theorem bind_eq_ok_iff {f : α → Except ε β} {result : Except ε α} {b : β} :
    result >>= f = .ok b ↔ ∃ a, result = .ok a ∧ f a = .ok b := by
  cases result <;> simp [bind, Except.bind]

def firstFault? (f : α → Except ε β) (items : List α) : Option ε :=
  items.findSome? fun x => fault? (f x)

section

variable {f : α → Except ε β} {items : List α} {e : ε}

theorem firstFault?_cons (x : α) :
    firstFault? f (x :: items) = (fault? (f x)).or (firstFault? f items) := by
  rw [firstFault?, List.findSome?_cons]
  cases fault? (f x) <;> rfl

theorem firstFault?_append (before after : List α) :
    firstFault? f (before ++ after) = (firstFault? f before).or (firstFault? f after) :=
  List.findSome?_append

theorem firstFault?_eq_some_iff :
    firstFault? f items = some e ↔
      ∃ before x after, items = before ++ x :: after ∧ f x = .error e ∧
        ∀ y ∈ before, ∃ b, f y = .ok b := by
  simp only [firstFault?, List.findSome?_eq_some_iff, fault?_eq_some_iff, fault?_eq_none_iff]

theorem firstFault?_eq_none_iff : firstFault? f items = none ↔ ∀ x ∈ items, ∃ b, f x = .ok b := by
  simp only [firstFault?, List.findSome?_eq_none_iff, fault?_eq_none_iff]

theorem exists_firstFault?_eq_some_iff :
    (∃ e, firstFault? f items = some e) ↔ ∃ x ∈ items, ∃ e, f x = .error e := by
  simp only [← Option.isSome_iff_exists, firstFault?, List.findSome?_isSome_iff,
    ← fault?_eq_some_iff]

end

end Bulletin
