import Bulletin.Value.Basic
import Mathlib.Data.List.Basic
import Mathlib.Data.List.Induction

/-!
# Members one after the other

Members that are put one after the other keep one for each key, in the place of the first with that
key and with the value of the last.
-/

namespace Bulletin

variable {α : Type} {members : List (String × α)}

/-- Puts members, one after the other, into those that are there. -/
def putTexts (done members : List (String × α)) : List (String × α) :=
  members.foldl (fun done member => putText member.1 member.2 done) done

/-- The members that are left of others: one for each key, in the place of the first with that key
and with the value of the last. -/
structure IsMerged (members merged : List (String × α)) : Prop where
  keys : merged.map Prod.fst = (members.map Prod.fst).eraseDups
  last : ∀ before key value after, members = before ++ (key, value) :: after →
    (∀ member ∈ after, member.1 ≠ key) → merged.lookup key = some value

theorem putTexts_concat (done members : List (String × α)) (member : String × α) :
    putTexts done (members ++ [member]) = putText member.1 member.2 (putTexts done members) := by
  rw [putTexts, List.foldl_append]
  rfl

theorem isMerged_putTexts (members : List (String × α)) :
    IsMerged members (putTexts [] members) := by
  induction members using List.reverseRecOn with
  | nil => exact ⟨rfl, by simp⟩
  | append_singleton members member ih =>
    rw [putTexts_concat]
    constructor
    · rw [map_fst_putText, ih.keys, List.map_append, List.eraseDups_append]
      split
      · next old => simp [List.removeAll, List.mem_eraseDups.mp old]
      · next new => simp [List.removeAll, mt List.mem_eraseDups.mpr new, List.eraseDups_cons]
    · intro before key value after split others
      rcases List.eq_nil_or_concat' after with rfl | ⟨after, last, rfl⟩
      · obtain ⟨rfl, same⟩ := List.append_inj' split rfl
        rw [List.cons.inj same |>.1, lookup_putText_self]
      · rw [← List.cons_append, ← List.append_assoc] at split
        obtain ⟨rfl, same⟩ := List.append_inj' split rfl
        rw [lookup_putText_of_ne]
        · exact ih.last before key value after rfl fun other hother =>
            others other (List.mem_append_left _ hother)
        · rw [List.cons.inj same |>.1]
          exact (others last (by simp)).symm

theorem nodup_putTexts (members : List (String × α)) :
    ((putTexts [] members).map Prod.fst).Nodup := by
  induction members using List.reverseRecOn with
  | nil => exact List.nodup_nil
  | append_singleton members member ih =>
    rw [putTexts_concat]
    exact nodup_putText ih

theorem forall_putTexts {p : α → Prop} (h : ∀ member ∈ members, p member.2) :
    ∀ member ∈ putTexts [] members, p member.2 := by
  induction members using List.reverseRecOn with
  | nil => exact h
  | append_singleton members member ih =>
    rw [putTexts_concat]
    exact forall_putText (h member (by simp)) (ih fun other hother => h other (by simp [hother]))

/-- Members whose keys differ are all left. -/
theorem putTexts_of_nodup (h : (members.map Prod.fst).Nodup) : putTexts [] members = members := by
  induction members using List.reverseRecOn with
  | nil => rfl
  | append_singleton members member ih =>
    rw [List.map_append, List.nodup_append] at h
    obtain ⟨distinct, -, differ⟩ := h
    rw [putTexts_concat, ih distinct]
    exact putText_of_not_mem (fun old => differ _ old member.1 (by simp) rfl) member.2

/-- If any item of a list has a property, a last one has. -/
theorem exists_last {β : Type} {p : β → Prop} {items : List β} (h : ∃ x ∈ items, p x) :
    ∃ before x after, items = before ++ x :: after ∧ p x ∧ ∀ y ∈ after, ¬ p y := by
  induction items using List.reverseRecOn with
  | nil =>
    obtain ⟨x, mem, -⟩ := h
    cases mem
  | append_singleton items last ih =>
    by_cases hlast : p last
    · exact ⟨items, last, [], rfl, hlast, List.forall_mem_nil _⟩
    · have earlier : ∃ x ∈ items, p x := by
        obtain ⟨x, mem, hx⟩ := h
        rcases List.mem_append.mp mem with old | new
        · exact ⟨x, old, hx⟩
        · exact absurd hx (List.mem_singleton.mp new ▸ hlast)
      obtain ⟨before, x, after, rfl, hx, others⟩ := ih earlier
      refine ⟨before, x, after ++ [last], by simp, hx, ?_⟩
      exact List.forall_mem_append.mpr ⟨others, List.forall_mem_singleton.mpr hlast⟩

/-- The value under a key is that of the last member with this key. -/
theorem IsMerged.lookup_eq_some_iff {merged : List (String × α)} (h : IsMerged members merged)
    {key : String} {value : α} :
    merged.lookup key = some value ↔ ∃ before after,
      members = before ++ (key, value) :: after ∧ ∀ member ∈ after, member.1 ≠ key := by
  constructor
  · intro found
    have mem : key ∈ members.map Prod.fst := by
      rw [← List.mem_eraseDups, ← h.keys]
      obtain ⟨before, after, split, -⟩ := List.lookup_eq_some_iff.mp found
      simp [split]
    obtain ⟨before, ⟨_, last⟩, after, split, rfl, others⟩ := exists_last (List.mem_map.mp mem)
    have same := h.last before _ last after split others
    rw [found] at same
    exact ⟨before, after, Option.some.inj same ▸ split, others⟩
  · rintro ⟨before, after, split, others⟩
    exact h.last before key value after split others

end Bulletin
